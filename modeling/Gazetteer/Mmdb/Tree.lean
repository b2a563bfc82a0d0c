/-
Gazetteer.Mmdb.Tree — the search tree of a MaxMind database.

The tree is a row of nodes of two records each. From a node the next bit of an
address leads to its left or right record, which is the number of the next
node, or the count of nodes for "nothing here", or, past that and the sixteen
zero bytes between tree and data, a position among the data. In a tree of
version 6 a 32-bit address starts where 96 zero bits lead.
-/
import Gazetteer.Mmdb.Metadata
import Gazetteer.Address.Kind

namespace Gazetteer.Mmdb

/-- An opened database. -/
structure Database where
  bytes : ByteArray
  metadata : Metadata
  /-- The node at which 32-bit addresses start. -/
  shortStart : Nat

/-- A record of a node: the left one for the bit zero, the right one for the bit one. -/
def record? (bytes : ByteArray) (recordSize node : Nat) (bit : Bool) : Option Nat :=
  let s : Section := ⟨bytes, 0⟩
  let side := bit.toNat
  match recordSize with
  | 24 => s.number? (node * 6 + side * 3) 3
  | 28 => do
    let middle := (← s.byte? (node * 7 + 3)).toNat
    let lead := if bit then middle % 16 else middle / 16
    return lead * 0x1000000 + (← s.number? (node * 7 + side * 4) 3)
  | 32 => s.number? (node * 8 + side * 4) 4
  | _ => none

/-- The record that a path of bits leads to from a node; it ends at the first record that is no
node. -/
def walk (bytes : ByteArray) (m : Metadata) : (path : List Bool) → (node : Nat) → Option Nat
  | [], node => some node
  | bit :: path, node =>
    if m.nodeCount ≤ node then some node
    else match record? bytes m.recordSize node bit with
      | none => none
      | some next => walk bytes m path next

namespace Database

/-- Open a database. -/
def ofBytes? (bytes : ByteArray) : Option Database := do
  let metadata ← Metadata.ofBytes? bytes
  let shortStart ← if metadata.ipVersion = 6 then walk bytes metadata (List.replicate 96 false) 0
    else some 0
  return { bytes, metadata, shortStart }

def data (db : Database) : Section :=
  ⟨db.bytes, db.metadata.nodeCount * db.metadata.recordSize / 4 + 16⟩

/-- The position of the data that an address leads to. -/
def position? (db : Database) (address : Address.Numeric) : Option Nat := do
  let found ← match address with
    | .v4 a => walk db.bytes db.metadata (Address.bits a) db.shortStart
    | .v6 a => walk db.bytes db.metadata (Address.bits a) 0
  if db.metadata.nodeCount + 16 ≤ found then some (found - db.metadata.nodeCount - 16) else none

end Database

end Gazetteer.Mmdb
