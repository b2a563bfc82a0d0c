/-
Gazetteer.Mmdb.Metadata — what a MaxMind database says about itself.

The metadata is the structure after the last marker in the file. Opening a
database needs all nine of its fields with values that fit; unknown fields are
read over, and a known field may not come twice.
-/
import Gazetteer.Mmdb.Data

namespace Gazetteer.Mmdb

/-- The bytes before the metadata. -/
def marker : ByteArray := ⟨#[0xAB, 0xCD, 0xEF]⟩ ++ "MaxMind.com".toUTF8

/-- The position after the last occurrence of the marker. -/
def metadataStart? (bytes : ByteArray) : Option Nat :=
  (search (bytes.size + 1)).map (· + marker.size)
where
  /-- The last occurrence that starts before a position. -/
  search : Nat → Option Nat
    | 0 => none
    | start + 1 =>
      if bytes.extract start (start + marker.size) == marker then some start else search start

/-- What a MaxMind database says about itself. -/
structure Metadata where
  majorVersion : Nat
  minorVersion : Nat
  buildEpoch : Nat
  databaseType : String
  description : List (String × String)
  ipVersion : Nat
  languages : List String
  nodeCount : Nat
  /-- The number of bits in a node's record. -/
  recordSize : Nat
  deriving Repr

namespace Metadata

/-- The metadata as far as it has been read. -/
structure Parts where
  majorVersion : Option Nat := none
  minorVersion : Option Nat := none
  buildEpoch : Option Nat := none
  databaseType : Option String := none
  description : Option (List (String × String)) := none
  ipVersion : Option Nat := none
  languages : Option (List String) := none
  nodeCount : Option Nat := none
  recordSize : Option Nat := none

def fieldNames : List String := [
  "binary_format_major_version", "binary_format_minor_version", "build_epoch", "database_type",
  "description", "ip_version", "languages", "node_count", "record_size"]

def field (s : Section) (number : Nat) (m : Parts) : Reader Parts :=
  let short := s.natural 0xFFFF
  match number with
  | 0 => fill m.majorVersion short fun v => { m with majorVersion := some v }
  | 1 => fill m.minorVersion short fun v => { m with minorVersion := some v }
  | 2 => fill m.buildEpoch (s.natural 0xFFFFFFFFFFFFFFFF) fun v => { m with buildEpoch := some v }
  | 3 => fill m.databaseType s.text fun v => { m with databaseType := some v }
  | 4 => fill m.description s.textMap fun v => { m with description := some v }
  | 5 => fill m.ipVersion short fun v => { m with ipVersion := some v }
  | 6 => fill m.languages (s.list s.text) fun v => { m with languages := some v }
  | 7 => fill m.nodeCount (s.natural 0xFFFFFFFF) fun v => { m with nodeCount := some v }
  | _ => fill m.recordSize short fun v => { m with recordSize := some v }

/-- The metadata, if every field has been read. -/
def Parts.complete? (m : Parts) : Option Metadata := do
  return ⟨← m.majorVersion, ← m.minorVersion, ← m.buildEpoch, ← m.databaseType, ← m.description,
    ← m.ipVersion, ← m.languages, ← m.nodeCount, ← m.recordSize⟩

/-- The metadata of a file. -/
def ofBytes? (bytes : ByteArray) : Option Metadata := do
  let s : Section := ⟨bytes, ← metadataStart? bytes⟩
  let (m, _) ← s.fields fieldNames (field s) {} 0
  m.complete?

end Metadata

end Gazetteer.Mmdb
