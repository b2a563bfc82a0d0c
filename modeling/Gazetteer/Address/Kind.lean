/-
Gazetteer.Address.Kind — what an address text is.

A text is a dotted address, a colon-separated address, a block (a dotted
address, a slash and a mask length) or none of these. Nothing is trimmed
before the question is asked. `numeric?` is the address that a database keyed
by address bits is asked for; a block stands for the address it is written
with.
-/
import Gazetteer.Address.V6

namespace Gazetteer.Address

open Gazetteer.Text

/-- What an address text is. -/
inductive Kind where
  | v4
  | v6
  /-- A dotted address, a slash and a mask length. -/
  | block
  | invalid
  deriving DecidableEq, Repr

/-- The mask length that one or two ASCII digits denote, at most 32. -/
def maskLength? (cs : List Char) : Option Nat :=
  if cs.length ≤ 2 then (natural? cs).filter (· ≤ 32) else none

/-- What a text is. -/
def kind (s : String) : Kind :=
  match cut '/' s.toList with
  | some (address, mask) =>
    if (maskLength? mask).isSome && V4.isDotted address then .block else .invalid
  | none =>
    if V4.isDotted s.toList then .v4
    else if V6.isFull s.toList || V6.isCompressed s.toList || (V6.ofText? s.toList).isSome then .v6
    else .invalid

/-- The text is one address, not a block. -/
def isAddress (s : String) : Bool :=
  match kind s with
  | .v4 | .v6 => true
  | .block | .invalid => false

/-- An address as bits. -/
inductive Numeric where
  | v4 (address : V4)
  | v6 (address : V6)
  deriving DecidableEq, Repr

/-- The address to look up for a text: that of a block is the one written before its slash. -/
def numeric? (s : String) : Option Numeric :=
  match kind s with
  | .v4 => (V4.ofDotted? s.toList).map .v4
  | .v6 => (V6.ofText? s.toList).map .v6
  | .block => (cut '/' s.toList).bind fun (address, _) => (V4.ofDotted? address).map .v4
  | .invalid => none

theorem numeric?_of_v4 {s : String} (h : kind s = .v4) :
    numeric? s = (V4.ofDotted? s.toList).map .v4 := by
  rw [numeric?, h]

theorem numeric?_of_v6 {s : String} (h : kind s = .v6) :
    numeric? s = (V6.ofText? s.toList).map .v6 := by
  rw [numeric?, h]

theorem numeric?_of_block {s : String} {address mask : List Char} (h : kind s = .block)
    (hcut : cut '/' s.toList = some (address, mask)) :
    numeric? s = (V4.ofDotted? address).map .v4 := by
  rw [numeric?, h, hcut]
  rfl

/-- The bits of an address, the weightiest first. -/
def bits {width : Nat} (address : BitVec width) : List Bool :=
  (List.range width).map address.getMsbD

end Gazetteer.Address
