/-
Gazetteer.Address.Block — the range of a block, and the rows that store it.

The range of a block is the run of addresses that share the leading bits its
mask covers. It is stored as one row for each area (each run of 65536
addresses) it meets, so every row lies inside a single area and can be filed
under that area's text.
-/
import Gazetteer.Address.Kind

namespace Gazetteer.Address

open Gazetteer.Text

/-- A run of addresses, both ends included. -/
structure Range where
  first : V4
  last : V4
  deriving DecidableEq, Repr

/-- The run of `2 ^ (32 - length)` addresses around `address` that share its `length` leading
bits. -/
def Range.around (address : V4) (length : Nat) : Range :=
  let size := Nat.pow 2 (32 - length)
  let first := address.toNat / size * size
  { first := BitVec.ofNat 32 first, last := BitVec.ofNat 32 (first + size - 1) }

def Range.ofBlock? (s : String) : Option Range :=
  if kind s = .block then do
    let (address, mask) ← cut '/' s.toList
    let length ← maskLength? mask
    return .around (V4.encode (String.ofList address)) length
  else none

structure BlockRow where
  /-- The text of the block. -/
  block : String
  /-- The text of the area that the row lies in. -/
  area : String
  first : V4
  last : V4
  /-- The number of the place that the block belongs to. -/
  place : Int
  deriving DecidableEq, Repr

/-- The number of addresses in an area. -/
def areaSize : Nat := 65536

/-- The part of a range that lies in the area numbered `index`. -/
def Range.within (r : Range) (index : Nat) : Range where
  first := BitVec.ofNat 32 (max r.first.toNat (index * areaSize))
  last := BitVec.ofNat 32 (min r.last.toNat (index * areaSize + (areaSize - 1)))

/-- The rows of a block: one for each area that its range meets, in order. -/
def BlockRow.ofRange (block : String) (place : Int) (r : Range) : List BlockRow :=
  let low := r.first.toNat / areaSize
  let high := r.last.toNat / areaSize
  (List.range' low (high + 1 - low)).map fun index =>
    let part := r.within index
    { block, area := V4.area part.first, first := part.first, last := part.last, place }

end Gazetteer.Address
