/-
Gazetteer.Proofs.Address.Checked — the arithmetic of addresses with all checks on.

Only a dotted address is weighed, a word is shifted by fewer places than it has, there
is an address after every one that is asked for the next, and a number is written with
two dots at least. A second way to read a block and to cut it into rows checks each of
these where it is needed and stops with an alarm. No text raises one, and so the checks
change nothing.
-/
import Gazetteer.Proofs.Address.Dotted
import Gazetteer.Proofs.Address.Range
import Gazetteer.Proofs.Address.Rows

namespace Gazetteer

open Text (cut natural?)

/-- What a check finds wrong. -/
inductive Alarm where
  /-- A text that is no dotted address is to be weighed. -/
  | notDotted (text : String)
  /-- A mask has more bits than a word. -/
  | tooLong (length : Nat)
  /-- A word is to be shifted by as many places as it has, or by more. -/
  | shifted (places : Nat)
  /-- The greatest address is asked for the next. -/
  | noNext (address : Address.V4)
  /-- A number is written with fewer than two dots. -/
  | noArea (address : Address.V4)
  /-- A connection is inside a transaction when it should be outside. -/
  | inside
  deriving DecidableEq, Repr

namespace Address

variable {s : String} {r : Range} {start : V4} {block : String} {place : Int} {length : Nat}

/-! ## Numbers -/

namespace V4

/-- The number of a text, which must be a dotted address. -/
def encodeChecked (s : String) : Except Alarm V4 :=
  if kind s = .v4 then .ok (encode s) else .error (.notDotted s)

/-- The text of the first two octets of a number; there must be two dots in it. -/
def areaChecked (v : V4) : Except Alarm String :=
  match coarse? (dotted v) with
  | some text => .ok (String.ofList text)
  | none => .error (.noArea v)

/-- The word whose `length` leading bits are set; neither the subtraction nor the shift may go
wrong. -/
def maskChecked (length : Nat) : Except Alarm V4 :=
  if length = 0 then .ok 0
  else if 32 < length then .error (.tooLong length)
  else if 32 ≤ 32 - length then .error (.shifted (32 - length))
  else .ok (BitVec.allOnes 32 <<< (32 - length))

theorem encodeChecked_of_v4 (h : kind s = .v4) : encodeChecked s = .ok (encode s) := if_pos h

/-- Every number is written with three dots. -/
theorem areaChecked_eq (v : V4) : areaChecked v = .ok (area v) := by
  unfold areaChecked area coarse?
  rw [splitOn_dotted]
  rfl

theorem maskChecked_eq (h : length ≤ 32) : maskChecked length = .ok (mask length) := by
  unfold maskChecked mask
  split
  · rfl
  · rw [if_neg (by omega), if_neg (by omega)]

example : maskChecked 33 = .error (.tooLong 33) := rfl

end V4

/-! ## Blocks -/

/-- The range of a block, with a check wherever something could go wrong. -/
def Range.ofBlockChecked (s : String) : Except Alarm (Option Range) :=
  if kind s = .block then
    match cut '/' s.toList with
    | none => .ok none
    | some (address, mask) =>
      match natural? mask with
      | none => .ok none
      | some length => do
        let mask ← V4.maskChecked length
        let value ← V4.encodeChecked (String.ofList address)
        return some ⟨value &&& mask, value &&& mask ||| ~~~mask⟩
  else .ok none

/-- The part of a block text before its first slash is a dotted address. -/
theorem kind_of_block {address mask : List Char} (h : kind s = .block)
    (hcut : cut '/' s.toList = some (address, mask)) : kind (String.ofList address) = .v4 := by
  obtain ⟨before, behind, length, hparts, -, hdotted⟩ := kind_eq_block_iff.1 h
  obtain ⟨rfl, rfl⟩ := Prod.mk.inj (Option.some.inj (hcut.symm.trans hparts))
  refine kind_eq_v4_iff.2 ⟨?_, ?_⟩
  · rw [String.toList_ofList]
    exact (Text.cut_eq_some hcut).2
  · rwa [String.toList_ofList]

/-- No text raises an alarm when it is read as a block, and the checks change nothing. -/
theorem ofBlockChecked_eq (s : String) : Range.ofBlockChecked s = .ok (Range.ofBlock? s) := by
  by_cases h : kind s = .block
  · obtain ⟨address, mask, length, hcut, hlength, -⟩ := kind_eq_block_iff.1 h
    have hle := maskLength?_le hlength
    have hnatural : natural? mask = some length := by
      unfold maskLength? at hlength
      split at hlength
      · exact (Option.filter_eq_some_iff.1 hlength).1
      · cases hlength
    rw [ofBlock?_eq h hcut hlength, around_eq_masked _ hle]
    unfold Range.ofBlockChecked
    simp only [if_pos h, hcut, hnatural, V4.maskChecked_eq hle,
      V4.encodeChecked_of_v4 (kind_of_block h hcut)]
    rfl
  · rw [Range.ofBlockChecked, Range.ofBlock?, if_neg h, if_neg h]

/-! ## Rows -/

/-- The rows of a range from an address on, one after another, with a check wherever something could
go wrong. -/
def Range.rowsChecked (r : Range) (block : String) (place : Int) (start : V4) :
    Except Alarm (List BlockRow) :=
  match start.areaChecked with
  | .error alarm => .error alarm
  | .ok area =>
    let row : BlockRow := ⟨block, area, start, r.rowEnd start, place⟩
    if r.rowEnd start = r.last then .ok [row]
    else if (r.rowEnd start).toNat < (BitVec.allOnes 32).toNat then
      (r.rowsChecked block place (r.rowEnd start + 1)).map (row :: ·)
    else .error (.noNext (r.rowEnd start))
termination_by r.last.toNat - start.toNat
decreasing_by
  have := toNat_rowEnd_add_one ‹_›
  omega

/-- Behind a row that does not end the range there is another address. -/
theorem rowEnd_lt (h : r.rowEnd start ≠ r.last) :
    (r.rowEnd start).toNat < (BitVec.allOnes 32).toNat := by
  obtain ⟨hnext, -⟩ := toNat_rowEnd_add_one h
  have hlt := (r.rowEnd start + 1).isLt
  rw [BitVec.toNat_allOnes]
  omega

/-- Wherever the rows of a range begin, none of them raises an alarm, and they may end with the
greatest address. -/
theorem rowsChecked_eq (r : Range) (block : String) (place : Int) (start : V4) :
    r.rowsChecked block place start = .ok (r.rowsFrom block place start) := by
  fun_induction Range.rowsFrom r block place start
  case case1 start row hend =>
    unfold Range.rowsChecked
    rw [V4.areaChecked_eq]
    exact if_pos hend
  case case2 start row hend ih =>
    unfold Range.rowsChecked
    rw [V4.areaChecked_eq]
    simp only [if_neg hend, if_pos (rowEnd_lt hend), ih]
    rfl

/-- The rows of a block text, read and cut with all checks on. -/
def BlockRow.ofBlockChecked (block : String) (place : Int) :
    Except Alarm (Option (List BlockRow)) :=
  match Range.ofBlockChecked block with
  | .error alarm => .error alarm
  | .ok none => .ok none
  | .ok (some r) => (r.rowsChecked block place r.first).map some

/-- No text raises an alarm when its rows are cut, and the checks change none of them. -/
theorem rows_checked (block : String) (place : Int) : BlockRow.ofBlockChecked block place =
    .ok ((Range.ofBlock? block).map (BlockRow.ofRange block place)) := by
  unfold BlockRow.ofBlockChecked
  rw [ofBlockChecked_eq]
  cases hrange : Range.ofBlock? block with
  | none => rfl
  | some r =>
    obtain ⟨-, address, length, hle, rfl⟩ := ofBlock?_some hrange
    obtain ⟨hlow, hhigh⟩ := contains_around address hle
    dsimp only
    rw [rowsChecked_eq, rowsFrom_first block place (Nat.le_trans hlow hhigh)]
    rfl

end Address

end Gazetteer
