/-
Gazetteer.Proofs.Address.Area — the rows of a block lie around its addresses and
no others.

The text of an area tells areas apart, so a row that is filed under the area of
an address lies in that area. The rows of a range cut it at the borders of its
areas. Hence an address is in the range exactly if one of the rows that are filed
under its area lies around it, wherever the range begins and ends.
-/
import Gazetteer.Address.Block
import Gazetteer.Proofs.Text.Numeral

namespace Gazetteer.Address

open Gazetteer.Text

/-! ## The text of an area -/

theorem dot_not_mem_decimal (n : Nat) : '.' ∉ decimal n := by
  intro h
  have := isDigit_of_mem_decimal h
  exact absurd this (by decide)

namespace V4

theorem splitOn_dotted (v : V4) : (dotted v).splitOn '.' = (octets v).map decimal := by
  refine List.splitOn_intercalate '.' ?_ (by simp [octets])
  intro part hm
  obtain ⟨n, -, rfl⟩ := List.mem_map.1 hm
  exact dot_not_mem_decimal n

theorem area_eq (v : V4) :
    area v = String.ofList
      (decimal (v.toNat / 0x1000000) ++ '.' :: decimal (v.toNat / 0x10000 % 0x100)) := by
  unfold area coarse?
  rw [splitOn_dotted]
  rfl

/-- Two addresses have the same text of their area exactly if they are in the same area. -/
theorem area_eq_iff (v w : V4) : area v = area w ↔ v.toNat / areaSize = w.toNat / areaSize := by
  have hv := v.isLt
  have hw := w.isLt
  rw [area_eq, area_eq]
  constructor
  · intro h
    have hlist := String.ofList_injective h
    have hsplit := congrArg (List.splitOn '.') hlist
    rw [List.splitOn_append_cons_self_of_not_mem (dot_not_mem_decimal _),
      List.splitOn_append_cons_self_of_not_mem (dot_not_mem_decimal _),
      List.splitOn_eq_singleton (dot_not_mem_decimal _),
      List.splitOn_eq_singleton (dot_not_mem_decimal _)] at hsplit
    obtain ⟨hfirst, hrest⟩ := List.cons.inj hsplit
    have h1 := decimal_injective hfirst
    have h2 := decimal_injective (List.cons.inj hrest).1
    unfold areaSize
    omega
  · intro h
    unfold areaSize at h
    have h1 : v.toNat / 0x1000000 = w.toNat / 0x1000000 := by omega
    have h2 : v.toNat / 0x10000 % 0x100 = w.toNat / 0x10000 % 0x100 := by omega
    rw [h1, h2]

end V4

/-! ## The rows of a range -/

/-- An address lies in a range. -/
def Range.Contains (r : Range) (v : V4) : Prop :=
  r.first.toNat ≤ v.toNat ∧ v.toNat ≤ r.last.toNat

/-- A row is filed under the area of an address and lies around it. -/
def BlockRow.Answers (row : BlockRow) (v : V4) : Prop :=
  row.area = V4.area v ∧ row.first.toNat ≤ v.toNat ∧ v.toNat ≤ row.last.toNat

variable {r : Range} {index : Nat}

/-- The part of a range in one of its areas is where the range and the area meet. -/
theorem within_bounds (hl : r.first.toNat / areaSize ≤ index)
    (hh : index ≤ r.last.toNat / areaSize) :
    (r.within index).first.toNat = max r.first.toNat (index * areaSize) ∧
      (r.within index).last.toNat = min r.last.toNat (index * areaSize + (areaSize - 1)) ∧
      (r.within index).first.toNat / areaSize = index := by
  have hfirst := r.first.isLt
  have hlast := r.last.isLt
  unfold areaSize at *
  have h1 : max r.first.toNat (index * 65536) < 2 ^ 32 := by omega
  have h2 : min r.last.toNat (index * 65536 + (65536 - 1)) < 2 ^ 32 := by omega
  have hw : (r.within index).first.toNat = max r.first.toNat (index * 65536) := by
    show (BitVec.ofNat 32 (max r.first.toNat (index * 65536))).toNat = _
    rw [BitVec.toNat_ofNat, Nat.mod_eq_of_lt h1]
  have hw' : (r.within index).last.toNat = min r.last.toNat (index * 65536 + (65536 - 1)) := by
    show (BitVec.ofNat 32 (min r.last.toNat (index * 65536 + (65536 - 1)))).toNat = _
    rw [BitVec.toNat_ofNat, Nat.mod_eq_of_lt h2]
  refine ⟨hw, hw', ?_⟩
  rw [hw]
  omega

/-- The row of a range in one of its areas. -/
def Range.row (r : Range) (block : String) (place : Int) (index : Nat) : BlockRow :=
  ⟨block, V4.area (r.within index).first, (r.within index).first, (r.within index).last, place⟩

theorem mem_ofRange {block : String} {place : Int} {row : BlockRow} :
    row ∈ BlockRow.ofRange block place r ↔
      ∃ index, r.first.toNat / areaSize ≤ index ∧ index ≤ r.last.toNat / areaSize ∧
        row = r.row block place index := by
  simp only [BlockRow.ofRange, List.mem_map, List.mem_range'_1]
  constructor
  · rintro ⟨index, ⟨hl, hh⟩, rfl⟩
    exact ⟨index, hl, by omega, rfl⟩
  · rintro ⟨index, hl, hh, rfl⟩
    exact ⟨index, ⟨hl, by omega⟩, rfl⟩

/-- The row in one area answers for the addresses of the range in that area. -/
theorem row_answers {block : String} {place : Int} (hl : r.first.toNat / areaSize ≤ index)
    (hh : index ≤ r.last.toNat / areaSize) (v : V4) :
    (r.row block place index).Answers v ↔ v.toNat / areaSize = index ∧ r.Contains v := by
  obtain ⟨hfirst, hlast, hindex⟩ := within_bounds hl hh
  have harea : (r.row block place index).area = V4.area v ↔ v.toNat / areaSize = index := by
    show V4.area (r.within index).first = V4.area v ↔ _
    rw [V4.area_eq_iff, hindex, eq_comm]
  unfold BlockRow.Answers
  rw [harea]
  show _ ∧ (r.within index).first.toNat ≤ _ ∧ _ ≤ (r.within index).last.toNat ↔ _
  rw [hfirst, hlast]
  unfold Range.Contains areaSize at *
  omega

/-- An address lies in a range exactly if one of its rows answers for the address. -/
theorem exists_answers_iff (r : Range) (block : String) (place : Int) (v : V4) :
    (∃ row ∈ BlockRow.ofRange block place r, row.Answers v) ↔ r.Contains v := by
  constructor
  · rintro ⟨row, hm, ha⟩
    obtain ⟨index, hl, hh, rfl⟩ := mem_ofRange.1 hm
    exact ((row_answers hl hh v).1 ha).2
  · intro hc
    obtain ⟨hfirst, hlast⟩ := id hc
    have hl : r.first.toNat / areaSize ≤ v.toNat / areaSize := Nat.div_le_div_right hfirst
    have hh : v.toNat / areaSize ≤ r.last.toNat / areaSize := Nat.div_le_div_right hlast
    exact ⟨_, mem_ofRange.2 ⟨_, hl, hh, rfl⟩, (row_answers hl hh v).2 ⟨rfl, hc⟩⟩

/-! ## The range of a block -/

/-- The number of addresses in a block of some mask length. -/
def blockSize (length : Nat) : Nat := Nat.pow 2 (32 - length)

theorem blockSize_pos (length : Nat) : 0 < blockSize length := Nat.two_pow_pos _

/-- The range around an address begins at a multiple of its size, for the last one that does ends
with the greatest address. -/
theorem around_bounds (address : V4) {length : Nat} (h : length ≤ 32) :
    (Range.around address length).first.toNat =
        address.toNat / blockSize length * blockSize length ∧
      (Range.around address length).last.toNat + 1 =
        address.toNat / blockSize length * blockSize length + blockSize length := by
  have hlt := address.isLt
  have hpos := blockSize_pos length
  have hpow : 2 ^ length * blockSize length = 2 ^ 32 := by
    show 2 ^ length * 2 ^ (32 - length) = 2 ^ 32
    rw [← Nat.pow_add, Nat.add_sub_cancel' h]
  have hdiv : address.toNat / blockSize length < 2 ^ length := by
    rw [Nat.div_lt_iff_lt_mul hpos, hpow]
    exact hlt
  have hend : address.toNat / blockSize length * blockSize length + blockSize length ≤ 2 ^ 32 := by
    calc address.toNat / blockSize length * blockSize length + blockSize length
        = (address.toNat / blockSize length + 1) * blockSize length := by rw [Nat.succ_mul]
      _ ≤ 2 ^ length * blockSize length := Nat.mul_le_mul_right _ hdiv
      _ = 2 ^ 32 := hpow
  have hfirst : (Range.around address length).first.toNat =
      address.toNat / blockSize length * blockSize length % 2 ^ 32 := BitVec.toNat_ofNat _ _
  have hlast : (Range.around address length).last.toNat =
      (address.toNat / blockSize length * blockSize length + blockSize length - 1) % 2 ^ 32 :=
    BitVec.toNat_ofNat _ _
  rw [hfirst, hlast, Nat.mod_eq_of_lt (by omega), Nat.mod_eq_of_lt (by omega)]
  omega

/-- The range around an address begins at or before it and ends at or after it. -/
theorem contains_around (address : V4) {length : Nat} (h : length ≤ 32) :
    (Range.around address length).Contains address := by
  obtain ⟨hfirst, hlast⟩ := around_bounds address h
  have hlow := Nat.div_mul_le_self address.toNat (blockSize length)
  have hhigh : address.toNat <
      address.toNat / blockSize length * blockSize length + blockSize length :=
    Nat.lt_div_mul_add (blockSize_pos length)
  unfold Range.Contains
  omega

theorem maskLength?_le {mask : List Char} {length : Nat} (h : maskLength? mask = some length) :
    length ≤ 32 := by
  unfold maskLength? at h
  split at h
  · obtain ⟨-, hle⟩ := Option.filter_eq_some_iff.1 h
    simpa using hle
  · cases h

theorem kind_eq_block_iff {text : String} :
    kind text = .block ↔ ∃ address mask length, cut '/' text.toList = some (address, mask) ∧
      maskLength? mask = some length ∧ V4.isDotted address = true := by
  unfold kind
  cases hcut : cut '/' text.toList with
  | none =>
    simp only [reduceCtorEq, false_and, exists_const, iff_false]
    split
    · simp
    · split <;> simp
  | some found =>
    obtain ⟨address, mask⟩ := found
    dsimp only
    split
    · next hvalid =>
      obtain ⟨hmask, hdotted⟩ := Bool.and_eq_true_iff.1 hvalid
      obtain ⟨length, hlength⟩ := Option.isSome_iff_exists.1 hmask
      exact iff_of_true rfl ⟨address, mask, length, rfl, hlength, hdotted⟩
    · next hvalid =>
      refine iff_of_false (by simp) ?_
      rintro ⟨_, _, length, heq, hlength, hdotted⟩
      obtain ⟨rfl, rfl⟩ := Prod.mk.inj (Option.some.inj heq)
      exact hvalid (by rw [hlength, hdotted]; rfl)

/-- The range of a block is the one around the address that stands before its slash. -/
theorem ofBlock?_eq {text : String} {address mask : List Char} {length : Nat}
    (h : kind text = .block) (hcut : cut '/' text.toList = some (address, mask))
    (hlength : maskLength? mask = some length) :
    Range.ofBlock? text = some (.around (V4.encode (String.ofList address)) length) := by
  unfold Range.ofBlock?
  rw [if_pos h, hcut]
  simp only [Option.bind_eq_bind, Option.bind_some, hlength]
  rfl

/-- A text that has a range is that of a block. -/
theorem ofBlock?_some {text : String} (h : Range.ofBlock? text = some r) :
    kind text = .block ∧ ∃ address length, length ≤ 32 ∧ r = .around address length := by
  have hk : kind text = .block := by
    unfold Range.ofBlock? at h
    split at h
    · next hk => exact hk
    · cases h
  obtain ⟨address, mask, length, hcut, hlength, -⟩ := kind_eq_block_iff.1 hk
  rw [ofBlock?_eq hk hcut hlength] at h
  exact ⟨hk, _, length, maskLength?_le hlength, (Option.some.inj h).symm⟩

/-- Every block text has a range. -/
theorem ofBlock?_of_kind {text : String} (h : kind text = .block) :
    ∃ range, Range.ofBlock? text = some range := by
  obtain ⟨address, mask, length, hcut, hlength, -⟩ := kind_eq_block_iff.1 h
  exact ⟨_, ofBlock?_eq h hcut hlength⟩

/-- A block has at least one row. -/
theorem ofRange_ne_nil {text : String} (h : Range.ofBlock? text = some r) (block : String)
    (place : Int) : BlockRow.ofRange block place r ≠ [] := by
  obtain ⟨-, address, length, hle, rfl⟩ := ofBlock?_some h
  obtain ⟨row, hm, -⟩ := (exists_answers_iff _ block place address).2 (contains_around address hle)
  exact List.ne_nil_of_mem hm

end Gazetteer.Address
