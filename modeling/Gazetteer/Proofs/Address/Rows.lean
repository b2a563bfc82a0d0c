/-
Gazetteer.Proofs.Address.Rows — the rows of a block cut its range into pieces.

The rows are written one after another: each ends where its area ends, unless the
range ends first, and the next begins right behind it. So they cover the range
without a gap or an overlap, each inside one area and filed under the text of that
area for every address in it. A block that fills whole areas has one row for each
of them, and a smaller one lies inside a single area.
-/
import Gazetteer.Proofs.Address.Area

namespace Gazetteer.Address

open Gazetteer.Text

variable {r : Range} {start : V4} {block : String} {place : Int}

/-! ## Row after row -/

/-- The end of the row that begins at an address: the end of its area, or of the range if that comes
first. -/
def Range.rowEnd (r : Range) (start : V4) : V4 :=
  if start ||| 0xFFFF ≤ r.last then start ||| 0xFFFF else r.last

theorem toNat_or_areaEnd (v : V4) :
    (v ||| 0xFFFF).toNat = v.toNat / areaSize * areaSize + (areaSize - 1) := by
  have hsplit : v.toNat / areaSize * areaSize + (areaSize - 1) =
      2 ^ 16 * (v.toNat / 2 ^ 16) + (2 ^ 16 - 1) := by
    unfold areaSize
    omega
  have hend : (0xFFFF : V4).toNat = 2 ^ 16 - 1 := rfl
  rw [hsplit, BitVec.toNat_or, hend]
  refine Nat.eq_of_testBit_eq fun i => ?_
  rw [Nat.testBit_two_pow_mul_add _ (by decide), Nat.testBit_or, Nat.testBit_two_pow_sub_one]
  by_cases hi : i < 16
  · simp [hi]
  · have hback : i - 16 + 16 = i := by omega
    rw [if_neg hi, Nat.testBit_div_two_pow, hback]
    simp [hi]

theorem toNat_rowEnd (r : Range) (start : V4) :
    (r.rowEnd start).toNat =
      min (start.toNat / areaSize * areaSize + (areaSize - 1)) r.last.toNat := by
  have harea := toNat_or_areaEnd start
  unfold Range.rowEnd
  split
  · next hle =>
    have hle : (start ||| 0xFFFF).toNat ≤ r.last.toNat := hle
    omega
  · next hle =>
    have hlt : r.last.toNat < (start ||| 0xFFFF).toNat := Nat.not_le.1 hle
    omega

/-- A row that does not end the range leaves room for the next one. -/
theorem toNat_rowEnd_add_one (h : r.rowEnd start ≠ r.last) :
    (r.rowEnd start + 1).toNat = (r.rowEnd start).toNat + 1 ∧
      (r.rowEnd start).toNat + 1 = (start.toNat / areaSize + 1) * areaSize ∧
      start.toNat < (r.rowEnd start + 1).toNat ∧ (r.rowEnd start + 1).toNat ≤ r.last.toNat := by
  have hend := toNat_rowEnd r start
  have hlast := r.last.isLt
  have hne : (r.rowEnd start).toNat ≠ r.last.toNat := fun heq => h (BitVec.eq_of_toNat_eq heq)
  have hnext : (r.rowEnd start + 1).toNat = (r.rowEnd start).toNat + 1 := by
    have hone : (1 : V4).toNat = 1 := rfl
    rw [BitVec.toNat_add, hone]
    exact Nat.mod_eq_of_lt (by omega)
  unfold areaSize at *
  omega

/-- The rows of a range from an address on. -/
def Range.rowsFrom (r : Range) (block : String) (place : Int) (start : V4) : List BlockRow :=
  let row : BlockRow := ⟨block, V4.area start, start, r.rowEnd start, place⟩
  if r.rowEnd start = r.last then [row] else row :: r.rowsFrom block place (r.rowEnd start + 1)
termination_by r.last.toNat - start.toNat
decreasing_by
  have := toNat_rowEnd_add_one ‹_›
  omega

/-- An address begins a row if the range or an area begins with it. -/
def Range.Begins (r : Range) (start : V4) : Prop :=
  r.first.toNat ≤ start.toNat ∧ start.toNat ≤ r.last.toNat ∧
    (start = r.first ∨ start.toNat % areaSize = 0)

/-- The row in the area of such an address is the one that begins with it. -/
theorem row_eq (h : r.Begins start) :
    r.row block place (start.toNat / areaSize) =
      ⟨block, V4.area start, start, r.rowEnd start, place⟩ := by
  obtain ⟨hlow, hhigh, hborder⟩ := h
  obtain ⟨hfirst, hlast, -⟩ := within_bounds (Nat.div_le_div_right (c := areaSize) hlow)
    (Nat.div_le_div_right hhigh)
  have hend := toNat_rowEnd r start
  have hstart : (r.within (start.toNat / areaSize)).first = start := by
    refine BitVec.eq_of_toNat_eq (hfirst.trans ?_)
    obtain rfl | hzero := hborder
    · exact Nat.max_eq_left (Nat.div_mul_le_self _ _)
    · rw [Nat.div_mul_cancel (Nat.dvd_of_mod_eq_zero hzero)]
      exact Nat.max_eq_right hlow
  have hstop : (r.within (start.toNat / areaSize)).last = r.rowEnd start :=
    BitVec.eq_of_toNat_eq (by rw [hlast, hend, Nat.min_comm])
  rw [Range.row, hstart, hstop]

/-- Behind a row that does not end the range begins the next one, in the next area. -/
theorem begins_next (h : r.Begins start) (hend : r.rowEnd start ≠ r.last) :
    r.Begins (r.rowEnd start + 1) ∧
      (r.rowEnd start + 1).toNat / areaSize = start.toNat / areaSize + 1 := by
  obtain ⟨hnext, hborder, hlt, hle⟩ := toNat_rowEnd_add_one hend
  have hpos : 0 < areaSize := by decide
  have heq : (r.rowEnd start + 1).toNat = (start.toNat / areaSize + 1) * areaSize :=
    hnext.trans hborder
  refine ⟨⟨Nat.le_of_lt (Nat.lt_of_le_of_lt h.1 hlt), hle, .inr ?_⟩, ?_⟩
  · rw [heq, Nat.mul_mod_left]
  · rw [heq, Nat.mul_div_cancel _ hpos]

/-- The rows from an address on are those in the areas that the range meets from there on. -/
theorem rowsFrom_eq (h : r.Begins start) :
    r.rowsFrom block place start =
      (List.range' (start.toNat / areaSize)
        (r.last.toNat / areaSize + 1 - start.toNat / areaSize)).map (r.row block place) := by
  fun_induction Range.rowsFrom r block place start
  case case1 start row hend =>
    have hsame : r.last.toNat / areaSize = start.toNat / areaSize := by
      have hstop := toNat_rowEnd r start
      have hhigh := h.2.1
      rw [hend] at hstop
      unfold areaSize at *
      omega
    rw [hsame, Nat.add_sub_cancel_left, List.range'_one, List.map_singleton, row_eq h]
  case case2 start row hend ih =>
    obtain ⟨hbegins, hindex⟩ := begins_next h hend
    have hhigh : (r.rowEnd start + 1).toNat / areaSize ≤ r.last.toNat / areaSize :=
      Nat.div_le_div_right hbegins.2.1
    have hcount : r.last.toNat / areaSize + 1 - start.toNat / areaSize =
        r.last.toNat / areaSize + 1 - (start.toNat / areaSize + 1) + 1 := by omega
    rw [ih hbegins, hindex, hcount, List.range'_succ, List.map_cons, row_eq h]

/-- The rows of a range are those from its first address on. -/
theorem rowsFrom_first (block : String) (place : Int) (h : r.first.toNat ≤ r.last.toNat) :
    r.rowsFrom block place r.first = BlockRow.ofRange block place r :=
  rowsFrom_eq ⟨Nat.le_refl _, h, .inl rfl⟩

/-! ## Pieces -/

/-- A row of a block lies inside one area and is filed under the text that this area has for every
address of the row. -/
structure BlockRow.IsPiece (row : BlockRow) (block : String) (place : Int) : Prop where
  block : row.block = block
  place : row.place = place
  ordered : row.first.toNat ≤ row.last.toNat
  inside : row.first.toNat / areaSize = row.last.toNat / areaSize
  filed : ∀ v : V4, row.first.toNat ≤ v.toNat → v.toNat ≤ row.last.toNat → row.area = V4.area v

/-- Rows cut the run from one address to another into pieces: each begins right behind the one
before it. -/
inductive BlockRow.Tiles (block : String) (place : Int) : V4 → V4 → List BlockRow → Prop where
  | last {row : BlockRow} (piece : row.IsPiece block place) :
    Tiles block place row.first row.last [row]
  | more {row : BlockRow} {next last : V4} {rows : List BlockRow}
    (piece : row.IsPiece block place) (behind : next.toNat = row.last.toNat + 1)
    (rest : Tiles block place next last rows) : Tiles block place row.first last (row :: rows)

theorem isPiece_rowEnd (h : start.toNat ≤ r.last.toNat) :
    BlockRow.IsPiece ⟨block, V4.area start, start, r.rowEnd start, place⟩ block place := by
  have hend := toNat_rowEnd r start
  have hordered : start.toNat ≤ (r.rowEnd start).toNat := by
    unfold areaSize at hend
    omega
  have hinside : start.toNat / areaSize = (r.rowEnd start).toNat / areaSize := by
    unfold areaSize at *
    omega
  refine ⟨rfl, rfl, hordered, hinside, fun v hlow hhigh => ?_⟩
  rw [V4.area_eq_iff]
  exact Nat.le_antisymm (Nat.div_le_div_right hlow)
    (hinside ▸ Nat.div_le_div_right hhigh)

/-- The rows from an address on cut the rest of the range. -/
theorem tiles_rowsFrom (h : r.Begins start) :
    BlockRow.Tiles block place start r.last (r.rowsFrom block place start) := by
  fun_induction Range.rowsFrom r block place start
  case case1 start row hend =>
    rw [← hend]
    exact .last (isPiece_rowEnd h.2.1)
  case case2 start row hend ih =>
    exact .more (isPiece_rowEnd h.2.1) (toNat_rowEnd_add_one hend).1 (ih (begins_next h hend).1)

/-! ## The rows of a block -/

/-- The number of rows of a block of some mask length. -/
def BlockRow.count (length : Nat) : Nat :=
  if length < 16 then Nat.pow 2 (16 - length) else 1

theorem length_ofRange (r : Range) (block : String) (place : Int) :
    (BlockRow.ofRange block place r).length =
      r.last.toNat / areaSize + 1 - r.first.toNat / areaSize := by
  rw [BlockRow.ofRange, List.length_map, List.length_range']

/-- A block of at least one area fills whole areas, and a smaller one lies inside one. -/
theorem length_around (address : V4) {length : Nat} (h : length ≤ 32) :
    (BlockRow.ofRange block place (.around address length)).length = BlockRow.count length := by
  obtain ⟨hfirst, hlast⟩ := around_bounds address h
  rw [length_ofRange]
  unfold BlockRow.count
  split
  · next hwide =>
    have hsize : blockSize length = Nat.pow 2 (16 - length) * areaSize := by
      show 2 ^ (32 - length) = 2 ^ (16 - length) * 2 ^ 16
      rw [← Nat.pow_add]
      congr 1
      omega
    have hpos : 0 < Nat.pow 2 (16 - length) := Nat.two_pow_pos _
    rw [hsize, ← Nat.mul_assoc] at hfirst hlast
    generalize Nat.pow 2 (16 - length) = count at *
    generalize address.toNat / (count * areaSize) * count = index at *
    unfold areaSize at *
    omega
  · next hnarrow =>
    have hsize : blockSize length * 2 ^ (length - 16) = areaSize := by
      show 2 ^ (32 - length) * 2 ^ (length - 16) = 2 ^ 16
      rw [← Nat.pow_add]
      congr 1
      omega
    have hpos := blockSize_pos length
    have hsame : (Range.around address length).last.toNat / blockSize length =
        (Range.around address length).first.toNat / blockSize length := by
      rw [hfirst, Nat.mul_div_cancel _ hpos, Nat.div_eq_iff hpos]
      omega
    rw [← hsize, ← Nat.div_div_eq_div_mul, ← Nat.div_div_eq_div_mul, hsame,
      Nat.add_sub_cancel_left]

/-- The rows of a block, written one after another from the first address of its range on, cut the
range into pieces: one for each area if the block is that large, and a single one otherwise. -/
theorem rows_partition_block (text : String) (place : Int) (h : kind text = .block) :
    ∃ address mask length r, cut '/' text.toList = some (address, mask) ∧
      maskLength? mask = some length ∧ Range.ofBlock? text = some r ∧
      r.rowsFrom text place r.first = BlockRow.ofRange text place r ∧
      BlockRow.Tiles text place r.first r.last (BlockRow.ofRange text place r) ∧
      (BlockRow.ofRange text place r).length = BlockRow.count length := by
  obtain ⟨address, mask, length, hcut, hlength, -⟩ := kind_eq_block_iff.1 h
  have hle := maskLength?_le hlength
  have hrange := ofBlock?_eq h hcut hlength
  obtain ⟨hlow, hhigh⟩ := contains_around (V4.encode (String.ofList address)) hle
  have hrows := rowsFrom_first text place (Nat.le_trans hlow hhigh)
  refine ⟨address, mask, length, _, hcut, hlength, hrange, hrows, ?_, length_around _ hle⟩
  rw [← hrows]
  exact tiles_rowsFrom ⟨Nat.le_refl _, Nat.le_trans hlow hhigh, .inl rfl⟩

/-- Bits behind the mask do not count, and a row ends where its area does. -/
theorem rows_partition_block_two_areas :
    kind "10.1.2.3/15" = .block ∧
      BlockRow.Tiles "10.1.2.3/15" 7 0x0A000000 0x0A01FFFF
        [⟨"10.1.2.3/15", "10.0", 0x0A000000, 0x0A00FFFF, 7⟩,
          ⟨"10.1.2.3/15", "10.1", 0x0A010000, 0x0A01FFFF, 7⟩] := by
  have hkind : kind "10.1.2.3/15" = .block := by decide +kernel
  have hrange : Range.ofBlock? "10.1.2.3/15" = some ⟨0x0A000000, 0x0A01FFFF⟩ := by
    decide +kernel
  have hrows : BlockRow.ofRange "10.1.2.3/15" 7 ⟨0x0A000000, 0x0A01FFFF⟩ =
      [⟨"10.1.2.3/15", "10.0", 0x0A000000, 0x0A00FFFF, 7⟩,
        ⟨"10.1.2.3/15", "10.1", 0x0A010000, 0x0A01FFFF, 7⟩] := by decide +kernel
  obtain ⟨-, -, -, r, -, -, hr, -, htiles, -⟩ := rows_partition_block "10.1.2.3/15" 7 hkind
  obtain rfl := Option.some.inj (hrange.symm.trans hr)
  rw [hrows] at htiles
  exact ⟨hkind, htiles⟩

end Gazetteer.Address
