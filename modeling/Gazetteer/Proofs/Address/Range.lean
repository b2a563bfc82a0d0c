/-
Gazetteer.Proofs.Address.Range — the range of a block is what its mask leaves open.

A mask is a word whose leading bits are set. Masking an address clears the bits
after them, and setting those bits instead gives the end of the range, so the
range is as long as its mask says, begins at a multiple of that and holds the
addresses that share the leading bits of the first. Of two such ranges that have
an address in common, the one with more leading bits lies inside the other.
-/
import Gazetteer.Proofs.Address.Area

namespace Gazetteer.Address

open Gazetteer.Text

variable {r : Range} {address v w : V4} {length : Nat}

/-! ## Masks -/

/-- The word whose `length` leading bits are set. No bits are a case of their own, for a word cannot
be shifted by as many places as it has. -/
def V4.mask (length : Nat) : V4 :=
  if length = 0 then 0 else BitVec.allOnes 32 <<< (32 - length)

/-- The addresses that a mask does not tell from one: the bits after it are all clear in the first
of them and all set in the last. -/
def Range.masked (address : V4) (length : Nat) : Range where
  first := address &&& V4.mask length
  last := address &&& V4.mask length ||| ~~~V4.mask length

theorem getLsbD_mask (length i : Nat) :
    (V4.mask length).getLsbD i = (decide (i < 32) && decide (32 - length ≤ i)) := by
  unfold V4.mask
  split
  · next h =>
    have hnone : ¬ (i < 32 ∧ 32 - length ≤ i) := by omega
    simpa using hnone
  · rw [BitVec.getLsbD_shiftLeft, BitVec.getLsbD_allOnes]
    by_cases hi : i < 32
    · have hin : i - (32 - length) < 32 := by omega
      by_cases hk : 32 - length ≤ i
      · simp [hi, hk, hin]
      · simp [hk]
    · simp [hi]

/-- Masking an address rounds it down to a multiple of the size of the block. -/
theorem toNat_and_mask (address : V4) (length : Nat) :
    (address &&& V4.mask length).toNat =
      address.toNat / blockSize length * blockSize length := by
  refine Nat.eq_of_testBit_eq fun i => ?_
  show (address &&& V4.mask length).getLsbD i =
    (address.toNat / 2 ^ (32 - length) * 2 ^ (32 - length)).testBit i
  rw [BitVec.getLsbD_and, getLsbD_mask, Nat.testBit_mul_two_pow, Nat.testBit_div_two_pow]
  by_cases hk : 32 - length ≤ i
  · rw [Nat.sub_add_cancel hk, BitVec.testBit_toNat]
    by_cases hi : i < 32
    · simp [hi, hk]
    · simp [hi, BitVec.getLsbD_of_ge address i (Nat.not_lt.1 hi)]
  · simp [hk]

theorem toNat_not_mask (length : Nat) : (~~~V4.mask length).toNat = blockSize length - 1 := by
  refine Nat.eq_of_testBit_eq fun i => ?_
  show (~~~V4.mask length).getLsbD i = (2 ^ (32 - length) - 1).testBit i
  rw [BitVec.getLsbD_not, getLsbD_mask, Nat.testBit_two_pow_sub_one, Bool.eq_iff_iff]
  simp only [Bool.and_eq_true, Bool.not_eq_true', Bool.and_eq_false_iff, decide_eq_true_eq,
    decide_eq_false_iff_not]
  omega

/-- The bits after a mask, all set, come on top of a masked address. -/
theorem toNat_masked_last (address : V4) (length : Nat) :
    (Range.masked address length).last.toNat =
      address.toNat / blockSize length * blockSize length + (blockSize length - 1) := by
  have hpos := blockSize_pos length
  have hlt : blockSize length - 1 < 2 ^ (32 - length) := Nat.sub_lt hpos (by decide)
  show (address &&& V4.mask length ||| ~~~V4.mask length).toNat = _
  rw [BitVec.toNat_or, toNat_and_mask, toNat_not_mask]
  show _ / 2 ^ (32 - length) * 2 ^ (32 - length) ||| _ = _
  rw [Nat.mul_comm, ← Nat.two_pow_add_eq_or_of_lt hlt, Nat.mul_comm]
  rfl

/-- The range around an address is what its mask leaves open. -/
theorem around_eq_masked (address : V4) (h : length ≤ 32) :
    Range.around address length = .masked address length := by
  obtain ⟨hfirst, hlast⟩ := around_bounds address h
  have hpos := blockSize_pos length
  have hmasked := toNat_masked_last address length
  have h1 : (Range.around address length).first = (Range.masked address length).first :=
    BitVec.eq_of_toNat_eq (hfirst.trans (toNat_and_mask address length).symm)
  have h2 : (Range.around address length).last = (Range.masked address length).last :=
    BitVec.eq_of_toNat_eq (by omega)
  calc Range.around address length
      = ⟨(Range.around address length).first, (Range.around address length).last⟩ := rfl
    _ = .masked address length := by rw [h1, h2]

/-! ## Leading bits -/

/-- What is left when the size of a block is divided off are the leading bits. -/
theorem testBit_div_blockSize (v : V4) (length i : Nat) :
    (v.toNat / blockSize length).testBit i = v.getLsbD (i + (32 - length)) := by
  show (v.toNat / 2 ^ (32 - length)).testBit i = _
  rw [Nat.testBit_div_two_pow, BitVec.testBit_toNat]

theorem getMsbD_eq_testBit {i : Nat} (v : V4) (h : length ≤ 32) (hi : i < length) :
    v.getMsbD i = (v.toNat / blockSize length).testBit (length - 1 - i) := by
  have hplace : length - 1 - i + (32 - length) = 32 - 1 - i := by omega
  have hlt : i < 32 := by omega
  rw [testBit_div_blockSize, hplace, BitVec.getMsbD_eq_getLsbD, decide_eq_true hlt, Bool.true_and]

/-- Two addresses have the same leading bits exactly if they lie between the same multiples of the
size of a block. -/
theorem take_bits_eq_iff (h : length ≤ 32) :
    (bits v).take length = (bits w).take length ↔
      v.toNat / blockSize length = w.toNat / blockSize length := by
  have hbits (x : V4) : (bits x).take length = (List.range length).map x.getMsbD := by
    rw [bits, ← List.map_take, List.take_range, Nat.min_eq_left h]
  rw [hbits, hbits, List.map_inj_left]
  constructor
  · intro hsame
    refine Nat.eq_of_testBit_eq fun i => ?_
    by_cases hi : i < length
    · have hmsb := hsame (length - 1 - i) (List.mem_range.2 (by omega))
      rw [getMsbD_eq_testBit v h (by omega), getMsbD_eq_testBit w h (by omega)] at hmsb
      have hback : length - 1 - (length - 1 - i) = i := by omega
      rwa [hback] at hmsb
    · -- no bits are left beyond the leading ones
      rw [testBit_div_blockSize, testBit_div_blockSize, BitVec.getLsbD_of_ge _ _ (by omega),
        BitVec.getLsbD_of_ge _ _ (by omega)]
  · intro hsame i hm
    have hi := List.mem_range.1 hm
    rw [getMsbD_eq_testBit v h hi, getMsbD_eq_testBit w h hi, hsame]

/-- The addresses of a range around one are those that share its leading bits. -/
theorem contains_around_iff (address v : V4) (h : length ≤ 32) :
    (Range.around address length).Contains v ↔
      (bits v).take length = (bits address).take length := by
  obtain ⟨hfirst, hlast⟩ := around_bounds address h
  have hpos := blockSize_pos length
  rw [take_bits_eq_iff h, Nat.div_eq_iff hpos, Range.Contains]
  omega

/-- Two ranges have no address in common, or one lies inside the other. -/
def Range.AreNested (r s : Range) : Prop :=
  (∀ v, ¬ (r.Contains v ∧ s.Contains v)) ∨ (∀ v, r.Contains v → s.Contains v) ∨
    ∀ v, s.Contains v → r.Contains v

theorem Range.AreNested.symm {s : Range} (h : r.AreNested s) : s.AreNested r := by
  obtain h | h | h := h
  · exact .inl fun v hv => h v hv.symm
  · exact .inr (.inr h)
  · exact .inr (.inl h)

/-- Whoever shares more leading bits with an address shares fewer with it too. -/
theorem areNested_of_le {address' : V4} {length' : Nat} (h : length ≤ length')
    (h' : length' ≤ 32) :
    (Range.around address length).AreNested (.around address' length') := by
  have hfewer {v w : V4} (hsame : (bits v).take length' = (bits w).take length') :
      (bits v).take length = (bits w).take length := by
    have htake := congrArg (List.take length) hsame
    rwa [List.take_take, List.take_take, Nat.min_eq_left h] at htake
  by_cases hcommon : ∃ v, (Range.around address length).Contains v ∧
      (Range.around address' length').Contains v
  · obtain ⟨v, hv, hv'⟩ := hcommon
    rw [contains_around_iff _ _ (Nat.le_trans h h')] at hv
    rw [contains_around_iff _ _ h'] at hv'
    refine .inr (.inr fun w hw => ?_)
    rw [contains_around_iff _ _ h'] at hw
    rw [contains_around_iff _ _ (Nat.le_trans h h'), ← hv]
    exact hfewer (hw.trans hv'.symm)
  · exact .inl fun v hv => hcommon ⟨v, hv⟩

/-! ## The range of a block -/

/-- A range is the block of a mask length around an address. -/
structure Range.IsBlockOf (r : Range) (address : V4) (length : Nat) : Prop where
  masked : r = .masked address length
  contains : r.Contains address
  size : r.first.toNat + blockSize length = r.last.toNat + 1
  aligned : blockSize length ∣ r.first.toNat
  shares : ∀ v, r.Contains v ↔ (bits v).take length = (bits address).take length

theorem isBlockOf_around (address : V4) (h : length ≤ 32) :
    (Range.around address length).IsBlockOf address length := by
  obtain ⟨hfirst, hlast⟩ := around_bounds address h
  refine ⟨around_eq_masked address h, contains_around address h, by omega, ?_,
    fun v => contains_around_iff address v h⟩
  rw [hfirst]
  exact Nat.dvd_mul_left _ _

/-- The texts that have a range are those of blocks. It is the block of the mask length behind the
slash around the address before it, and two of them are apart or one inside the other. -/
theorem block_range_exact :
    (∀ text, Range.ofBlock? text = none ↔ kind text ≠ .block) ∧
    (∀ text, kind text = .block → ∃ address mask length r,
      cut '/' text.toList = some (address, mask) ∧ maskLength? mask = some length ∧
        length ≤ 32 ∧ Range.ofBlock? text = some r ∧
        r.IsBlockOf (V4.encode (String.ofList address)) length) ∧
    ∀ text text' r r', Range.ofBlock? text = some r → Range.ofBlock? text' = some r' →
      r.AreNested r' := by
  refine ⟨?_, ?_, ?_⟩
  · intro text
    constructor
    · intro hnone hk
      obtain ⟨r, hr⟩ := ofBlock?_of_kind hk
      cases hnone.symm.trans hr
    · intro hk
      cases hr : Range.ofBlock? text with
      | none => rfl
      | some r => exact absurd (ofBlock?_some hr).1 hk
  · intro text hk
    obtain ⟨address, mask, length, hcut, hlength, -⟩ := kind_eq_block_iff.1 hk
    have hle := maskLength?_le hlength
    exact ⟨address, mask, length, _, hcut, hlength, hle, ofBlock?_eq hk hcut hlength,
      isBlockOf_around _ hle⟩
  · intro text text' r r' hr hr'
    obtain ⟨-, address, length, hle, rfl⟩ := ofBlock?_some hr
    obtain ⟨-, address', length', hle', rfl⟩ := ofBlock?_some hr'
    rcases Nat.le_total length length' with h | h
    · exact areNested_of_le h hle'
    · exact (areNested_of_le h hle).symm

/-- The bits behind a mask do not count, and a mask of length 0 lets every address in. -/
theorem block_range_exact_host_bits :
    kind "10.1.2.3/15" = .block ∧
      Range.IsBlockOf ⟨0x0A000000, 0x0A01FFFF⟩ (V4.encode "10.1.2.3") 15 ∧
      Range.AreNested ⟨0x0A000000, 0x0A01FFFF⟩ ⟨0, 0xFFFFFFFF⟩ := by
  have hkind : kind "10.1.2.3/15" = .block := by decide +kernel
  have hrange : Range.ofBlock? "10.1.2.3/15" = some ⟨0x0A000000, 0x0A01FFFF⟩ := by
    decide +kernel
  have hall : Range.ofBlock? "0.0.0.0/0" = some ⟨0, 0xFFFFFFFF⟩ := by decide +kernel
  have hcut : cut '/' "10.1.2.3/15".toList = some ("10.1.2.3".toList, "15".toList) := by
    decide +kernel
  have hmask : maskLength? "15".toList = some 15 := by decide +kernel
  obtain ⟨-, hblock, hnested⟩ := block_range_exact
  obtain ⟨address, mask, length, r, hc, hm, -, hr, hof⟩ := hblock "10.1.2.3/15" hkind
  obtain ⟨rfl, rfl⟩ := Prod.mk.inj (Option.some.inj (hcut.symm.trans hc))
  obtain rfl := Option.some.inj (hmask.symm.trans hm)
  obtain rfl := Option.some.inj (hrange.symm.trans hr)
  exact ⟨hkind, hof, hnested _ _ _ _ hrange hall⟩

end Gazetteer.Address
