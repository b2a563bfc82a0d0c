/-
Gazetteer.Proofs.Text.Integer — whole numbers of 64 bits, by their grammar and digit by
digit.

A numeral is one ASCII digit or more: another digit counts behind ten times what was
there. An integer is a numeral behind a sign or none. The integers that are read are
those whose number fits 64 bits, be their zeros in front as many as they like. A reader
that has no more than 64 bits, and gives up at the first step that leaves them, reads
the same ones: every digit leads further away from zero, so what has left does not come
back. It takes the digits of a negative number away instead of adding them, which lets it
reach the least number, whose opposite does not fit.
-/
import Mathlib.Data.List.Induction
import Gazetteer.Proofs.Text.Numeral

namespace Gazetteer.Text

variable {cs : List Char} {c : Char} {m n : Nat} {sign : Int}

/-! ## The grammar -/

/-- One digit or more, and the number that they denote. -/
inductive IsNumeralOf : List Char → Nat → Prop where
  | digit {d : Nat} (small : d < 10) : IsNumeralOf [d.digitChar] d
  | more {cs : List Char} {n d : Nat} (front : IsNumeralOf cs n) (small : d < 10) :
    IsNumeralOf (cs ++ [d.digitChar]) (10 * n + d)

/-- A numeral behind a sign or none, and the number that they denote. -/
inductive IsIntegerOf : List Char → Int → Prop where
  | unsigned {cs : List Char} {n : Nat} (digits : IsNumeralOf cs n) : IsIntegerOf cs n
  | plus {cs : List Char} {n : Nat} (digits : IsNumeralOf cs n) : IsIntegerOf ('+' :: cs) n
  | minus {cs : List Char} {n : Nat} (digits : IsNumeralOf cs n) : IsIntegerOf ('-' :: cs) (-n)

theorem digit_digitChar {d : Nat} (h : d < 10) :
    d.digitChar.isDigit = true ∧ d.digitChar.toNat - '0'.toNat = d :=
  ⟨by rw [Nat.isDigit_digitChar, decide_eq_true h], Nat.toNat_digitChar_sub_48_of_lt_ten h⟩

theorem ofDigitChars_concat (cs : List Char) (c : Char) :
    Nat.ofDigitChars 10 (cs ++ [c]) 0 =
      10 * Nat.ofDigitChars 10 cs 0 + (c.toNat - '0'.toNat) := by
  rw [Nat.ofDigitChars_append, Nat.ofDigitChars_cons, Nat.ofDigitChars_nil]

/-- What is read without a sign are the numerals. -/
theorem natural?_eq_some_iff_isNumeralOf : natural? cs = some n ↔ IsNumeralOf cs n := by
  rw [natural?_eq_some_iff]
  constructor
  · rintro ⟨hne, hdigits, rfl⟩
    -- from the last digit back, as the grammar puts them together
    induction cs using List.reverseRecOn with
    | nil => exact absurd rfl hne
    | append_singleton cs c ih =>
      have hc := hdigits c (by simp)
      have hdigit := digit_lt_ten hc
      rw [ofDigitChars_concat, ← digitChar_toNat hc, (digit_digitChar hdigit).2]
      by_cases hcs : cs = []
      · rw [hcs, Nat.ofDigitChars_nil, Nat.mul_zero, Nat.zero_add, List.nil_append]
        exact .digit hdigit
      · exact .more (ih hcs fun d hd => hdigits d (List.mem_append_left _ hd)) hdigit
  · intro h
    induction h with
    | digit small =>
      obtain ⟨hdigit, hvalue⟩ := digit_digitChar small
      refine ⟨by simp, by simpa using hdigit, ?_⟩
      rw [Nat.ofDigitChars_cons, Nat.ofDigitChars_nil, hvalue, Nat.mul_zero, Nat.zero_add]
    | more front small ih =>
      obtain ⟨-, hdigits, hfront⟩ := ih
      obtain ⟨hdigit, hvalue⟩ := digit_digitChar small
      refine ⟨by simp, ?_, ?_⟩
      · intro c hc
        obtain hc | hc := List.mem_append.1 hc
        · exact hdigits c hc
        · exact List.mem_singleton.1 hc ▸ hdigit
      · rw [ofDigitChars_concat, hfront, hvalue]

/-- The sign of a text, which may be missing, and what stands behind it. -/
def signAndRest : List Char → Int × List Char
  | '+' :: cs => (1, cs)
  | '-' :: cs => (-1, cs)
  | cs => (1, cs)

theorem signed?_eq (cs : List Char) :
    signed? cs = (natural? (signAndRest cs).2).map fun n : Nat => (signAndRest cs).1 * (n : Int) := by
  fun_cases signAndRest cs with
  | case1 digits =>
    show (natural? digits).map Int.ofNat = _
    cases natural? digits <;> simp
  | case2 digits =>
    rw [signed?]
    cases natural? digits <;> simp
  | case3 _ hplus hminus =>
    rw [signed?]
    · cases natural? cs <;> simp
    · exact hplus
    · exact hminus

/-- A numeral opens with no sign. -/
theorem IsNumeralOf.signAndRest_eq (h : IsNumeralOf cs n) : signAndRest cs = (1, cs) := by
  have hdigits := (natural?_eq_some_iff.1 (natural?_eq_some_iff_isNumeralOf.2 h)).2.1
  unfold signAndRest
  split
  · exact absurd (hdigits '+' List.mem_cons_self) (by decide)
  · exact absurd (hdigits '-' List.mem_cons_self) (by decide)
  · rfl

/-- What is read with a sign or without are the integers. -/
theorem signed?_eq_some_iff {n : Int} : signed? cs = some n ↔ IsIntegerOf cs n := by
  rw [signed?_eq, Option.map_eq_some_iff]
  simp only [natural?_eq_some_iff_isNumeralOf]
  constructor
  · rintro ⟨m, hm, rfl⟩
    unfold signAndRest at *
    split at hm
    · rw [Int.one_mul]
      exact .plus hm
    · rw [Int.neg_one_mul]
      exact .minus hm
    · rw [Int.one_mul]
      exact .unsigned hm
  · rintro (@⟨_, m, h⟩ | @⟨cs, m, h⟩ | @⟨cs, m, h⟩)
    · rw [h.signAndRest_eq]
      exact ⟨m, h, Int.one_mul _⟩
    · exact ⟨m, h, Int.one_mul _⟩
    · exact ⟨m, h, Int.neg_one_mul _⟩

theorem fitsInt64_iff {n : Int} :
    fitsInt64 n = true ↔ -0x8000000000000000 ≤ n ∧ n < 0x8000000000000000 := by
  simp [fitsInt64]

/-- An integer is read exactly if its number fits 64 bits. -/
theorem int64?_eq_some_iff {n : Int} :
    int64? cs = some n ↔
      IsIntegerOf cs n ∧ -0x8000000000000000 ≤ n ∧ n < 0x8000000000000000 := by
  rw [int64?, Option.filter_eq_some_iff, signed?_eq_some_iff, fitsInt64_iff]

/-! ## Digit by digit -/

/-- A number, if it fits 64 bits. -/
def checked? (n : Int) : Option Int := if fitsInt64 n then some n else none

/-- A number with one more digit, which is added to ten times the number or taken away from it.
Either step has to fit 64 bits. -/
def extend? (sign number : Int) (c : Char) : Option Int :=
  if c.isDigit then do
    let tens ← checked? (number * 10)
    checked? (tens + sign * ↑(c.toNat - '0'.toNat))
  else none

/-- The number of the digits behind a sign, found with no more than 64 bits. -/
def digitwise? (sign : Int) (cs : List Char) : Option Int :=
  if cs.isEmpty then none else cs.foldlM (extend? sign) 0

/-- The number of a text, found with no more than 64 bits. -/
def boundedInt64? (cs : List Char) : Option Int :=
  digitwise? (signAndRest cs).1 (signAndRest cs).2

/-- What is nearer to zero fits as well. -/
theorem fitsInt64_of_le (hsign : sign = 1 ∨ sign = -1) (h : m ≤ n)
    (hn : fitsInt64 (sign * n) = true) : fitsInt64 (sign * m) = true := by
  rw [fitsInt64_iff] at *
  obtain rfl | rfl := hsign
  · omega
  · omega

/-- One step is the exact one, if that fits. -/
theorem extend?_eq (hsign : sign = 1 ∨ sign = -1) (m : Nat) (hc : c.isDigit = true) :
    extend? sign (sign * m) c = checked? (sign * ↑(10 * m + (c.toNat - '0'.toNat))) := by
  have hexact : sign * m * 10 + sign * ↑(c.toNat - '0'.toNat) =
      sign * ↑(10 * m + (c.toNat - '0'.toNat)) := by
    rw [Int.natCast_add, Int.mul_add, Int.natCast_mul]
    congr 1
    rw [Int.mul_assoc, Int.mul_comm _ 10]
    rfl
  have htens : sign * m * 10 = sign * ↑(10 * m) := by
    rw [Int.natCast_mul, Int.mul_assoc, Int.mul_comm _ 10]
    rfl
  rw [extend?, if_pos hc]
  -- If ten times the number does not fit, no digit brings it back.
  by_cases hfits : fitsInt64 (sign * m * 10) = true
  · rw [checked?, if_pos hfits, Option.bind_eq_bind, Option.bind_some, hexact]
  · have hnot : fitsInt64 (sign * ↑(10 * m + (c.toNat - '0'.toNat))) ≠ true := by
      intro h
      rw [htens] at hfits
      exact hfits (fitsInt64_of_le hsign (Nat.le_add_right _ _) h)
    rw [checked?, if_neg hfits, checked?, if_neg hnot]
    rfl

/-- Every step fits exactly if the last one does. -/
theorem foldlM_extend?_eq (hsign : sign = 1 ∨ sign = -1) (hm : fitsInt64 (sign * m) = true)
    (hdigits : ∀ c ∈ cs, c.isDigit = true) :
    cs.foldlM (extend? sign) (sign * ↑m) = checked? (sign * ↑(Nat.ofDigitChars 10 cs m)) := by
  -- on the digits, over every number before them that fits
  induction cs generalizing m with
  | nil => exact (if_pos hm).symm
  | cons c cs ih =>
    rw [List.foldlM_cons, extend?_eq hsign m (hdigits c List.mem_cons_self),
      Nat.ofDigitChars_cons]
    by_cases hfits : fitsInt64 (sign * ↑(10 * m + (c.toNat - '0'.toNat))) = true
    · rw [checked?, if_pos hfits, Option.bind_eq_bind, Option.bind_some]
      exact ih hfits fun d hd => hdigits d (List.mem_cons_of_mem _ hd)
    · have hnot : fitsInt64 (sign * ↑(Nat.ofDigitChars 10 cs
          (10 * m + (c.toNat - '0'.toNat)))) ≠ true :=
        fun h => hfits (fitsInt64_of_le hsign (le_ofDigitChars _ cs) h)
      rw [checked?, if_neg hfits, checked?, if_neg hnot]
      rfl

/-- A character that is no digit ends the reading. -/
theorem foldlM_extend?_eq_none (hm : ∃ c ∈ cs, c.isDigit = false) (number : Int) :
    cs.foldlM (extend? sign) number = none := by
  induction cs generalizing number with
  | nil => simp at hm
  | cons c cs ih =>
    rw [List.foldlM_cons]
    cases hstep : extend? sign number c with
    | none => rfl
    | some next =>
      refine ih ?_ next
      obtain ⟨d, hd, hnot⟩ := hm
      obtain rfl | hd := List.mem_cons.1 hd
      · rw [extend?, hnot] at hstep
        cases hstep
      · exact ⟨d, hd, hnot⟩

theorem digitwise?_eq (hsign : sign = 1 ∨ sign = -1) (cs : List Char) :
    digitwise? sign cs = (natural? cs).bind fun n => checked? (sign * ↑n) := by
  unfold digitwise? natural?
  cases hempty : cs.isEmpty with
  | true => rfl
  | false =>
    cases hall : cs.all Char.isDigit with
    | true =>
      have hzero : sign * ((0 : Nat) : Int) = 0 := Int.mul_zero sign
      have hread := foldlM_extend?_eq hsign (by rw [hzero]; rfl) (List.all_eq_true.1 hall)
      rwa [hzero] at hread
    | false =>
      refine foldlM_extend?_eq_none ?_ 0
      obtain ⟨c, hc, hnot⟩ := List.all_eq_false.1 hall
      exact ⟨c, hc, Bool.not_eq_true _ ▸ hnot⟩

/-- Reading with no more than 64 bits is reading exactly. -/
theorem boundedInt64?_eq (cs : List Char) : boundedInt64? cs = int64? cs := by
  have hsign : (signAndRest cs).1 = 1 ∨ (signAndRest cs).1 = -1 := by
    unfold signAndRest
    split <;> simp
  rw [boundedInt64?, digitwise?_eq hsign, int64?, signed?_eq]
  cases natural? (signAndRest cs).2 with
  | none => rfl
  | some n => rfl

end Gazetteer.Text
