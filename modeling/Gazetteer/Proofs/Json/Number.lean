/-
Gazetteer.Proofs.Json.Number — a whole number is read back as it was.

A whole number of 64 bits, signed or not, is written in plain decimal. The digits
fit the reader's word at every step, none leads with a zero in vain, and where no
further part of a number follows the reader takes them for the same number.
-/
import Gazetteer.Json.Scan
import Gazetteer.Json.Writer
import Gazetteer.Proofs.Members
import Gazetteer.Proofs.Text.Numeral

namespace Gazetteer.Json

/-- A whole number that a signed or an unsigned word of 64 bits holds. -/
def Number.IsWhole : Number → Prop
  | .whole value => -0x8000000000000000 ≤ value ∧ value ≤ 0xFFFFFFFFFFFFFFFF
  | .double _ => False

/-- A text that does not go on with the number before it. -/
def EndsNumber (rest : List Char) : Prop :=
  ∀ c ∈ rest.head?, c.isDigit = false ∧ c ≠ '.' ∧ c ≠ 'e' ∧ c ≠ 'E'

variable {cs ds rest : List Char} {c : Char} {n : Nat}

theorem EndsNumber.nil : EndsNumber [] := by
  intro c hc
  simp at hc

theorem EndsNumber.cons (hd : c.isDigit = false) (hp : c ≠ '.') (he : c ≠ 'e') (hE : c ≠ 'E')
    (rest : List Char) : EndsNumber (c :: rest) := by
  intro d hd
  obtain rfl : c = d := by simpa using hd
  exact ⟨‹_›, hp, he, hE⟩

/-! ## Digits -/

/-- The digits that a text opens with go as far as the first character that is none. -/
theorem digits_eq_iff :
    digits cs = (ds, rest) ↔
      cs = ds ++ rest ∧ (∀ c ∈ ds, c.isDigit = true) ∧ ∀ c ∈ rest.head?, c.isDigit = false := by
  rw [digits, Prod.mk.injEq, Members.takeWhile_dropWhile_iff]

theorem digits_append (hds : ∀ c ∈ ds, c.isDigit = true)
    (hrest : ∀ c ∈ rest.head?, c.isDigit = false) : digits (ds ++ rest) = (ds, rest) :=
  digits_eq_iff.2 ⟨rfl, hds, hrest⟩

/-- Digits whose number fits a word are all taken. -/
theorem accumulate_of_le (number : Nat) (ds : List Char)
    (h : Nat.ofDigitChars 10 ds number ≤ maxWord) :
    accumulate number ds = (Nat.ofDigitChars 10 ds number, 0) := by
  induction ds generalizing number with
  | nil => rfl
  | cons c ds ih =>
    rw [Nat.ofDigitChars_cons] at h ⊢
    have hfits := Nat.le_trans (Text.le_ofDigitChars _ ds) h
    have hcomm : number * 10 + (c.toNat - '0'.toNat) = 10 * number + (c.toNat - '0'.toNat) := by
      omega
    simp only [accumulate, hcomm, if_pos hfits]
    exact ih _ h

theorem accumulate_decimal (h : n ≤ maxWord) : accumulate 0 (Text.decimal n) = (n, 0) := by
  have hvalue : Nat.ofDigitChars 10 (Text.decimal n) 0 = n :=
    Nat.ofDigitChars_toDigits (by decide) (by decide)
  rw [accumulate_of_le 0 _ (by rwa [hvalue]), hvalue]

theorem digitChar_ne_zero (h : n ≠ 0) (hn : n < 10) : n.digitChar ≠ '0' := by
  have hall : ∀ n < 10, n ≠ 0 → n.digitChar ≠ '0' := by decide
  exact hall n hn h

/-- A numeral leads with a zero only if the number is zero. -/
theorem head?_decimal_ne_zero (h : n ≠ 0) : (Text.decimal n).head? ≠ some '0' := by
  induction n using Nat.strongRecOn with
  | ind n ih =>
    unfold Text.decimal
    rcases Nat.lt_or_ge n 10 with hn | hn
    · rw [Nat.toDigits_of_lt_base hn]
      simpa using digitChar_ne_zero h hn
    · obtain ⟨c, cs, hcs⟩ := List.exists_cons_of_ne_nil (Text.decimal_ne_nil (n / 10))
      have hhead := ih (n / 10) (by omega) (by omega)
      rw [Nat.toDigits_of_base_le (by decide) hn]
      unfold Text.decimal at hcs hhead
      rwa [hcs] at hhead ⊢

/-- No zero leads a numeral in vain. -/
theorem decimal_noLeadingZero (n : Nat) :
    ¬ ((Text.decimal n).head? = some '0' ∧ 1 < (Text.decimal n).length) := by
  rintro ⟨hhead, hlength⟩
  rcases Decidable.em (n = 0) with rfl | hn
  · revert hlength
    decide
  · exact head?_decimal_ne_zero hn hhead

/-! ## Numbers -/

theorem unsignedNumber_decimal (isNegative : Bool) (h : n ≤ maxWord) (hrest : EndsNumber rest) :
    unsignedNumber isNegative (Text.decimal n ++ rest) = .ok (wholeOf isNegative n, rest) := by
  obtain ⟨c, cs, hcs⟩ := List.exists_cons_of_ne_nil (Text.decimal_ne_nil n)
  have hdigits : digits (Text.decimal n ++ rest) = (Text.decimal n, rest) :=
    digits_append (fun _ => Text.isDigit_of_mem_decimal) fun c hc => (hrest c hc).1
  have hzero := decimal_noLeadingZero n
  have hacc := accumulate_decimal h
  simp only [hcs] at hdigits hzero hacc ⊢
  simp only [List.cons_append] at hdigits ⊢
  simp only [List.head?_cons, Option.some.injEq] at hzero
  simp only [unsignedNumber, hdigits, hacc, List.isEmpty_cons, Bool.false_eq_true, false_or,
    if_neg hzero]
  split
  · exact absurd rfl (hrest '.' (by simp)).2.1
  · exact absurd rfl (hrest 'e' (by simp)).2.2.1
  · exact absurd rfl (hrest 'E' (by simp)).2.2.2
  · rfl

/-- A written number opens as a number does. -/
theorem write_whole_cons (value : Int) :
    ∃ c cs, (Number.whole value).write = c :: cs ∧ opensNumber c = true := by
  cases value with
  | ofNat n =>
    obtain ⟨c, cs, hcs⟩ := List.exists_cons_of_ne_nil (Text.decimal_ne_nil n)
    refine ⟨c, cs, hcs, ?_⟩
    simp [opensNumber, Text.isDigit_of_mem_decimal (n := n) (hcs ▸ List.mem_cons_self)]
  | negSucc n => exact ⟨'-', Text.decimal (n + 1), rfl, rfl⟩

/-- A whole number is read back, wherever it ends. -/
theorem number_write {number : Number} (h : number.IsWhole) (hrest : EndsNumber rest) :
    Json.number (number.write ++ rest) = .ok (number, rest) := by
  cases number with
  | double value => exact h.elim
  | whole value =>
    cases value with
    | ofNat n =>
      have hmax : n ≤ maxWord := by
        have := h.2
        simp only [Int.ofNat_eq_natCast] at this
        unfold maxWord
        omega
      have hread := unsignedNumber_decimal false hmax hrest
      obtain ⟨c, cs, hcs⟩ := List.exists_cons_of_ne_nil (Text.decimal_ne_nil n)
      have hdigit : c.isDigit = true :=
        Text.isDigit_of_mem_decimal (n := n) (hcs ▸ List.mem_cons_self)
      simp only [Number.write, Text.signedDecimal]
      unfold Json.number
      split
      · next h =>
        rw [hcs, List.cons_append] at h
        obtain ⟨rfl, -⟩ := List.cons.inj h
        exact absurd hdigit (by decide)
      · exact hread
    | negSucc n =>
      have hmin : n + 1 ≤ 0x8000000000000000 := by
        have := h.1
        omega
      have hread := unsignedNumber_decimal (n := n + 1) true (by unfold maxWord; omega) hrest
      simp only [Number.write, Text.signedDecimal, List.cons_append, Json.number, hread]
      have hrange : ¬ (n + 1 = 0 ∨ 0x8000000000000000 < n + 1) := by omega
      simp only [wholeOf, Bool.not_true, Bool.false_eq_true, if_false, if_neg hrange]
      rfl

end Gazetteer.Json
