/-
Gazetteer.Proofs.Text.Numeral — a numeral is the decimal of its number behind some zeros.

Two numerals denote the same number exactly if they are the same text once the
zeros in front are gone, for what is left then is the decimal of the number.
-/
import Gazetteer.Text.Numeral

namespace Gazetteer.Text

variable {cs ds : List Char} {c : Char} {m n : Nat}

/-- A numeral without the zeros in front that change nothing; the last digit stays. -/
def unpadded : List Char → List Char
  | '0' :: c :: cs => unpadded (c :: cs)
  | cs => cs

theorem isDigit_iff : c.isDigit = true ↔ 48 ≤ c.toNat ∧ c.toNat ≤ 57 := by
  simp only [Char.isDigit, Bool.and_eq_true, decide_eq_true_eq, UInt32.le_iff_toNat_le]
  exact Iff.rfl

theorem natural?_eq_some_iff :
    natural? cs = some n ↔
      cs ≠ [] ∧ (∀ c ∈ cs, c.isDigit = true) ∧ Nat.ofDigitChars 10 cs 0 = n := by
  unfold natural?
  simp only [Option.ite_none_right_eq_some, Option.some.injEq, Bool.and_eq_true,
    Bool.not_eq_true', List.isEmpty_eq_false_iff, List.all_eq_true, and_assoc]

/-- The digit whose number is that of a digit is that digit. -/
theorem digitChar_toNat (h : c.isDigit = true) : (c.toNat - '0'.toNat).digitChar = c := by
  obtain ⟨hl, hh⟩ := isDigit_iff.1 h
  have hall : ∀ d < 10, d.digitChar = Char.ofNat (d + 48) := by decide
  have hzero : '0'.toNat = 48 := rfl
  rw [hzero, hall _ (by omega), Nat.sub_add_cancel hl, Char.ofNat_toNat]

theorem digit_lt_ten (h : c.isDigit = true) : c.toNat - '0'.toNat < 10 := by
  obtain ⟨hl, hh⟩ := isDigit_iff.1 h
  have hzero : '0'.toNat = 48 := rfl
  omega

/-- The decimal of the number of a digit is that digit. -/
theorem decimal_digit (h : c.isDigit = true) : decimal (c.toNat - '0'.toNat) = [c] := by
  unfold decimal
  rw [Nat.toDigits_of_lt_base (digit_lt_ten h), digitChar_toNat h]

theorem decimal_injective (h : decimal m = decimal n) : m = n := by
  have hm := natural?_decimal m
  rw [h, natural?_decimal] at hm
  exact (Option.some.inj hm).symm

/-- No digit makes a number less. -/
theorem le_ofDigitChars (number : Nat) (ds : List Char) : number ≤ Nat.ofDigitChars 10 ds number := by
  induction ds generalizing number with
  | nil => simp
  | cons c ds ih =>
    rw [Nat.ofDigitChars_cons]
    have h := ih (10 * number + (c.toNat - '0'.toNat))
    omega

/-- Digits behind a number that is not zero stand behind its decimal. -/
theorem decimal_ofDigitChars (hn : 0 < n) (hds : ∀ c ∈ ds, c.isDigit = true) :
    decimal (Nat.ofDigitChars 10 ds n) = decimal n ++ ds := by
  induction ds generalizing n with
  | nil => simp
  | cons c ds ih =>
    have hc := hds c List.mem_cons_self
    have hone : decimal n ++ [c] = decimal (10 * n + (c.toNat - '0'.toNat)) := by
      rw [← decimal_digit hc]
      exact Nat.toDigits_append_toDigits (by decide) hn (digit_lt_ten hc)
    calc decimal (Nat.ofDigitChars 10 (c :: ds) n)
        = decimal (Nat.ofDigitChars 10 ds (10 * n + (c.toNat - '0'.toNat))) := by
          rw [Nat.ofDigitChars_cons]
      _ = decimal (10 * n + (c.toNat - '0'.toNat)) ++ ds :=
          ih (by omega) fun d hd => hds d (List.mem_cons_of_mem _ hd)
      _ = decimal n ++ c :: ds := by rw [← hone, List.append_assoc]; rfl

/-- Without the zeros in front a numeral is the decimal of its number. -/
theorem unpadded_eq_decimal (h : natural? cs = some n) : unpadded cs = decimal n := by
  obtain ⟨hne, hdigits, rfl⟩ := natural?_eq_some_iff.1 h
  clear h
  -- on the zeros in front: each leaves the number as it is
  fun_induction unpadded cs with
  | case1 c cs ih =>
    rw [Nat.ofDigitChars_cons]
    exact ih (by simp) fun d hd => hdigits d (List.mem_cons_of_mem _ hd)
  | case2 cs hpadded =>
    obtain ⟨c, ds, rfl⟩ := List.exists_cons_of_ne_nil hne
    have hc := hdigits c List.mem_cons_self
    rw [Nat.ofDigitChars_cons, Nat.mul_zero, Nat.zero_add]
    cases ds with
    | nil => exact (decimal_digit hc).symm
    | cons d ds =>
      have hpos : 0 < c.toNat - '0'.toNat := by
        obtain ⟨hl, -⟩ := isDigit_iff.1 hc
        have hzero : '0'.toNat = 48 := rfl
        have hne : c.toNat ≠ 48 := by
          intro heq
          exact hpadded d ds (congrArg (· :: d :: ds) (Char.toNat_inj.1 (heq.trans hzero.symm)))
        omega
      rw [decimal_ofDigitChars hpos fun d hd => hdigits d (List.mem_cons_of_mem _ hd),
        decimal_digit hc]
      rfl

theorem length_unpadded_le (cs : List Char) : (unpadded cs).length ≤ cs.length := by
  fun_induction unpadded cs with
  | case1 c cs ih => exact Nat.le_trans ih (Nat.le_succ _)
  | case2 cs _ => exact Nat.le_refl _

/-- A numeral has no zeros in front exactly if it is one digit or begins with another one. -/
theorem unpadded_eq_self_iff (hne : cs ≠ []) :
    unpadded cs = cs ↔ cs.length = 1 ∨ cs.head? ≠ some '0' := by
  fun_cases unpadded cs with
  | case1 c cs =>
    have hshort := length_unpadded_le (c :: cs)
    refine iff_of_false ?_ (by simp)
    intro h
    have hlength := congrArg List.length h
    simp only [List.length_cons] at hshort hlength
    omega
  | case2 cs hpadded =>
    refine iff_of_true rfl ?_
    obtain ⟨c, ds, rfl⟩ := List.exists_cons_of_ne_nil hne
    cases ds with
    | nil => exact .inl rfl
    | cons d ds =>
      right
      intro h
      obtain rfl := Option.some.inj h
      exact hpadded d ds rfl

end Gazetteer.Text
