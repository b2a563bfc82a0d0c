/-
Gazetteer.Proofs.Json.Visible — no control character is ever written.

Texts are escaped, numbers are made of digits, signs, points and exponents, and the
rest is brackets, separators and words. So whatever the value, its text holds no
character below U+0020, and no line break among them.
-/
import Gazetteer.Json.Location
import Gazetteer.Json.Writer

namespace Gazetteer.Json

/-- No character of a text lies below U+0020. -/
def IsVisible (cs : List Char) : Prop := ∀ c ∈ cs, 32 ≤ c.toNat

variable {c : Char} {cs ds : List Char}

@[simp] theorem isVisible_nil : IsVisible [] := by simp [IsVisible]

@[simp] theorem isVisible_cons : IsVisible (c :: cs) ↔ 32 ≤ c.toNat ∧ IsVisible cs := by
  simp [IsVisible]

@[simp] theorem isVisible_append : IsVisible (cs ++ ds) ↔ IsVisible cs ∧ IsVisible ds := by
  simp [IsVisible, or_imp, forall_and]

theorem IsVisible.of_subset (h : IsVisible ds) (hs : cs ⊆ ds) : IsVisible cs :=
  fun c hc => h c (hs hc)

/-! ## Numbers -/

theorem isVisible_decimal (n : Nat) : IsVisible (Text.decimal n) := by
  intro c hc
  have hdigit := Text.isDigit_of_mem_decimal hc
  simp only [Char.isDigit, Bool.and_eq_true, decide_eq_true_eq, UInt32.le_iff_toNat_le] at hdigit
  have hzero : '0'.val.toNat = 48 := rfl
  have hval : c.toNat = c.val.toNat := rfl
  omega

theorem isVisible_signedDecimal (value : Int) : IsVisible (Text.signedDecimal value) := by
  cases value with
  | ofNat n => exact isVisible_decimal n
  | negSucc n => simpa [Text.signedDecimal] using isVisible_decimal (n + 1)

theorem isVisible_replicate_zero (n : Nat) : IsVisible (List.replicate n '0') := by
  intro c hc
  obtain ⟨-, rfl⟩ := List.mem_replicate.1 hc
  decide

theorem isVisible_plain (h : IsVisible ds) (place : Int) : IsVisible (Decimal.plain ds place) := by
  have hzeros := isVisible_replicate_zero
  have htake := fun n => h.of_subset (List.take_subset n ds)
  have hdrop := fun n => h.of_subset (List.drop_subset n ds)
  unfold Decimal.plain
  split
  · simp [hzeros, h]
  · dsimp only
    split <;> simp [hzeros, htake, hdrop]

theorem isVisible_scientific (h : IsVisible ds) (exponent : Int) :
    IsVisible (Decimal.scientific ds exponent) := by
  have htake := h.of_subset (List.take_subset 1 ds)
  have htail : IsVisible ds.tail := fun c hc => h c (List.mem_of_mem_tail hc)
  have hexponent := isVisible_decimal exponent.natAbs
  unfold Decimal.scientific
  dsimp only
  split <;> split <;> simp [htake, htail, hexponent]

theorem isVisible_write_double (x : Float) : IsVisible (Decimal.write x) := by
  have hpositive : ∀ digits power, IsVisible (Decimal.positive digits power) := by
    intro digits power
    unfold Decimal.positive
    dsimp only
    split
    · exact isVisible_plain (isVisible_decimal digits) _
    · exact isVisible_scientific (isVisible_decimal digits) _
  unfold Decimal.write
  dsimp only
  split <;> split <;> simp [hpositive]

theorem isVisible_write_number (n : Number) : IsVisible n.write := by
  cases n with
  | whole value => exact isVisible_signedDecimal value
  | double value => exact isVisible_write_double value

/-! ## Texts -/

theorem isVisible_hexDigit {n : Nat} (h : n < 16) : 32 ≤ (hexDigit n).toNat := by
  revert n
  decide

theorem isVisible_escape (c : Char) : IsVisible (escape c) := by
  unfold escape
  split
  · simp
  split
  · simp
  iterate 5
    split
    · simp
  split
  · next h => simp [isVisible_hexDigit (n := c.toNat / 16) (by omega),
      isVisible_hexDigit (n := c.toNat % 16) (by omega)]
  · next h => simp [Nat.not_lt.1 h]

theorem isVisible_quote (s : String) : IsVisible (quote s) := by
  have htext : IsVisible (s.toList.flatMap escape) := by
    intro c hc
    obtain ⟨d, -, hd⟩ := List.mem_flatMap.1 hc
    exact isVisible_escape d c hd
  simp [quote, htext]

/-! ## Values -/

mutual

theorem isVisible_write : (v : Value) → IsVisible v.write
  | .null => by simp [Value.write]
  | .boolean true => by simp [Value.write]
  | .boolean false => by simp [Value.write]
  | .number n => by simpa [Value.write] using isVisible_write_number n
  | .text s => by simpa [Value.write] using isVisible_quote s
  | .array elements => by simpa [Value.write] using isVisible_writeElements elements
  | .object fields => by simpa [Value.write] using isVisible_writeFields fields
termination_by structural v => v

theorem isVisible_writeElements : (vs : List Value) → IsVisible (writeElements vs)
  | [] => by simp [writeElements]
  | [v] => by simpa [writeElements] using isVisible_write v
  | v :: w :: vs => by
    simpa [writeElements] using ⟨isVisible_write v, isVisible_writeElements (w :: vs)⟩
termination_by structural vs => vs

theorem isVisible_writeFields : (fields : Fields) → IsVisible (writeFields fields)
  | [] => by simp [writeFields]
  | [field] => by simpa [writeFields] using isVisible_writeField field
  | field :: next :: fields => by
    simpa [writeFields] using ⟨isVisible_writeField field, isVisible_writeFields (next :: fields)⟩
termination_by structural fields => fields

theorem isVisible_writeField : (field : String × Value) → IsVisible (writeField field)
  | (name, v) => by simpa [writeField] using ⟨isVisible_quote name, isVisible_write v⟩
termination_by structural field => field

end

end Gazetteer.Json
