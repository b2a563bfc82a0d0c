/-
Gazetteer.Text.Numeral — whole numbers as decimal text.

A numeral is a nonempty run of ASCII digits; leading zeros change nothing. A
signed numeral may open with one `+` or `-`. `int64?` reads the signed numerals
whose number fits 64 bits and refuses every other text, so a number is read
exactly or not at all. `decimal` writes the shortest numeral.
-/
namespace Gazetteer.Text

/-- The number that a nonempty run of ASCII digits denotes. -/
def natural? (cs : List Char) : Option Nat :=
  if !cs.isEmpty && cs.all Char.isDigit then some (Nat.ofDigitChars 10 cs 0) else none

/-- The number that a numeral with an optional sign denotes. -/
def signed? : List Char → Option Int
  | '+' :: cs => (natural? cs).map Int.ofNat
  | '-' :: cs => (natural? cs).map fun n => -(n : Int)
  | cs => (natural? cs).map Int.ofNat

/-- A number lies in the range of signed 64-bit words. -/
def fitsInt64 (n : Int) : Bool := -0x8000000000000000 ≤ n && n < 0x8000000000000000

/-- The number of a signed numeral, if it fits 64 bits. -/
def int64? (cs : List Char) : Option Int := (signed? cs).filter fitsInt64

/-- The numeral of a number, without leading zeros. -/
def decimal (n : Nat) : List Char := Nat.toDigits 10 n

/-- The numeral of a number, with a minus sign before a negative one. -/
def signedDecimal : Int → List Char
  | .ofNat n => decimal n
  | .negSucc n => '-' :: decimal (n + 1)

/-! ## Reading back what was written -/

theorem decimal_ne_nil (n : Nat) : decimal n ≠ [] := Nat.toDigits_ne_nil

theorem isDigit_of_mem_decimal {n : Nat} {c : Char} (h : c ∈ decimal n) : c.isDigit = true :=
  Nat.isDigit_of_mem_toDigits (by decide) (by decide) h

theorem natural?_decimal (n : Nat) : natural? (decimal n) = some n := by
  have h1 : (decimal n).isEmpty = false := by
    simpa using decimal_ne_nil n
  have h2 : (decimal n).all Char.isDigit = true :=
    List.all_eq_true.2 fun c hc => isDigit_of_mem_decimal hc
  simp only [natural?, h1, h2, Bool.not_false, Bool.and_self, if_true]
  exact congrArg some (Nat.ofDigitChars_toDigits (by decide) (by decide))

end Gazetteer.Text
