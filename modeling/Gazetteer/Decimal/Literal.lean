/-
Gazetteer.Decimal.Literal — decimals as text.

A decimal is a sign or none, digits with at most one point among, before or
after them, and an exponent or none. White space around it says nothing. At
least one digit has to stand there, and one in an exponent. `writeDyadic` gives
the exact decimal of a floating-point number: digits and an exponent, without a
point.

The floating-point number of a decimal is worked out in steps. The leading
digits, as many as fit 64 bits for certain, make a whole number; the digits
behind them count as zeros. What the exponent then asks for is multiplied on by
powers of ten, each product an extended number, and the last is rounded to a
double. So a long decimal need not lead to the double that is nearest to it.
-/
import Gazetteer.Decimal.Scaled
import Gazetteer.Text.Numeral

namespace Gazetteer.Decimal

open Gazetteer.Text

/-- A decimal. -/
structure Literal where
  isNegative : Bool
  /-- The digits before the point. -/
  whole : List Char
  /-- The digits behind the point. -/
  fraction : List Char
  /-- The power of ten that it is multiplied by. -/
  exponent : Int
  /-- It is written without a point and without an exponent. -/
  isPlain : Bool
  deriving DecidableEq, Repr

namespace Literal

/-! ## Reading -/

/-- The characters that count as white space. -/
def isSpace (c : Char) : Bool := c = ' ' || ('\t' ≤ c && c ≤ '\r')

/-- A text without white space around it. -/
def trimmed (cs : List Char) : List Char :=
  ((cs.dropWhile isSpace).reverse.dropWhile isSpace).reverse

/-- Whether a text opens with a minus sign, and the text after its sign if it has one. -/
def signed : List Char → Bool × List Char
  | '-' :: cs => (true, cs)
  | '+' :: cs => (false, cs)
  | cs => (false, cs)

def digitValue (c : Char) : Nat := c.toNat - '0'.toNat

/-- From here on an exponent is not read more exactly. -/
def greatestExponent : Nat := 10000

/-- An exponent with one digit more. -/
def addExponentDigit (n : Nat) (c : Char) : Nat :=
  if n < greatestExponent then 10 * n + digitValue c else greatestExponent

/-- The exponent that a text spells; no text at all is none. -/
def exponent? : List Char → Option Int
  | [] => some 0
  | c :: cs =>
    if c = 'e' || c = 'E' then
      let (isNegative, cs) := signed cs
      if cs.isEmpty || !cs.all Char.isDigit then none
      else
        let n := cs.foldl addExponentDigit 0
        some (if isNegative then -(n : Int) else n)
    else none

def read? (text : List Char) : Option Literal :=
  let (isNegative, cs) := signed (trimmed text)
  let whole := cs.takeWhile Char.isDigit
  let rest := cs.dropWhile Char.isDigit
  let hasPoint := rest.head? == some '.'
  let rest := if hasPoint then rest.drop 1 else rest
  let fraction := if hasPoint then rest.takeWhile Char.isDigit else []
  let rest := if hasPoint then rest.dropWhile Char.isDigit else rest
  if whole.isEmpty && fraction.isEmpty then none
  else (exponent? rest).map fun exponent =>
    ⟨isNegative, whole, fraction, exponent, !hasPoint && rest.isEmpty⟩

/-- The whole number that a decimal without point and exponent is. -/
def whole? (x : Literal) : Option Int :=
  if x.isPlain then
    (natural? x.whole).map fun n => if x.isNegative then -(n : Int) else n
  else none

/-! ## The floating-point number -/

/-- A significand below this can take one digit more. -/
def fullSignificand : Nat := 1844674407370955160

/-- A significand up to this can be multiplied by ten. -/
def greatestTenth : Nat := 1844674407370955160

/-- A significand and a power of ten with one digit before the point more. -/
def addWholeDigit (state : Nat × Int) (c : Char) : Nat × Int :=
  if state.1 < fullSignificand then (10 * state.1 + digitValue c, state.2)
  else (state.1, state.2 + 1)

/-- A significand and a power of ten with one digit behind the point more. -/
def addFractionDigit (state : Nat × Int) (c : Char) : Nat × Int :=
  if state.1 < fullSignificand then (10 * state.1 + digitValue c, state.2 - 1) else state

/-- The significand that is read, and its power of ten. -/
def significand (x : Literal) : Nat × Int :=
  let (digits, power) := x.fraction.foldl addFractionDigit (x.whole.foldl addWholeDigit (0, 0))
  (digits, x.exponent + power)

/-- A significand that takes up a positive power of ten as far as it may. -/
def raise : (power : Nat) → (digits : Nat) → Nat × Nat
  | 0, digits => (digits, 0)
  | power + 1, digits =>
    if digits ≤ greatestTenth then raise power (10 * digits) else (digits, power + 1)

/-- A significand that takes up a negative power of ten as far as it ends in zeros. -/
def lower : (power : Nat) → (digits : Nat) → Nat × Nat
  | 0, digits => (digits, 0)
  | power + 1, digits =>
    if digits % 10 = 0 then lower power (digits / 10) else (digits, power + 1)

/-- The factors that make up a power of ten, the greatest first, given those that count a hundred,
ten and one. -/
def factors (hundred ten one : Scaled) (power : Nat) : List Scaled :=
  List.replicate (power / 100) hundred ++ List.replicate (power % 100 / 10) ten
    ++ List.replicate (power % 10) one

/-- The factors of a power of ten. -/
def powers (power : Nat) : List Scaled :=
  factors (Scaled.ofNat (Nat.pow 10 100)).toExtended (.ofNat (Nat.pow 10 10)) (.ofNat 10) power

/-- The factors of one divided by a power of ten. -/
def inversePowers (power : Nat) : List Scaled :=
  factors (.inverse (Nat.pow 10 100)) (.inverse (Nat.pow 10 10)) (.inverse 10) power

/-- A decimal without its sign, before it is rounded to a double. -/
def magnitude (x : Literal) : Scaled :=
  let (digits, power) := x.significand
  let (digits, rest) := if 0 ≤ power then raise power.toNat digits else lower (-power).toNat digits
  let steps := if 0 ≤ power then powers rest else inversePowers rest
  steps.foldl Scaled.times (.ofNat digits)

/-- The floating-point number of a decimal. -/
def value (x : Literal) : Rat :=
  if x.isNegative then x.magnitude.doubleValue.neg else x.magnitude.doubleValue

end Literal

/-- The decimal of a number whose denominator is a power of two. -/
def writeDyadic (x : Rat) : List Char :=
  let place := x.den.log2
  signedDecimal (x.num * Nat.pow 5 place) ++ 'e' :: '-' :: decimal place

end Gazetteer.Decimal
