/-
Gazetteer.Decimal.Scaled — whole numbers scaled by powers of two, and their rounding.

A floating-point number is a whole number times a power of two. Rounding drops
binary digits at the end; half way goes to the even neighbour. An extended number
keeps 64 binary digits. A double keeps 53, or fewer where the last of them would
count less than the least double, 2^-1074.
-/
namespace Gazetteer.Decimal

/-- The number `digits * 2 ^ place`. -/
structure Scaled where
  digits : Nat
  place : Int
  deriving DecidableEq, Repr

/-- A quotient rounded to the nearest whole number, half way to the even one. -/
def roundQuotient (num den : Nat) : Nat :=
  let below := num / den
  let twice := 2 * (num % den)
  if twice < den then below
  else if den < twice then below + 1
  else below + below % 2

namespace Scaled

/-- A whole number. -/
def ofNat (n : Nat) : Scaled := ⟨n, 0⟩

/-- The number of binary digits. -/
def size (x : Scaled) : Nat := if x.digits = 0 then 0 else x.digits.log2 + 1

/-- The number without its last binary digits. -/
def drop (x : Scaled) (count : Nat) : Scaled :=
  ⟨roundQuotient x.digits (Nat.pow 2 count), x.place + count⟩

/-- How many binary digits an extended number keeps. -/
def extendedSize : Nat := 64

/-- How many binary digits a double keeps. -/
def doubleSize : Nat := 53

def leastPlace : Int := -1074

/-- The nearest extended number. -/
def toExtended (x : Scaled) : Scaled := x.drop (x.size - extendedSize)

/-- The nearest double. -/
def toDouble (x : Scaled) : Scaled :=
  let beneath := (leastPlace - x.place).toNat
  let excess := x.size - doubleSize
  x.drop (if excess < beneath then beneath else excess)

/-- The product as an extended number. -/
def times (x y : Scaled) : Scaled := (⟨x.digits * y.digits, x.place + y.place⟩ : Scaled).toExtended

/-- The extended number nearest to one divided by a whole number: the quotient is taken to more
digits than are kept, the last of which says whether anything is left. -/
def inverse (n : Nat) : Scaled :=
  let count := n.log2 + 2 * extendedSize
  let quotient := Nat.pow 2 count / n
  let rest := if Nat.pow 2 count % n = 0 then 0 else 1
  (⟨2 * quotient + rest, -(count : Int) - 1⟩ : Scaled).toExtended

/-- The number as a fraction. -/
def toRat (x : Scaled) : Rat :=
  mkRat (x.digits * Nat.pow 2 x.place.toNat : Nat) (Nat.pow 2 (-x.place).toNat)

/-- The greatest double. -/
def greatest : Scaled := ⟨Nat.pow 2 53 - 1, 971⟩

/-- The number that stands for all that are too great for a double. -/
def beyond : Scaled := ⟨1, 1024⟩

/-- The value of the nearest double; all numbers above the greatest double have the same. -/
def doubleValue (x : Scaled) : Rat :=
  if greatest.toRat.blt x.toRat then beyond.toRat else x.toDouble.toRat

end Scaled

end Gazetteer.Decimal
