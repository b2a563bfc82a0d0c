/-
Gazetteer.Decimal.Shortest — the fewest digits that still name one number.

A floating-point number stands for every real that rounds to it: an interval
around it that ends half way to its neighbours and includes its ends if the
number's significand is even. Among the multiples of powers of ten in that
interval the ones of the greatest power have the fewest digits, and of those
the nearest to the number is taken, of two equally near ones the even one.

All numbers of one search are whole multiples of one unit, so the search is
exact. `search` goes down the powers of ten from 10^309, which no double
reaches, and meets the interval at the latest at the unit of the least double.
-/
namespace Gazetteer.Decimal

/-- The reals that round to one number, as multiples of `1 / den`. -/
structure Interval where
  low : Nat
  value : Nat
  high : Nat
  den : Nat
  /-- The ends belong to the interval. -/
  isClosed : Bool
  deriving DecidableEq, Repr

/-- Whether `num / den` lies in an interval whose ends are `low` and `high` over the same `den`. -/
def Interval.holds (interval : Interval) (scale num : Nat) : Bool :=
  if interval.isClosed then interval.low * scale ≤ num && num ≤ interval.high * scale
  else interval.low * scale < num && num < interval.high * scale

/-- The multiple of `10 ^ exponent` in an interval that is nearest to its value, if there is
one. -/
def Interval.nearest? (interval : Interval) (exponent : Int) : Option Nat :=
  let scale := Nat.pow 10 (-exponent).toNat
  let unit := Nat.pow 10 exponent.toNat * interval.den
  let target := interval.value * scale
  let below := target / unit
  let above := below + 1
  let isBelow := interval.holds scale (below * unit)
  let isAbove := interval.holds scale (above * unit)
  if isBelow && isAbove then
    let left := target - below * unit
    let right := above * unit - target
    if left < right then some below
    else if right < left then some above
    else some (if below % 2 = 0 then below else above)
  else if isBelow then some below
  else if isAbove then some above
  else none

/-- The digits and the power of ten of the first grid that meets the interval, going down from
`10 ^ exponent`. -/
def Interval.search (interval : Interval) : (steps : Nat) → (exponent : Int) → Nat × Int
  | 0, exponent => (0, exponent)
  | steps + 1, exponent =>
    match interval.nearest? exponent with
    | some digits => (digits, exponent)
    | none => interval.search steps (exponent - 1)

/-- The weight of the sign bit of a double. -/
def signWeight : Nat := 0x8000000000000000

/-- The number of fractions, which is the weight of the exponent field of a double. -/
def fractionSize : Nat := 0x10000000000000

/-- The interval of a positive double, given by its exponent and fraction fields. -/
def Interval.ofFields (exponent fraction : Nat) : Interval :=
  let significand := if exponent = 0 then fraction else fraction + fractionSize
  -- counted in quarters of the last place: the ends lie two quarters away, or one at the lower
  -- end of a binade
  let power := if exponent = 0 then 1 else exponent
  let isLeast := fraction = 0 ∧ 1 < exponent
  let factor := Nat.pow 2 (power - 1077)
  { low := (4 * significand - if isLeast then 1 else 2) * factor
    value := 4 * significand * factor
    high := (4 * significand + 2) * factor
    den := Nat.pow 2 (1077 - power)
    isClosed := significand % 2 = 0 }

/-- The shortest decimal of a positive finite double: its digits and their power of ten. -/
def shortest (bits : UInt64) : Nat × Int :=
  let n := bits.toNat % signWeight
  (Interval.ofFields (n / fractionSize) (n % fractionSize)).search 700 309

end Gazetteer.Decimal
