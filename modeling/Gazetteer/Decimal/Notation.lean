/-
Gazetteer.Decimal.Notation — how a floating-point number is written in an event.

A number d.ddd · 10^e with e from -5 to 15 is written in plain notation with a
point and at least one digit after it. Any other number is written with one
digit before the point, the rest after it if there is any, and the signed
exponent. Zero keeps its sign.
-/
import Gazetteer.Decimal.Shortest
import Gazetteer.Text.Numeral

namespace Gazetteer.Decimal

open Gazetteer.Text

/-- The least and greatest exponents of numbers written in plain notation. -/
def plainExponents : Int × Int := (-5, 15)

/-- Digits with the point before the digit of a place, counted from the left and possibly past
either end. -/
def plain (digits : List Char) (place : Int) : List Char :=
  if place ≤ 0 then '0' :: '.' :: (List.replicate (-place).toNat '0' ++ digits)
  else
    let whole := digits.take place.toNat
    let rest := digits.drop place.toNat
    let zeros := List.replicate (place.toNat - digits.length) '0'
    whole ++ zeros ++ '.' :: (if rest.isEmpty then ['0'] else rest)

/-- Digits with the point after the first of them, and an exponent. -/
def scientific (digits : List Char) (exponent : Int) : List Char :=
  let sign := if exponent < 0 then '-' else '+'
  digits.take 1 ++ (if digits.length = 1 then [] else '.' :: digits.drop 1)
    ++ 'e' :: sign :: decimal exponent.natAbs

/-- The number `digits * 10 ^ power`. -/
def positive (digits : Nat) (power : Int) : List Char :=
  let text := decimal digits
  let exponent := power + text.length - 1
  if plainExponents.1 ≤ exponent ∧ exponent ≤ plainExponents.2 then plain text (exponent + 1)
  else scientific text exponent

/-- A finite floating-point number. -/
def write (x : Float) : List Char :=
  let bits := x.toBits
  let sign := if signWeight ≤ bits.toNat then ['-'] else []
  if bits.toNat % signWeight = 0 then sign ++ ['0', '.', '0']
  else
    let (digits, power) := shortest bits
    sign ++ positive digits power

end Gazetteer.Decimal
