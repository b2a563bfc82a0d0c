/-
Gazetteer.Address.V4 — dotted addresses and the 32-bit numbers they stand for.

A dotted address is four octets joined by dots. Its grammar is one of digit
patterns: one or two decimal digits of any script, or three where the first is
`0` or `1`, or the first two are `20` to `24`, or all three are `250` to `255`.
`encode` weighs the octets by powers of 256; an octet that is not written in
ASCII digits weighs nothing. `dotted` writes a number back, and `area` is the
text of its first two octets, under which a range table files its rows.
-/
import Gazetteer.Text.DecimalDigit
import Gazetteer.Text.Numeral

namespace Gazetteer.Address

open Gazetteer.Text

/-- A 32-bit address. -/
abbrev V4 := BitVec 32

namespace V4

/-! ## Reading -/

/-- The digit pattern of one octet. -/
def isOctet : List Char → Bool
  | [c] => isDecimalDigit c
  | [b, c] => isDecimalDigit b && isDecimalDigit c
  | [a, b, c] =>
    ((a == '0' || a == '1') && isDecimalDigit b && isDecimalDigit c)
      || (a == '2' && '0' ≤ b && b ≤ '4' && isDecimalDigit c)
      || (a == '2' && b == '5' && '0' ≤ c && c ≤ '5')
  | _ => false

/-- The text is four octets joined by dots. -/
def isDotted (cs : List Char) : Bool :=
  let parts := cs.splitOn '.'
  parts.length == 4 && parts.all isOctet

/-- The weight of one octet: its number, or nothing if it is not written in ASCII digits. -/
def octetValue (cs : List Char) : Nat := (natural? cs).getD 0

/-- The weighted sum of octets, the first weighing most. -/
def weigh (octets : List Nat) : Nat := octets.foldl (fun acc octet => acc * 256 + octet % 256) 0

/-- The number of a dotted address. -/
def encode (s : String) : V4 :=
  BitVec.ofNat 32 (weigh (((s.toList.splitOn '.').take 4).map octetValue))

/-- The number of a dotted address whose four octets are all written in ASCII digits. -/
def ofDotted? (cs : List Char) : Option V4 :=
  let octets := (cs.splitOn '.').filterMap fun part => (natural? part).filter (· ≤ 255)
  if octets.length = 4 then some (BitVec.ofNat 32 (weigh octets)) else none

/-! ## Writing -/

/-- The four octets of an address, the weightiest first. -/
def octets (v : V4) : List Nat :=
  [v.toNat / 0x1000000, v.toNat / 0x10000 % 0x100, v.toNat / 0x100 % 0x100, v.toNat % 0x100]

/-- The address as four plain decimal octets joined by dots. -/
def dotted (v : V4) : List Char := ['.'].intercalate ((octets v).map decimal)

/-- The text before the second dot, if there are two. -/
def coarse? (cs : List Char) : Option (List Char) :=
  match cs.splitOn '.' with
  | a :: b :: _ :: _ => some (a ++ '.' :: b)
  | _ => none

/-- The text of the first two octets, a coarse key for range rows. -/
def area (v : V4) : String := String.ofList ((coarse? (dotted v)).getD [])

end V4

/-- The text before the second dot of a text, if there are two. -/
def coarse? (s : String) : Option String := (V4.coarse? s.toList).map String.ofList

end Gazetteer.Address
