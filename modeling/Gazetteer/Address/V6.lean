/-
Gazetteer.Address.V6 — colon-separated addresses and their 128 bits.

Two readings of the same notation live side by side. `ofText?` is the exact
one: eight groups of one to four hexadecimal digits, or fewer around one `::`
that stands for the missing zeros, where the last two groups may be written as
a dotted address without leading zeros. `isFull` and `isCompressed` are the
coarser digit patterns; a compressed text may hold any number of groups on
either side, so some texts fit the pattern and denote no address.
-/
import Gazetteer.Address.V4
import Gazetteer.Text.Cut

namespace Gazetteer.Address

open Gazetteer.Text

/-- A 128-bit address. -/
abbrev V6 := BitVec 128

namespace V6

/-- An ASCII hexadecimal digit. -/
def isHexDigit (c : Char) : Bool :=
  c.isDigit || ('a' ≤ c && c ≤ 'f') || ('A' ≤ c && c ≤ 'F')

/-- The number of a hexadecimal digit. -/
def hexDigitValue (c : Char) : Nat :=
  if c.isDigit then c.toNat - '0'.toNat
  else if 'a' ≤ c then c.toNat - 'a'.toNat + 10
  else c.toNat - 'A'.toNat + 10

/-- The number that hexadecimal digits denote. -/
def hexValue (cs : List Char) : Nat := cs.foldl (fun acc c => acc * 16 + hexDigitValue c) 0

/-! ## Digit patterns -/

/-- One to four hexadecimal digits. -/
def isGroup (cs : List Char) : Bool :=
  1 ≤ cs.length && cs.length ≤ 4 && cs.all isHexDigit

/-- Eight groups joined by colons. -/
def isFull (cs : List Char) : Bool :=
  let parts := cs.splitOn ':'
  parts.length == 8 && parts.all isGroup

/-- Any number of groups joined by colons, or none. -/
def isGroupRun (cs : List Char) : Bool := cs.isEmpty || (cs.splitOn ':').all isGroup

/-- Two runs of groups around a double colon. -/
def isCompressed (cs : List Char) : Bool :=
  match cutPair ':' cs with
  | some (front, back) => isGroupRun front && isGroupRun back
  | none => false

/-! ## The exact reading -/

/-- One group at the head of a text, and what follows it. -/
def group? (cs : List Char) : Option (Nat × List Char) :=
  let digits := cs.takeWhile isHexDigit
  if isGroup digits then some (hexValue digits, cs.dropWhile isHexDigit) else none

/-- One plain decimal octet at the head of a text, and what follows it. -/
def octet? (cs : List Char) : Option (Nat × List Char) :=
  let digits := cs.takeWhile Char.isDigit
  let value := V4.octetValue digits
  if 1 ≤ digits.length && digits.length ≤ 3 && value ≤ 255
      && (digits.length == 1 || digits.head? != some '0') then
    some (value, cs.dropWhile Char.isDigit)
  else none

/-- The rest of a text after one given character. -/
def after? (c : Char) : List Char → Option (List Char)
  | [] => none
  | d :: cs => if d = c then some cs else none

/-- A plain dotted address at the head of a text, as two groups, and what follows it. -/
def quad? (cs : List Char) : Option (Nat × Nat × List Char) := do
  let (a, cs) ← octet? cs
  let (b, cs) ← octet? (← after? '.' cs)
  let (c, cs) ← octet? (← after? '.' cs)
  let (d, cs) ← octet? (← after? '.' cs)
  return (a * 256 + b, c * 256 + d, cs)

/-- What a run of groups at the head of a text holds. -/
structure Run where
  /-- The groups read. -/
  groups : List Nat
  /-- The last two of them were written as a dotted address. -/
  endsDotted : Bool
  /-- The text after them. -/
  rest : List Char

/-- The longest run of at most `room` groups at the head of a text. All but the first of them
follow a colon. A dotted address counts as two groups and ends the run. -/
def run (isFirst : Bool) : (room : Nat) → List Char → Run
  | 0, cs => ⟨[], false, cs⟩
  | room + 1, cs =>
    let start? := if isFirst then some cs else after? ':' cs
    match if room = 0 then none else start?.bind quad? with
    | some (high, low, rest) => ⟨[high, low], true, rest⟩
    | none =>
      match start?.bind group? with
      | none => ⟨[], false, cs⟩
      | some (value, rest) =>
        let next := run false room rest
        ⟨value :: next.groups, next.endsDotted, next.rest⟩

/-- The address of eight groups, the weightiest first. -/
def ofGroups (groups : List Nat) : V6 :=
  BitVec.ofNat 128 (groups.foldl (fun acc g => acc * 65536 + g) 0)

/-- The address that a whole text denotes. -/
def ofText? (cs : List Char) : Option V6 :=
  let front := run true 8 cs
  if front.groups.length = 8 then
    if front.rest.isEmpty then some (ofGroups front.groups) else none
  else if front.endsDotted then none
  else match front.rest with
    | ':' :: ':' :: rest =>
      let back := run true (7 - front.groups.length) rest
      let zeros := List.replicate (8 - front.groups.length - back.groups.length) 0
      if back.rest.isEmpty then some (ofGroups (front.groups ++ zeros ++ back.groups)) else none
    | _ => none

end V6

end Gazetteer.Address
