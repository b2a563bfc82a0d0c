/-
Gazetteer.Json.Scan — the tokens of JSON text.

A scanner takes the text that is left and answers with what it read and the
text after it, or with a fault. A fault is `truncated` if the text ends too
early, `malformed` if it is not JSON, and `mismatched` if it is JSON of the
wrong shape. Texts are read either in full, where lone surrogates are faults,
or are read over, where four hexadecimal digits are all that an escape needs.
Numbers that are read over need no range.

A whole number that fits 64 bits stays whole. Every other number is a double:
its leading digits that fit 64 bits, as a double, times or divided by a power
of ten as a double; powers out of range are taken in two steps.
-/
import Gazetteer.Json.Value
import Gazetteer.Address.V6

namespace Gazetteer.Json

/-- Why a text cannot be read. -/
inductive Fault where
  /-- The text ends too early. -/
  | truncated
  /-- The text is not JSON. -/
  | malformed
  /-- The text is JSON of another shape. -/
  | mismatched
  deriving DecidableEq, Repr

/-- What a scanner answers: what it read, and the text after it. -/
abbrev Scanned (α : Type) := Except Fault (α × List Char)

def isSpace (c : Char) : Bool := c == ' ' || c == '\n' || c == '\t' || c == '\r'

/-- The text after leading white space. -/
def skipSpace (cs : List Char) : List Char := cs.dropWhile isSpace

/-- The text after the rest of a word. -/
def word : (expected : List Char) → List Char → Except Fault (List Char)
  | [], cs => .ok cs
  | _ :: _, [] => .error .truncated
  | e :: expected, c :: cs => if c = e then word expected cs else .error .malformed

/-! ## Texts -/

/-- Where a scanner stands inside a quoted text. -/
inductive Quoted where
  | plain
  /-- After a backslash. -/
  | escaped
  /-- Inside four hexadecimal digits: how many are to come, the number so far, and the leading
  surrogate before them. -/
  | hex (left value : Nat) (lead : Option Nat)
  /-- After a leading surrogate. -/
  | afterLead (lead : Nat)
  /-- After a leading surrogate and a backslash. -/
  | afterLeadSlash (lead : Nat)
  deriving DecidableEq, Repr

/-- The character of a letter after a backslash. -/
def escapedChar? (c : Char) : Option Char :=
  if c = '"' ∨ c = '\\' ∨ c = '/' then some c
  else if c = 'b' then some '\x08'
  else if c = 'f' then some '\x0c'
  else if c = 'n' then some '\n'
  else if c = 'r' then some '\r'
  else if c = 't' then some '\t'
  else none

/-- The text goes on for at least four bytes. -/
def hasFourBytes (cs : List Char) : Bool :=
  4 ≤ (cs.take 4).foldl (fun size c => size + c.utf8Size) 0

/-- A leading surrogate. -/
def isLead (n : Nat) : Bool := 0xD800 ≤ n && n ≤ 0xDBFF

/-- A trailing surrogate. -/
def isTrail (n : Nat) : Bool := 0xDC00 ≤ n && n ≤ 0xDFFF

/-- The character of a leading and a trailing surrogate. -/
def paired (lead trail : Nat) : Char :=
  Char.ofNat (0x10000 + (lead - 0xD800) * 0x400 + (trail - 0xDC00))

/-- What four hexadecimal digits mean: a character, or a leading surrogate. -/
def unit (value : Nat) (lead : Option Nat) : Except Fault (Char ⊕ Nat) :=
  match lead with
  | some lead => if isTrail value then .ok (.inl (paired lead value)) else .error .malformed
  | none =>
    if isTrail value then .error .malformed
    else if isLead value then .ok (.inr value)
    else .ok (.inl (Char.ofNat value))

/-- The characters of a quoted text, from inside it. -/
def quoted : Quoted → List Char → Scanned (List Char)
  | _, [] => .error .truncated
  | .plain, c :: cs =>
    if c = '"' then .ok ([], cs)
    else if c = '\\' then quoted .escaped cs
    else if c.toNat < 32 then .error .malformed
    else (quoted .plain cs).map fun (text, rest) => (c :: text, rest)
  | .escaped, c :: cs =>
    if c = 'u' then
      if hasFourBytes cs then quoted (.hex 4 0 none) cs else .error .truncated
    else match escapedChar? c with
      | some d => (quoted .plain cs).map fun (text, rest) => (d :: text, rest)
      | none => .error .malformed
  | .hex left value lead, c :: cs =>
    if !Address.V6.isHexDigit c then .error .malformed
    else
      let value := value * 16 + Address.V6.hexDigitValue c
      if 1 < left then quoted (.hex (left - 1) value lead) cs
      else match unit value lead with
        | .error fault => .error fault
        | .ok (.inr lead) => quoted (.afterLead lead) cs
        | .ok (.inl d) => (quoted .plain cs).map fun (text, rest) => (d :: text, rest)
  | .afterLead lead, c :: cs =>
    if c = '\\' then quoted (.afterLeadSlash lead) cs else .error .malformed
  | .afterLeadSlash lead, c :: cs =>
    if c = 'u' then
      if hasFourBytes cs then quoted (.hex 4 0 (some lead)) cs else .error .truncated
    else .error .malformed

/-- A text, after its opening quote. -/
def text (cs : List Char) : Scanned String :=
  (quoted .plain cs).map fun (chars, rest) => (String.ofList chars, rest)

/-- The text after a quoted text that is read over, from inside it; `hex` counts the hexadecimal
digits to come. -/
def skipQuoted : (isEscaped : Bool) → (hex : Nat) → List Char → Except Fault (List Char)
  | _, _, [] => .error .truncated
  | isEscaped, hex + 1, c :: cs =>
    if Address.V6.isHexDigit c then skipQuoted isEscaped hex cs else .error .malformed
  | true, 0, c :: cs =>
    if c = 'u' then if hasFourBytes cs then skipQuoted false 4 cs else .error .truncated
    else if (escapedChar? c).isSome then skipQuoted false 0 cs
    else .error .malformed
  | false, 0, c :: cs =>
    if c = '"' then .ok cs
    else if c = '\\' then skipQuoted true 0 cs
    else if c.toNat < 32 then .error .malformed
    else skipQuoted false 0 cs

/-! ## Numbers -/

/-- The digits at the head of a text, and the text after them. -/
def digits (cs : List Char) : List Char × List Char :=
  (cs.takeWhile Char.isDigit, cs.dropWhile Char.isDigit)

/-- The greatest number of 64 bits. -/
def maxWord : Nat := 0xFFFFFFFFFFFFFFFF

/-- Append digits to a number while it fits 64 bits; the number, and how many digits were left
over. -/
def accumulate (number : Nat) : List Char → Nat × Nat
  | [] => (number, 0)
  | c :: cs =>
    let next := number * 10 + (c.toNat - '0'.toNat)
    if next ≤ maxWord then accumulate next cs else (number, cs.length + 1)

/-- A power of ten as a double. -/
def powerOfTen (exponent : Nat) : Float := Float.ofScientific 1 false exponent

/-- The greatest power of ten that is a double. -/
def maxPower : Nat := 308

/-- The double of a number times a power of ten; nothing if it is out of range. -/
def scaled? (number : Nat) (exponent : Int) : Option Float :=
  let x := (UInt64.ofNat number).toFloat
  if 0 ≤ exponent then
    if number = 0 then some x
    else if exponent ≤ maxPower then
      let y := x * powerOfTen exponent.toNat
      if y.isInf then none else some y
    else none
  else if -(maxPower : Int) ≤ exponent then some (x / powerOfTen (-exponent).toNat)
  else if -(2 * maxPower : Int) ≤ exponent then
    some (x / powerOfTen maxPower / powerOfTen (-exponent - maxPower).toNat)
  else some 0

/-- A double with a sign. -/
def signed (isNegative : Bool) (x : Float) : Number := .double (if isNegative then -x else x)

/-- The double of a number and a power of ten. -/
def doubleOf (isNegative : Bool) (number : Nat) (exponent : Int) (rest : List Char) :
    Scanned Number :=
  match scaled? number exponent with
  | none => .error .malformed
  | some x => .ok (signed isNegative x, rest)

/-- The exponent of a number, after its letter. -/
def exponentPart (isNegative : Bool) (number : Nat) (start : Int) (cs : List Char) :
    Scanned Number :=
  let isDown := cs.head? == some '-'
  let cs := if isDown || cs.head? == some '+' then cs.drop 1 else cs
  match cs with
  | [] => .error .truncated
  | c :: _ =>
    if !c.isDigit then .error .malformed
    else
      let (ds, rest) := digits cs
      let size := Nat.ofDigitChars 10 ds 0
      if size < 0x80000000 then
        doubleOf isNegative number (if isDown then start - size else start + size) rest
      else if number ≠ 0 ∧ !isDown then .error .malformed
      else .ok (signed isNegative 0, rest)

/-- The end of a number that is a double: an exponent, or none. -/
def exponentOrEnd (isNegative : Bool) (number : Nat) (start : Int) (cs : List Char) :
    Scanned Number :=
  match cs with
  | 'e' :: rest | 'E' :: rest => exponentPart isNegative number start rest
  | _ => doubleOf isNegative number start cs

/-- The fraction of a number, after the point. -/
def fractionPart (isNegative : Bool) (number : Nat) (start : Int) (cs : List Char) :
    Scanned Number :=
  let (ds, rest) := digits cs
  if ds.isEmpty then .error (if rest.isEmpty then .truncated else .malformed)
  else
    let (number, left) := accumulate number ds
    exponentOrEnd isNegative number (start - (ds.length - left : Nat)) rest

/-- A whole number with its sign: one that does not fit 64 bits, and a negative zero, are
doubles. -/
def wholeOf (isNegative : Bool) (number : Nat) : Number :=
  if !isNegative then .whole number
  else if number = 0 ∨ 0x8000000000000000 < number then .double (-(UInt64.ofNat number).toFloat)
  else .whole (-(number : Int))

/-- A number, after its sign. -/
def unsignedNumber (isNegative : Bool) (cs : List Char) : Scanned Number :=
  match cs with
  | [] => .error .truncated
  | c :: _ =>
    let (ds, rest) := digits cs
    if ds.isEmpty ∨ (c = '0' ∧ 1 < ds.length) then .error .malformed
    else
      let (number, left) := accumulate 0 ds
      match rest with
      | '.' :: rest => fractionPart isNegative number left rest
      | 'e' :: rest | 'E' :: rest => exponentPart isNegative number left rest
      | _ =>
        if left = 0 then .ok (wholeOf isNegative number, rest)
        else doubleOf isNegative number left rest

def number (cs : List Char) : Scanned Number :=
  match cs with
  | '-' :: rest => unsignedNumber true rest
  | _ => unsignedNumber false cs

/-- The text after the exponent of a number that is read over. -/
def skipExponent (cs : List Char) : Except Fault (List Char) :=
  let cs := if cs.head? == some '-' || cs.head? == some '+' then cs.drop 1 else cs
  let (ds, rest) := digits cs
  if ds.isEmpty then .error .malformed else .ok rest

/-- The text after a number that is read over. -/
def skipNumber (cs : List Char) : Except Fault (List Char) :=
  let cs := if cs.head? == some '-' then cs.drop 1 else cs
  let (ds, rest) := digits cs
  if ds.isEmpty ∨ (ds.head? = some '0' ∧ 1 < ds.length) then .error .malformed
  else match rest with
    | '.' :: rest =>
      let (fraction, rest) := digits rest
      if fraction.isEmpty then .error .malformed
      else match rest with
        | 'e' :: rest | 'E' :: rest => skipExponent rest
        | _ => .ok rest
    | 'e' :: rest | 'E' :: rest => skipExponent rest
    | _ => .ok rest

def opensNumber (c : Char) : Bool := c == '-' || c.isDigit

end Gazetteer.Json
