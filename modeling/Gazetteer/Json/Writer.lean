/-
Gazetteer.Json.Writer — JSON text, compact.

A text is written between quotes; quotes, backslashes and the characters below
U+0020 are escaped, five of those by a letter and the others by four
hexadecimal digits, and every other character stands for itself. So a written
value holds no line break. Whole numbers are written in plain decimal, doubles
as `Decimal.write` does, and nothing stands between the tokens.
-/
import Gazetteer.Json.Value
import Gazetteer.Decimal.Notation

namespace Gazetteer.Json

/-- The lower-case hexadecimal digit of a number below sixteen. -/
def hexDigit (n : Nat) : Char := if n < 10 then Char.ofNat (48 + n) else Char.ofNat (87 + n)

/-- How a character is written inside quotes. -/
def escape (c : Char) : List Char :=
  if c = '"' then ['\\', '"']
  else if c = '\\' then ['\\', '\\']
  else if c.toNat = 8 then ['\\', 'b']
  else if c.toNat = 9 then ['\\', 't']
  else if c.toNat = 10 then ['\\', 'n']
  else if c.toNat = 12 then ['\\', 'f']
  else if c.toNat = 13 then ['\\', 'r']
  else if c.toNat < 32 then ['\\', 'u', '0', '0', hexDigit (c.toNat / 16), hexDigit (c.toNat % 16)]
  else [c]

/-- A text between quotes. -/
def quote (s : String) : List Char := '"' :: (s.toList.flatMap escape ++ ['"'])

def Number.write : Number → List Char
  | whole value => Text.signedDecimal value
  | double value => Decimal.write value

mutual

def Value.write : Value → List Char
  | .null => ['n', 'u', 'l', 'l']
  | .boolean true => ['t', 'r', 'u', 'e']
  | .boolean false => ['f', 'a', 'l', 's', 'e']
  | .number value => value.write
  | .text value => quote value
  | .array elements => '[' :: writeElements elements
  | .object fields => '\x7b' :: writeFields fields
termination_by structural value => value

/-- The elements of an array and its end. -/
def writeElements : List Value → List Char
  | [] => [']']
  | [element] => element.write ++ [']']
  | element :: elements => element.write ++ ',' :: writeElements elements
termination_by structural elements => elements

/-- The fields of an object and its end. -/
def writeFields : List (String × Value) → List Char
  | [] => ['\x7d']
  | [field] => writeField field ++ ['\x7d']
  | field :: fields => writeField field ++ ',' :: writeFields fields
termination_by structural fields => fields

def writeField : String × Value → List Char
  | (name, value) => quote name ++ ':' :: value.write
termination_by structural field => field

end

def Value.toText (value : Value) : String := String.ofList value.write

end Gazetteer.Json
