/-
Gazetteer.Text.Utf8 — text from bytes, and the place of the first fault.

Core decides which byte sequences are well-formed UTF-8 and turns them into
text. For a sequence that is not, `Fault` tells where the first ill-formed
sequence starts and how it fails: either a number of bytes (one to three)
cannot begin any character, or the input ends inside a character.
-/
namespace Gazetteer.Text.Utf8

/-- How a byte sequence fails to be UTF-8. -/
inductive Fault where
  /-- The `count` bytes at `index` begin no character. -/
  | malformed (count index : Nat)
  /-- The input ends inside the character that starts at `index`. -/
  | incomplete (index : Nat)
  deriving DecidableEq, Repr

/-- The report on a fault, with its place counted in bytes. -/
def Fault.message : Fault → String
  | malformed count index =>
      "invalid utf-8 sequence of " ++ toString count ++ " bytes from index " ++ toString index
  | incomplete index => "incomplete utf-8 byte sequence from index " ++ toString index

/-- A byte continues a character. -/
def isContinuation (b : UInt8) : Bool := 0x80 ≤ b && b ≤ 0xBF

/-- The length in bytes of the character that a byte begins, zero if it begins none. -/
def width (b : UInt8) : Nat :=
  if b ≤ 0x7F then 1
  else if 0xC2 ≤ b && b ≤ 0xDF then 2
  else if 0xE0 ≤ b && b ≤ 0xEF then 3
  else if 0xF0 ≤ b && b ≤ 0xF4 then 4
  else 0

/-- Whether a second byte may follow a first one: overlong forms, surrogates and numbers above
U+10FFFF are refused here. -/
def maySecond (first second : UInt8) : Bool :=
  if first == 0xE0 then 0xA0 ≤ second && second ≤ 0xBF
  else if first == 0xED then 0x80 ≤ second && second ≤ 0x9F
  else if first == 0xF0 then 0x90 ≤ second && second ≤ 0xBF
  else if first == 0xF4 then 0x80 ≤ second && second ≤ 0x8F
  else isContinuation second

/-- How many bytes of a character of `len` bytes are present and well placed: `none` if all are,
else the number of good bytes, and whether the input ended there. -/
def broken? (first : UInt8) (len : Nat) (rest : List UInt8) : Option (Nat × Bool) :=
  if len ≤ 1 then none
  else match rest with
    | [] => some (1, true)
    | second :: rest =>
      if !maySecond first second then some (1, false)
      else go 2 (len - 2) rest
where
  /-- The bytes after the second. -/
  go (good : Nat) : Nat → List UInt8 → Option (Nat × Bool)
    | 0, _ => none
    | _ + 1, [] => some (good, true)
    | more + 1, b :: rest =>
      if isContinuation b then go (good + 1) more rest else some (good, false)

/-- The first fault of a byte sequence whose head stands at `index`; `skip` bytes of it belong to
a character already seen. -/
def firstFault? (index : Nat) : (skip : Nat) → List UInt8 → Option Fault
  | _, [] => none
  | skip + 1, _ :: rest => firstFault? (index + 1) skip rest
  | 0, b :: rest =>
    match width b with
    | 0 => some (.malformed 1 index)
    | len => match broken? b len rest with
      | none => firstFault? (index + 1) (len - 1) rest
      | some (_, true) => some (.incomplete index)
      | some (good, false) => some (.malformed good index)

/-- The text that the bytes spell, or their first fault. -/
def read (bytes : ByteArray) : Except Fault String :=
  match String.fromUTF8? bytes with
  | some s => .ok s
  | none => .error ((firstFault? 0 0 bytes.toList).getD (.malformed 1 0))

end Gazetteer.Text.Utf8
