/-
Gazetteer.Mmdb.Data — the data format inside a MaxMind database.

A value opens with a control byte: three bits of type, five bits of size. Type
zero puts the true type into the next byte; sizes from 29 up put more of the
size into one to three further bytes. Maps and arrays hold as many values as
their size says. A pointer stands for the value at its target; reading goes on
after the pointer, and pointers may lead to pointers.

A reader takes a position and answers with what it read and the position after
it; `none` is any fault. Every reader that follows pointers carries an allowance
of steps. The number of bytes plus one is enough: a chain of pointers or a nest
of values that is longer visits some position twice and would never end.
-/

namespace Gazetteer.Mmdb

/-- A run of values: the bytes of a file and where position zero lies. -/
structure Section where
  bytes : ByteArray
  base : Nat

namespace Section

/-- The byte at a position. -/
def byte? (s : Section) (pos : Nat) : Option UInt8 := s.bytes[s.base + pos]?

/-- The bytes at a position, as many as asked for. -/
def take? (s : Section) (pos count : Nat) : Option ByteArray :=
  let start := s.base + pos
  if start + count ≤ s.bytes.size then some (s.bytes.extract start (start + count)) else none

/-- Enough steps for every value that ends. -/
def allowance (s : Section) : Nat := s.bytes.size + 1

end Section

/-- The number of bytes read as one number, the weightiest first. -/
def bigEndian (bytes : ByteArray) : Nat := bytes.foldl (fun acc b => acc * 256 + b.toNat) 0

/-- The number at a position that takes `count` bytes. -/
def Section.number? (s : Section) (pos count : Nat) : Option Nat :=
  (s.take? pos count).map bigEndian

/-- A value up to its parts. -/
inductive Head where
  | pointer (target : Nat)
  | text (value : String)
  | bytes (value : ByteArray)
  /-- An unsigned number of at most 64 bits. -/
  | unsigned (value : Nat)
  /-- An unsigned number of up to 128 bits. -/
  | wide (value : Nat)
  | signed (value : Int)
  | boolean (value : Bool)
  /-- The bits of a float or double; no reader looks at them. -/
  | real (bits : Nat)
  | map (count : Nat)
  | array (count : Nat)

/-- The type and size of the value at a position, and the position after the control bytes. -/
def Section.control? (s : Section) (pos : Nat) : Option (Nat × Nat × Nat) := do
  let control := (← s.byte? pos).toNat
  let (kind, pos) ← if control / 32 = 0 then do
      let extended := (← s.byte? (pos + 1)).toNat
      pure (extended + 7, pos + 2)
    else pure (control / 32, pos + 1)
  match control % 32 with
  | 29 => return (kind, 29 + (← s.number? pos 1), pos + 1)
  | 30 => return (kind, 285 + (← s.number? pos 2), pos + 2)
  | 31 => return (kind, 65821 + (← s.number? pos 3), pos + 3)
  | size => return (kind, size, pos)

/-- The target of a pointer: its size tells how many bytes the number takes and holds its first
bits, and shorter numbers count on from where the still shorter ones end. -/
def Section.pointer? (s : Section) (size pos : Nat) : Option (Nat × Nat) := do
  let width := size / 8 % 4 + 1
  let rest ← s.number? pos width
  let lead := if width = 4 then 0 else size % 8
  let offset := match width with
    | 2 => 2048
    | 3 => 526336
    | _ => 0
  return (lead <<< (8 * width) + rest + offset, pos + width)

/-- A number of 32 bits as a signed one. -/
def signed32 (n : Nat) : Int := if n < 0x80000000 then n else (n : Int) - 0x100000000

/-- The value at a position up to its parts, and the position after it or before its first part. -/
def Section.head? (s : Section) (pos : Nat) : Option (Head × Nat) := do
  let (kind, size, pos) ← s.control? pos
  let upTo (limit : Nat) : Option Nat := if size ≤ limit then s.number? pos size else none
  let exactly (width : Nat) : Option Nat := if size = width then s.number? pos size else none
  match kind with
  | 1 => return (.pointer (← s.pointer? size pos).1, (← s.pointer? size pos).2)
  | 2 => return (.text (← String.fromUTF8? (← s.take? pos size)), pos + size)
  | 3 => return (.real (← exactly 8), pos + size)
  | 4 => return (.bytes (← s.take? pos size), pos + size)
  | 5 => return (.unsigned (← upTo 2), pos + size)
  | 6 => return (.unsigned (← upTo 4), pos + size)
  | 7 => return (.map size, pos)
  | 8 => return (.signed (signed32 (← upTo 4)), pos + size)
  | 9 => return (.unsigned (← upTo 8), pos + size)
  | 10 => return (.wide (← upTo 16), pos + size)
  | 11 => return (.array size, pos)
  | 14 => if size ≤ 1 then return (.boolean (size = 1), pos) else none
  | 15 => return (.real (← exactly 4), pos + size)
  | _ => none

/-! ## Readers -/

/-- A reader of one kind of value. -/
abbrev Reader (α : Type) := Nat → Option (α × Nat)

/-- Read the value at a position through any pointers; `read` gets the value up to its parts and
the position before them. -/
def Section.follow {α : Type} (s : Section) (read : Head → Reader α) : (allowance : Nat) → Reader α
  | 0, _ => none
  | allowance + 1, pos =>
    match s.head? pos with
    | none => none
    | some (.pointer target, after) =>
      (s.follow read allowance target).map fun (value, _) => (value, after)
    | some (head, after) => read head after

/-- Read the value at a position through any pointers. -/
def Section.value {α : Type} (s : Section) (read : Head → Reader α) : Reader α :=
  s.follow read s.allowance

/-- Read `count` times in a row, carrying a result along. -/
def repeated {α : Type} (read : α → Reader α) : (count : Nat) → α → Reader α
  | 0, acc, pos => some (acc, pos)
  | count + 1, acc, pos =>
    match read acc pos with
    | none => none
    | some (acc, pos) => repeated read count acc pos

/-- Read over any value. -/
def Section.skipWithin (s : Section) : (allowance : Nat) → Reader Unit
  | 0, _ => none
  | allowance + 1, pos =>
    match s.head? pos with
    | none => none
    | some (.pointer target, after) =>
      (s.skipWithin allowance target).map fun _ => ((), after)
    | some (.map count, after) => repeated (fun _ => s.skipWithin allowance) (2 * count) () after
    | some (.array count, after) => repeated (fun _ => s.skipWithin allowance) count () after
    | some (_, after) => some ((), after)

/-- Read over any value. -/
def Section.skip (s : Section) : Reader Unit := s.skipWithin s.allowance

/-- Read a text; bytes that are UTF-8 are a text too. -/
def Section.text (s : Section) : Reader String :=
  s.value fun
    | .text value, pos => some (value, pos)
    | .bytes value, pos => (String.fromUTF8? value).map fun text => (text, pos)
    | _, _ => none

/-- Read a number from zero up to a limit; a number of the widest kind is refused. -/
def Section.natural (s : Section) (limit : Nat) : Reader Nat :=
  s.value fun
    | .unsigned value, pos => if value ≤ limit then some (value, pos) else none
    | .signed value, pos =>
      if 0 ≤ value ∧ value ≤ limit then some (value.toNat, pos) else none
    | _, _ => none

/-- Read an array, each element by one reader. -/
def Section.list {α : Type} (s : Section) (element : Reader α) : Reader (List α) :=
  s.value fun
    | .array count, pos =>
      (repeated (fun acc pos => (element pos).map fun (a, pos) => (a :: acc, pos)) count [] pos).map
        fun (acc, pos) => (acc.reverse, pos)
    | _, _ => none

/-- Read a map from texts to texts, in order. -/
def Section.textMap (s : Section) : Reader (List (String × String)) :=
  s.value fun
    | .map count, pos =>
      (repeated (fun acc pos => do
          let (key, pos) ← s.text pos
          let (value, pos) ← s.text pos
          return ((key, value) :: acc, pos)) count [] pos).map
        fun (acc, pos) => (acc.reverse, pos)
    | _, _ => none

/-- Read the key of a field: its number among the field names, or nothing for an unknown field. A
key is a text, bytes, or the number itself. -/
def Section.fieldKey (s : Section) (names : List String) : Reader (Option Nat) :=
  s.value fun
    | .text value, pos => some (names.findIdx? (· == value), pos)
    | .bytes value, pos => some (names.findIdx? (·.toUTF8 == value), pos)
    | .unsigned value, pos => some (if value < names.length then some value else none, pos)
    | _, _ => none

/-- Read a structure: a map in which unknown fields are read over, or an array that holds all
fields in order, of which nothing is read after the last field. `field` reads the field of a
number into the result; it refuses a field that was read before. -/
def Section.fields {ρ : Type} (s : Section) (names : List String) (field : Nat → ρ → Reader ρ)
    (start : ρ) : Reader ρ :=
  s.value fun
    | .map count, pos =>
      repeated (fun acc pos =>
        match s.fieldKey names pos with
        | none => none
        | some (some number, pos) => field number acc pos
        | some (none, pos) => (s.skip pos).map fun (_, pos) => (acc, pos)) count start pos
    | .array count, pos =>
      if count < names.length then none
      else (List.range names.length).foldlM (fun (acc, pos) number => field number acc pos)
        (start, pos)
    | _, _ => none

/-- Read a value into a place that has to be empty. -/
def fill {α ρ : Type} (old : Option α) (read : Reader α) (set : α → ρ) : Reader ρ := fun pos =>
  if old.isSome then none else (read pos).map fun (value, pos) => (set value, pos)

end Gazetteer.Mmdb
