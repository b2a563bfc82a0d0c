/-
Gazetteer.Json.Reader — JSON values from text.

`read` takes one value with white space around it. Arrays and objects may be
nested less than 128 deep, and of several fields of one name the last counts.
`skipValue` reads over one value, nested to any depth. The functions that call
each other carry an allowance of calls; a call that reads anything takes a
character, so twice the length of the text and two more are never used up.
-/
import Gazetteer.Json.Scan

namespace Gazetteer.Json

/-- One less than arrays and objects may be nested. -/
def maxDepth : Nat := 127

/-- Enough calls for a text. -/
def allowance (cs : List Char) : Nat := 2 * cs.length + 2

mutual

/-- A value; `depth` arrays and objects may still open. -/
def value (depth : Nat) : (allowance : Nat) → List Char → Scanned Value
  | 0, _ => .error .truncated
  | allowance + 1, cs =>
    match skipSpace cs with
    | [] => .error .truncated
    | c :: rest =>
      if c = '"' then (text rest).map fun (s, rest) => (.text s, rest)
      else if c = 'n' then (word ['u', 'l', 'l'] rest).map fun rest => (.null, rest)
      else if c = 't' then (word ['r', 'u', 'e'] rest).map fun rest => (.boolean true, rest)
      else if c = 'f' then (word ['a', 'l', 's', 'e'] rest).map fun rest => (.boolean false, rest)
      else if opensNumber c then (number (c :: rest)).map fun (n, rest) => (.number n, rest)
      else if c = '[' then
        match depth with
        | 0 => .error .malformed
        | depth + 1 => (elements depth allowance rest).map fun (vs, rest) => (.array vs, rest)
      else if c = '\x7b' then
        match depth with
        | 0 => .error .malformed
        | depth + 1 => (members depth allowance [] rest).map fun (fs, rest) => (.object fs, rest)
      else .error .malformed

/-- The elements of an array, after its bracket. -/
def elements (depth : Nat) : (allowance : Nat) → List Char → Scanned (List Value)
  | 0, _ => .error .truncated
  | allowance + 1, cs =>
    match skipSpace cs with
    | [] => .error .truncated
    | c :: rest =>
      if c = ']' then .ok ([], rest)
      else match value depth allowance (c :: rest) with
        | .error fault => .error fault
        | .ok (v, rest) =>
          (moreElements depth allowance rest).map fun (vs, rest) => (v :: vs, rest)

/-- The elements of an array, after one of them. -/
def moreElements (depth : Nat) : (allowance : Nat) → List Char → Scanned (List Value)
  | 0, _ => .error .truncated
  | allowance + 1, cs =>
    match skipSpace cs with
    | [] => .error .truncated
    | c :: rest =>
      if c = ']' then .ok ([], rest)
      else if c = ',' then
        match value depth allowance rest with
        | .error fault => .error fault
        | .ok (v, rest) =>
          (moreElements depth allowance rest).map fun (vs, rest) => (v :: vs, rest)
      else .error .malformed

/-- The fields of an object, after its brace. -/
def members (depth : Nat) : (allowance : Nat) → Fields → List Char → Scanned Fields
  | 0, _, _ => .error .truncated
  | allowance + 1, fields, cs =>
    match skipSpace cs with
    | [] => .error .truncated
    | c :: rest =>
      if c = '\x7d' then .ok (fields, rest)
      else if c = '"' then member depth allowance fields rest
      else .error .malformed

/-- A field after the quote of its name, and the fields after it. -/
def member (depth : Nat) : (allowance : Nat) → Fields → List Char → Scanned Fields
  | 0, _, _ => .error .truncated
  | allowance + 1, fields, cs =>
    match text cs with
    | .error fault => .error fault
    | .ok (name, cs) =>
      match skipSpace cs with
      | [] => .error .truncated
      | c :: rest =>
        if c = ':' then
          match value depth allowance rest with
          | .error fault => .error fault
          | .ok (v, rest) => moreMembers depth allowance (setField name v fields) rest
        else .error .malformed

/-- The fields of an object, after one of them. -/
def moreMembers (depth : Nat) : (allowance : Nat) → Fields → List Char → Scanned Fields
  | 0, _, _ => .error .truncated
  | allowance + 1, fields, cs =>
    match skipSpace cs with
    | [] => .error .truncated
    | c :: rest =>
      if c = '\x7d' then .ok (fields, rest)
      else if c = ',' then
        match skipSpace rest with
        | [] => .error .truncated
        | c :: rest =>
          if c = '"' then member depth allowance fields rest else .error .malformed
      else .error .malformed

end

/-- What a scanner read, if nothing but white space follows it. -/
def whole {α : Type} (scanned : Scanned α) : Except Fault α :=
  match scanned with
  | .error fault => .error fault
  | .ok (result, rest) => if (skipSpace rest).isEmpty then .ok result else .error .malformed

/-- The value that a text holds. -/
def read (s : String) : Except Fault Value :=
  let cs := s.toList
  whole (value maxDepth (allowance cs) cs)

/-! ## Reading over -/

mutual

/-- The text after a value. -/
def skipValue : (allowance : Nat) → List Char → Except Fault (List Char)
  | 0, _ => .error .truncated
  | allowance + 1, cs =>
    match skipSpace cs with
    | [] => .error .truncated
    | c :: rest =>
      if c = '"' then skipQuoted false 0 rest
      else if c = 'n' then word ['u', 'l', 'l'] rest
      else if c = 't' then word ['r', 'u', 'e'] rest
      else if c = 'f' then word ['a', 'l', 's', 'e'] rest
      else if opensNumber c then skipNumber (c :: rest)
      else if c = '[' then skipElements allowance false rest
      else if c = '\x7b' then skipMembers allowance false rest
      else .error .malformed

/-- The text after an array, from inside it; `isNext` tells that an element stands before. -/
def skipElements : (allowance : Nat) → (isNext : Bool) → List Char → Except Fault (List Char)
  | 0, _, _ => .error .truncated
  | allowance + 1, isNext, cs =>
    match skipSpace cs with
    | [] => .error .truncated
    | c :: rest =>
      if c = ']' then .ok rest
      else if isNext && c != ',' then .error .malformed
      else match skipValue allowance (if isNext then rest else c :: rest) with
        | .error fault => .error fault
        | .ok rest => skipElements allowance true rest

/-- The text after an object, from inside it; `isNext` tells that a field stands before. -/
def skipMembers : (allowance : Nat) → (isNext : Bool) → List Char → Except Fault (List Char)
  | 0, _, _ => .error .truncated
  | allowance + 1, isNext, cs =>
    match skipSpace cs with
    | [] => .error .truncated
    | c :: rest =>
      if c = '\x7d' then .ok rest
      else if isNext && c != ',' then .error .malformed
      else match skipSpace (if isNext then rest else c :: rest) with
        | [] => .error .truncated
        | c :: rest =>
          if c != '"' then .error .malformed
          else match skipQuoted false 0 rest with
            | .error fault => .error fault
            | .ok rest =>
              match skipSpace rest with
              | [] => .error .truncated
              | c :: rest =>
                if c != ':' then .error .malformed
                else match skipValue allowance rest with
                  | .error fault => .error fault
                  | .ok rest => skipMembers allowance true rest

end

end Gazetteer.Json
