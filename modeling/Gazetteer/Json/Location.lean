/-
Gazetteer.Json.Location — locations as JSON text, both ways.

A location is written as an object of three texts in a fixed order. It is read
from an object that holds each of the three fields once, in any order, among
other fields that are read over, or from an array of just the three texts. The
shape is checked where it is met: a second field of one name before its value
is read, a missing field at the closing brace, and a value that is no text
after the value itself has been read.
-/
import Gazetteer.Json.Reader
import Gazetteer.Json.Writer
import Gazetteer.Location

namespace Gazetteer.Json

inductive LocationField where
  | country
  | region
  | address
  deriving DecidableEq, Repr

namespace LocationField

def name : LocationField → String
  | country => "country"
  | region => "region_or_city"
  | address => "ip"

def ofName? (s : String) : Option LocationField :=
  [country, region, address].find? fun field => field.name == s

end LocationField

def writeLocation (l : Location) : List Char :=
  '\x7b' :: (writeField (LocationField.country.name, .text l.country)
    ++ ',' :: (writeField (LocationField.region.name, .text l.region)
    ++ ',' :: (writeField (LocationField.address.name, .text l.address) ++ ['\x7d'])))

/-! ## Reading -/

/-- The fault of a value that is not of the shape asked for: any fault in its own text comes
first. -/
def otherShape (cs : List Char) : Fault :=
  match cs with
  | [] => .truncated
  | c :: rest =>
    if c = 'n' then after (word ['u', 'l', 'l'] rest)
    else if c = 't' then after (word ['r', 'u', 'e'] rest)
    else if c = 'f' then after (word ['a', 'l', 's', 'e'] rest)
    else if opensNumber c then
      match number cs with
      | .error fault => fault
      | .ok _ => .mismatched
    else if c = '"' then
      match text rest with
      | .error fault => fault
      | .ok _ => .mismatched
    else if c = '[' ∨ c = '\x7b' then .mismatched
    else .malformed
where
  /-- The fault of a word. -/
  after : Except Fault (List Char) → Fault
    | .error fault => fault
    | .ok _ => .mismatched

def textValue (cs : List Char) : Scanned String :=
  match skipSpace cs with
  | '"' :: rest => text rest
  | cs => .error (otherShape cs)

/-- The fields of a location read so far. -/
structure LocationParts where
  country : Option String
  region : Option String
  address : Option String

namespace LocationParts

/-- No field. -/
def none : LocationParts := ⟨.none, .none, .none⟩

/-- The text of a field. -/
def get (parts : LocationParts) : LocationField → Option String
  | .country => parts.country
  | .region => parts.region
  | .address => parts.address

def set (parts : LocationParts) (value : String) : LocationField → LocationParts
  | .country => { parts with country := some value }
  | .region => { parts with region := some value }
  | .address => { parts with address := some value }

/-- The location, if no field is missing. -/
def complete (parts : LocationParts) : Except Fault Location :=
  match parts.country, parts.region, parts.address with
  | some country, some region, some address => .ok ⟨country, region, address⟩
  | _, _, _ => .error .mismatched

end LocationParts

/-- The text after the colon of a field. -/
def afterColon (cs : List Char) : Except Fault (List Char) :=
  match skipSpace cs with
  | [] => .error .truncated
  | c :: rest => if c = ':' then .ok rest else .error .malformed

/-- A field after the quote of its name. -/
def locationMember (parts : LocationParts) (cs : List Char) :
    Except Fault (LocationParts × List Char) := do
  let (name, cs) ← text cs
  match LocationField.ofName? name with
  | some field =>
    if (parts.get field).isSome then .error .mismatched
    else
      let cs ← afterColon cs
      let (value, cs) ← textValue cs
      return (parts.set value field, cs)
  | none =>
    let cs ← afterColon cs
    let cs ← skipValue (allowance cs) cs
    return (parts, cs)

/-- The fields of a location from inside its braces; `isNext` tells that a field stands before. -/
def locationMembers : (allowance : Nat) → (isNext : Bool) → LocationParts → List Char →
    Scanned Location
  | 0, _, _, _ => .error .truncated
  | allowance + 1, isNext, parts, cs =>
    match skipSpace cs with
    | [] => .error .truncated
    | c :: rest =>
      if c = '\x7d' then parts.complete.map fun location => (location, rest)
      else if isNext && c != ',' then .error .malformed
      else match skipSpace (if isNext then rest else c :: rest) with
        | [] => .error .truncated
        | c :: rest =>
          if c != '"' then .error .malformed
          else match locationMember parts rest with
            | .error fault => .error fault
            | .ok (parts, rest) => locationMembers allowance true parts rest

/-- One of the three texts of an array from inside its brackets. -/
def locationElement (isNext : Bool) (cs : List Char) : Scanned String :=
  match skipSpace cs with
  | [] => .error .truncated
  | c :: rest =>
    if c = ']' then .error .mismatched
    else if !isNext then textValue (c :: rest)
    else if c != ',' then .error .malformed
    else match skipSpace rest with
      | [] => .error .truncated
      | c :: rest => if c = ']' then .error .malformed else textValue (c :: rest)

/-- The three texts of an array from inside its brackets, and its end. -/
def locationElements (cs : List Char) : Except Fault (Location × List Char) := do
  let (country, cs) ← locationElement false cs
  let (region, cs) ← locationElement true cs
  let (address, cs) ← locationElement true cs
  match skipSpace cs with
  | [] => .error .truncated
  | c :: rest => if c = ']' then return (⟨country, region, address⟩, rest) else .error .malformed

def location (cs : List Char) : Scanned Location :=
  match skipSpace cs with
  | '[' :: rest => locationElements rest
  | '\x7b' :: rest => locationMembers (allowance cs) false .none rest
  | cs => .error (otherShape cs)

/-- The location that a text holds. -/
def readLocation (s : String) : Except Fault Location := whole (location s.toList)

end Gazetteer.Json
