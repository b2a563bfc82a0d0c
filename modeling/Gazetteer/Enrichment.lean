/-
Gazetteer.Enrichment — one line of input, answered.

A line is trimmed first. A blank line has no answer. A line that opens with a
brace is an event: if it is no JSON it has no answer, otherwise the answer is
the event itself, and if its address field holds a text, its country and city
are those of that text, trimmed. Every other line is an address, and the answer
is its location. A text that is neither an address nor a block is unknown
without being asked for.
-/
import Gazetteer.Address.Kind
import Gazetteer.Json.Location
import Gazetteer.Text.Blank

namespace Gazetteer.Enrichment

variable {σ : Type}

/-- The location of an address text; `ask` looks it up. -/
def locate (ask : String → σ → Location × σ) (address : String) (state : σ) : Location × σ :=
  match Address.kind address with
  | .invalid => (.unknown address, state)
  | .v4 | .v6 | .block => ask address state

/-- The trimmed text of a field of an event. -/
def addressIn? (addressField : String) (event : Json.Value) : Option String :=
  match event with
  | .object fields => match Json.field? addressField fields with
    | some (.text s) => some (Text.trim s)
    | _ => none
  | _ => none

/-- An event with the country and the city of a location. -/
def place (location : Location) (event : Json.Value) : Json.Value :=
  match event with
  | .object fields =>
    .object (Json.setField "city" (.text location.region)
      (Json.setField "country" (.text location.country) fields))
  | other => other

/-- An event with the country and the city of its address. -/
def enrich (addressField : String) (ask : String → σ → Location × σ) (event : Json.Value)
    (state : σ) : Json.Value × σ :=
  match addressIn? addressField event with
  | none => (event, state)
  | some address =>
    let (location, state) := locate ask address state
    (place location event, state)

/-- The answer to a line, if it has one. -/
def answer (addressField : String) (ask : String → σ → Location × σ) (line : String)
    (state : σ) : Option (List Char) × σ :=
  let cs := Text.trimChars line.toList
  match cs with
  | [] => (none, state)
  | '\x7b' :: _ =>
    match Json.read (String.ofList cs) with
    | .error _ => (none, state)
    | .ok event =>
      let (event, state) := enrich addressField ask event state
      (some event.write, state)
  | _ =>
    let (location, state) := locate ask (String.ofList cs) state
    (some (Json.writeLocation location), state)

end Gazetteer.Enrichment
