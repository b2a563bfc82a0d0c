/-
Gazetteer.Enrichment.Plan — what a line needs before it can be answered.

Most lines need the location of one address and are answered with a text that is
made of it. The others are answered at once, or have no answer. To follow the plan
of a line is to answer it.
-/
import Gazetteer.Enrichment

namespace Gazetteer.Enrichment

variable {σ : Type}

/-- What is left to do for a line that has been looked at. -/
inductive Plan where
  /-- Nothing; this is the answer, if there is one. -/
  | done (text : Option (List Char))
  /-- Look an address up and make the answer of its location. -/
  | lookUp (address : String) (finish : Location → List Char)

/-- The plan for an address text: one that is none is not looked up. -/
def Plan.forAddress (finish : Location → List Char) (address : String) : Plan :=
  match Address.kind address with
  | .invalid => done (some (finish (.unknown address)))
  | .v4 | .v6 | .block => lookUp address finish

def Plan.forEvent (addressField : String) (event : Json.Value) : Plan :=
  match addressIn? addressField event with
  | none => done (some event.write)
  | some address => forAddress (fun location => (place location event).write) address

/-- The plan for a line. -/
def plan (addressField : String) (line : String) : Plan :=
  let cs := Text.trimChars line.toList
  match cs with
  | [] => .done none
  | '\x7b' :: _ =>
    match Json.read (String.ofList cs) with
    | .error _ => .done none
    | .ok event => .forEvent addressField event
  | _ => .forAddress Json.writeLocation (String.ofList cs)

namespace Plan

/-- Do what a plan says; `ask` looks an address up. -/
def follow (ask : String → σ → Location × σ) (state : σ) : Plan → Option (List Char) × σ
  | done text => (text, state)
  | lookUp address finish =>
    let (location, state) := ask address state
    (some (finish location), state)

/-- The answer, if every address has a location of its own. -/
def answer (truth : String → Location) : Plan → Option (List Char)
  | done text => text
  | lookUp address finish => some (finish (truth address))

variable {ask : String → σ → Location × σ} {state : σ}

theorem forAddress_follow (finish : Location → List Char) (address : String) :
    (forAddress finish address).follow ask state =
      (some (finish (locate ask address state).1), (locate ask address state).2) := by
  cases h : Address.kind address <;> simp [forAddress, follow, locate, h]

theorem forEvent_follow (addressField : String) (event : Json.Value) :
    (forEvent addressField event).follow ask state =
      (some (enrich addressField ask event state).1.write,
        (enrich addressField ask event state).2) := by
  cases h : addressIn? addressField event with
  | none => simp [forEvent, enrich, follow, h]
  | some address => simp [forEvent, enrich, forAddress_follow, h]

end Plan

/-- To answer a line is to follow its plan. -/
theorem follow_plan {ask : String → σ → Location × σ} {state : σ} (addressField line : String) :
    (plan addressField line).follow ask state = answer addressField ask line state := by
  unfold plan answer
  generalize Text.trimChars line.toList = cs
  rcases cs with _ | ⟨c, cs⟩
  · rfl
  rcases Decidable.em (c = '\x7b') with rfl | hc
  · cases h : Json.read (String.ofList ('\x7b' :: cs)) with
    | error fault => simp only [h, Plan.follow]
    | ok event => simp only [h, Plan.forEvent_follow]
  · simp [hc, Plan.forAddress_follow]

end Gazetteer.Enrichment
