/-
Gazetteer.Store.Crowd — many resolutions at once on one database.

Each caller asks a store that persists for an address text, waits for a
connection, and then goes on one statement at a time, while the others do the
same in any order. They have in common the database with the right to write to
it, the numbers that each store remembers, and the faults to come. A transaction
belongs to the connection of one caller. What a connection can do, as the locks
of others have it, may be different at every statement.
-/
import Gazetteer.Store.Relational

namespace Gazetteer.Store

open Gazetteer.Database

/-- The next statement of a script fails. -/
def Script.fails {α : Type} (desk : Desk) : Script α → Bool
  | done _ | tell _ _ | encode _ _ => false
  | ask query _ => !(desk.ask query).1.isOk
  | hasTable table _ => !(desk.hasTable table).1.isOk
  | execute command _ => (desk.execute command).1 == .failed

/-- A resolution on its way. -/
structure Caller where
  /-- The number of the store that is asked. -/
  store : Nat
  address : String
  /-- What is left of the lookup, once there is a connection. -/
  lookup : Option (Script (Except StoreError (Option Resolved)))
  /-- The open transaction of the connection. -/
  draft : Option Draft
  /-- What the connection has done so far. -/
  contact : Contact

/-- What the caller is answered, once the lookup is over. -/
def Caller.answer? (caller : Caller) : Option (Option Resolved) :=
  match caller.lookup with
  | some (.done found) => some found.toOption.join
  | _ => none

/-- All callers, and what they have in common. -/
structure Crowd where
  sheet : Sheet
  /-- The numbers that each store remembers. -/
  encodings : Nat → RecencyCache String Address.V4
  /-- Whether each coming statement meets a fault; after the last of them none does. -/
  faults : List Bool
  notices : List Notice
  callers : List Caller

/-- What can happen next. -/
inductive Event where
  /-- A store is asked for an address text. -/
  | call (store : Nat) (address : String)
  /-- A caller gets a connection. -/
  | connect (caller : Nat)
  /-- A caller gets no connection. -/
  | refuse (caller : Nat) (cause : PoolError)
  /-- The connection of a caller carries out a statement, with what it can do at that time. -/
  | speak (caller : Nat) (access : Access)

namespace Crowd

/-- What the lookup of a caller sees. -/
def desk (c : Crowd) (caller : Caller) (access : Access) : Desk :=
  ⟨c.sheet, caller.draft, c.encodings caller.store, access, caller.contact, c.faults, c.notices⟩

/-- The crowd with another lookup for a caller who has none yet. -/
def begin (c : Crowd) (number : Nat)
    (lookup : String → Script (Except StoreError (Option Resolved))) : Crowd :=
  match c.callers[number]? with
  | some caller =>
    if caller.lookup.isSome then c
    else { c with
      callers := c.callers.set number { caller with lookup := some (lookup caller.address) } }
  | none => c

/-- The crowd with what the statement of a caller has left on its desk. -/
def left (c : Crowd) (number : Nat) (caller : Caller)
    (script : Script (Except StoreError (Option Resolved))) (desk : Desk) : Crowd where
  sheet := desk.sheet
  encodings store := if store = caller.store then desk.encodings else c.encodings store
  faults := desk.faults
  notices := desk.notices
  callers := c.callers.set number
    { caller with lookup := some script, draft := desk.draft, contact := desk.contact }

/-- The caller of a number and what is left of the lookup. -/
def speaker? (c : Crowd) (number : Nat) :
    Option (Caller × Script (Except StoreError (Option Resolved))) := do
  let caller ← c.callers[number]?
  let script ← caller.lookup
  return (caller, script)

/-- The crowd after something has happened. -/
def next (c : Crowd) : Event → Crowd
  | .call store address =>
    { c with callers := c.callers ++ [⟨store, address, none, none, .none⟩] }
  | .connect number => c.begin number (Script.lookup true)
  | .refuse number cause => c.begin number fun _ => .done (.error (.pool cause))
  | .speak number access =>
    match c.speaker? number with
    | none => c
    | some (caller, script) =>
      let (script, desk) := script.step (c.desk caller access)
      c.left number caller script desk

/-- The crowd after some things have happened, in order. -/
def run (c : Crowd) (events : List Event) : Crowd := events.foldl next c

/-- What happens is that a caller gets no connection or that a statement fails. -/
def fails (c : Crowd) : Event → Bool
  | .call _ _ | .connect _ => false
  | .refuse _ _ => true
  | .speak number access =>
    match c.speaker? number with
    | none => false
    | some (caller, script) => script.fails (c.desk caller access)

/-- Nothing fails on the way. -/
def goesWell (c : Crowd) : List Event → Bool
  | [] => true
  | event :: events => !c.fails event && (c.next event).goesWell events

/-- What the callers for an address text have been answered so far. -/
def answers (c : Crowd) (address : String) : List Resolved :=
  c.callers.filterMap fun caller =>
    if caller.address = address then caller.answer?.join else none

/-- The rows of saved answers. -/
def saved (c : Crowd) : List Saved :=
  (c.sheet.content.database?.bind (·.saved.rows?)).getD []

end Crowd

end Gazetteer.Store
