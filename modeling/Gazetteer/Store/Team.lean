/-
Gazetteer.Store.Team — many operations at once on one store.

Each caller comes with an operation, borrows a connection from the pool of the
store, and goes on one statement at a time, while the others do the same in any
order. What a statement finds may be different at every one: the database, what
keeps the connection from reading or writing, what goes wrong. Only its
transaction belongs to the connection. When the conversation is over the
connection goes back to the pool, or is closed if a location was not written back.
-/
import Gazetteer.Pool.Crowd
import Gazetteer.Store.Operation

namespace Gazetteer.Store

/-- What an operation comes to on a connection. -/
inductive Answer where
  | written
  | found (resolved : Option Resolved)

/-- The connection is closed after the operation. -/
def Answer.closes : Answer → Bool
  | written => false
  | found resolved => resolved.any (·.writeBack.isFailed)

/-- What an operation has to say to a connection, unless it does not even need one. -/
def Operation.script (persists : Bool) :
    Operation → Except StoreError (Script (Except StoreError Answer))
  | createTables => .ok do return (← Script.createTables).map fun _ => .written
  | putPlace place => .ok do return (← Script.all [.putPlace place]).map fun _ => .written
  | addBlock block place =>
    match Address.Range.ofBlock? block with
    | none => .error (.invalidBlock block)
    | some range => .ok do
      return (← Script.addBlock (Address.BlockRow.ofRange block place range)).map fun _ => .written
  | resolve address => .ok do return (← Script.lookup persists address).map .found

/-- A caller with its connection and what is left to be said to it. -/
structure Team.Caller where
  borrower : Pool.Borrower
  rest : Script (Except StoreError Answer)

/-- All callers of a store, and its pool. -/
structure Team where
  persists : Bool
  pool : Pool
  now : Time
  callers : List Team.Caller
  /-- The connections that have been closed. -/
  closed : List Pool.Slot
  /-- The notices of the pool. -/
  notices : List Notice

namespace Team

/-- What can happen next. -/
inductive Event where
  /-- A caller comes with an operation. -/
  | come (operation : Operation)
  /-- A caller that has no connection makes a move to get one. -/
  | seek (caller : Nat) (move : Pool.Move)
  /-- The connection of a caller carries out a statement on what it finds, apart from its own
  transaction; the connection may remember something of it. -/
  | speak (caller : Nat) (found : Desk) (handle : Handle)
  /-- A caller that has nothing left to say gives up its connection. -/
  | part (caller : Nat)
  | wait (span : Time)

/-- A store with its idle connections, and nobody there. -/
def atStore (s : Relational) (now : Time) (closed : List Pool.Slot) : Team :=
  ⟨s.persists, s.pool, now, [], closed, []⟩

/-- Why a move has not led to a connection. -/
def refusal : Pool.Move → PoolError
  | .failed => .cannotOpen
  | _ => .timeout

/-- A caller moves in the pool, and has something else left to say. -/
def move (t : Team) (number : Nat) (borrower : Pool.Borrower) (move : Pool.Move)
    (rest : Pool.Borrower → Script (Except StoreError Answer)) : Team :=
  let (borrower, pool, closed) := borrower.step t.pool t.now move
  { t with
    pool
    callers := t.callers.set number ⟨borrower, rest borrower⟩
    closed := t.closed ++ closed }

/-- What is left to say after a move: nothing by who has been turned away. -/
def remaining (rest : Script (Except StoreError Answer)) (move : Pool.Move) :
    Pool.Borrower → Script (Except StoreError Answer)
  | .gone => .done (.error (.pool (refusal move)))
  | .arriving _ | .waiting _ | .opening | .holding _ => rest

/-- A move of a caller that has no connection. -/
def seek (t : Team) (number : Nat) (caller : Caller) (move : Pool.Move) : Team :=
  match caller.borrower with
  | .holding _ | .gone => t
  | .arriving _ | .waiting _ | .opening =>
    t.move number caller.borrower move (remaining caller.rest move)

/-- A statement of a caller that has a connection. -/
def speak (t : Team) (number : Nat) (caller : Caller) (found : Desk) (handle : Handle) : Team :=
  match caller.borrower with
  | .holding slot =>
    let (rest, desk) := caller.rest.step { found with draft := slot.connection.draft }
    let connection := { slot.connection with handle, draft := desk.draft }
    { t with callers := t.callers.set number ⟨.holding { slot with connection }, rest⟩ }
  | .arriving _ | .waiting _ | .opening | .gone => t

/-- A caller gives up its connection at the end. -/
def part (t : Team) (number : Nat) (caller : Caller) : Team :=
  match caller.borrower, caller.rest with
  | .holding slot, .done result =>
    if result.toOption.any (·.closes) then
      t.move number caller.borrower .discard fun _ => caller.rest
    else
      { t.move number caller.borrower .release fun _ => caller.rest with
        notices := t.notices ++ (t.pool.release slot t.now).1 }
  | _, _ => t

/-- The team after an event. What a caller cannot do where it stands does nothing. -/
def next (t : Team) : Event → Team
  | .come operation =>
    let caller := match operation.script t.persists with
      | .ok script => ⟨.arriving (t.now + t.pool.limits.acquireTimeout), script⟩
      | .error cause => ⟨.gone, .done (.error cause)⟩
    { t with callers := t.callers ++ [caller] }
  | .seek number move => t.callers[number]?.elim t fun caller => t.seek number caller move
  | .speak number found handle =>
    t.callers[number]?.elim t fun caller => t.speak number caller found handle
  | .part number => t.callers[number]?.elim t fun caller => t.part number caller
  | .wait span => { t with now := t.now + span }

/-- The team after some events. -/
def run (t : Team) (events : List Event) : Team := events.foldl next t

end Team

end Gazetteer.Store
