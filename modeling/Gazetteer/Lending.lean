/-
Gazetteer.Lending — the connections of one pool, lent out under names.

One borrower at a time takes connections and gives them back, so a request that
finds every place taken can only be served if a connection comes back while it
waits. `takeWaiting` is such a request: another connection, no longer on loan, is
given back a set time after it began, and only when that is done is the new one
put on loan.
-/
import Gazetteer.World

namespace Gazetteer

/-- A pool and the connections that it has lent out. -/
structure Lending where
  world : World
  pool : Pool
  /-- The connections on loan, by name. -/
  loans : List (String × Pool.Slot)

namespace Lending

/-- A pool that has lent out nothing, in an empty working folder. -/
def start (path : String) (limits : Pool.Limits) : Lending := ⟨.start, .new path limits, []⟩

/-- The lending with a step on its pool and world taken. -/
def after (s : Lending) (change : Pool × World) : Lending :=
  { s with pool := change.1, world := change.2 }

/-- The connection under a name. -/
def loan? (s : Lending) (name : String) : Option Pool.Slot := s.loans.lookup name

def withoutLoan (s : Lending) (name : String) : Lending :=
  { s with loans := s.loans.filter fun loan => loan.1 != name }

/-- Give back a connection that is on loan no more. -/
def release (s : Lending) (slot : Pool.Slot) : Lending := s.after (s.world.release s.pool slot)

def giveBack (s : Lending) (name : String) : Lending :=
  match s.loan? name with
  | none => s
  | some slot => (s.withoutLoan name).release slot

/-- Close a connection instead of giving it back. -/
def discard (s : Lending) (name : String) : Lending :=
  match s.loan? name with
  | none => s
  | some slot => (s.withoutLoan name).after (s.world.discard s.pool slot)

/-- Put a connection on loan; one of the same name goes back. -/
def lend (s : Lending) (name : String) (slot : Pool.Slot) : Lending :=
  let s := s.giveBack name
  { s with loans := (name, slot) :: s.loans }

/-- Let time go by. -/
def sleep (s : Lending) (span : Time) : Lending := { s with world := s.world.wait span }

/-- Take a connection that is not on loan yet. -/
def acquire (s : Lending) : Except PoolError Pool.Slot × Lending :=
  let (result, change) := s.world.acquire s.pool
  (result, s.after change)

/-- Put a connection that was taken on loan: its serial number, or why there is none. -/
def settle (name : String) :
    Except PoolError Pool.Slot × Lending → Except PoolError Nat × Lending
  | (.error cause, s) => (.error cause, s)
  | (.ok slot, s) => (.ok slot.connection.serial, s.lend name slot)

/-- Take a connection: its serial number, or why there is none. -/
def take (s : Lending) (name : String) : Except PoolError Nat × Lending := settle name s.acquire

/-- After how long the other connection comes back. -/
def returnDelay : Time := .ofMilliseconds 20

/-- Take a connection while another one is given back a little later. -/
def takeWaiting (s : Lending) (name other : String) : Except PoolError Nat × Lending :=
  let returning := s.loan? other
  let s := s.withoutLoan other
  let giveBack := fun (s : Lending) => returning.elim s s.release
  match s.pool.turn s.world.tick.now with
  | (.mustWait, _) =>
    if returning.isSome && returnDelay ≤ s.pool.limits.acquireTimeout then
      (giveBack (s.sleep returnDelay)).take name
    else
      let (result, s) := s.acquire
      settle name (result, giveBack (s.sleep (returnDelay - s.pool.limits.acquireTimeout)))
  | _ =>
    let (result, s) := s.acquire
    settle name (result, giveBack (s.sleep returnDelay))

/-- Change the open transaction of a connection. -/
def editDraft (s : Lending) (name : String)
    (change : Option Database.Draft → Option Database.Draft) : Lending :=
  { s with loans := s.loans.map fun (key, slot) =>
      if key == name then
        (key, { slot with connection.draft := change slot.connection.draft })
      else (key, slot) }

/-- Begin a transaction on a connection, unless it is inside one. -/
def begin (s : Lending) (name : String) : Lending :=
  s.editDraft name fun draft => draft.or (some (.begin false))

/-- End the transaction of a connection; it has written nothing. -/
def commit (s : Lending) (name : String) : Lending := s.editDraft name fun _ => none

/-- Take the notices given so far. -/
def takeNotices (s : Lending) : List Notice × Lending :=
  (s.world.notices, { s with world := { s.world with notices := [] } })

end Lending

end Gazetteer
