/-
Gazetteer.Pool.Crowd — many borrowers of one pool.

A borrower comes for a connection, takes turns in the pool's lock until it is
served or gives up, and in the end gives the connection back or closes it. In
between the others do the same, in any order, and time goes by. What happens in
the lock is one step; so is whatever happens to a borrower outside of it: a
connection is opened or cannot be, a transaction begins or ends. Connections
that are closed are never in anybody's hands again; they are kept aside here so
that it can be said where every connection is.
-/
import Gazetteer.Pool

namespace Gazetteer.Pool

/-- Where a borrower stands. -/
inductive Borrower where
  /-- It has not been in the lock yet. -/
  | arriving (deadline : Time)
  /-- Every place was taken; it waits for a better turn until the deadline. -/
  | waiting (deadline : Time)
  /-- A place is reserved for the connection that it opens. -/
  | opening
  | holding (slot : Slot)
  /-- It was not served, or its connection is out of its hands again. -/
  | gone
  deriving DecidableEq, Repr

/-- What a borrower does next, or what happens to it. -/
inductive Move where
  /-- It takes a turn in the lock. -/
  | request
  /-- It stops waiting. -/
  | giveUp
  | opened (handle : Handle)
  | failed
  /-- From now on the connection is inside that transaction, or outside any. -/
  | work (draft : Option Database.Draft)
  | release
  | discard
  deriving Repr

/-- What a turn in the lock makes of a borrower. -/
def Borrower.ofTurn (deadline : Time) : Turn → Borrower
  | .reuse slot => holding slot
  | .mayOpen => opening
  | .mustWait => waiting deadline

/-- A turn of a borrower in the lock. -/
def Borrower.request (pool : Pool) (now deadline : Time) : Borrower × Pool × List Slot :=
  let (turn, served) := pool.turn now
  (ofTurn deadline turn, served, pool.stale now)

/-- The move of a borrower, with the connections that are closed in it. What a borrower cannot do
where it stands does nothing. -/
def Borrower.step (pool : Pool) (now : Time) : Borrower → Move → Borrower × Pool × List Slot
  | arriving deadline, .request => request pool now deadline
  | waiting deadline, .request => request pool now deadline
  | waiting deadline, .giveUp => (if deadline ≤ now then gone else waiting deadline, pool, [])
  | opening, .opened handle => let (slot, pool) := pool.opened handle now; (holding slot, pool, [])
  | opening, .failed => (gone, pool.openingFailed, [])
  | holding slot, .work draft => (holding { slot with connection.draft := draft }, pool, [])
  | holding slot, .release =>
    (gone, (pool.release slot now).2, if pool.keeps slot now then [] else [slot])
  | holding slot, .discard => (gone, pool.forget, [slot])
  | borrower, _ => (borrower, pool, [])

/-- A pool and all who borrow from it. -/
structure Crowd where
  pool : Pool
  now : Time
  borrowers : List Borrower
  /-- The connections that have been closed. -/
  closed : List Slot
  deriving DecidableEq

/-- What can happen next. -/
inductive Event where
  /-- Somebody comes for a connection. -/
  | come
  /-- The borrower of a number makes a move. -/
  | move (number : Nat) (move : Move)
  | wait (span : Time)
  deriving Repr

namespace Crowd

/-- A pool that has opened nothing, and nobody there. -/
def start (path : String) (limits : Limits) : Crowd := ⟨.new path limits, 0, [], []⟩

/-- The crowd after an event. -/
def next (c : Crowd) : Event → Crowd
  | .come =>
    { c with borrowers := c.borrowers ++ [.arriving (c.now + c.pool.limits.acquireTimeout)] }
  | .move number move =>
    match c.borrowers[number]? with
    | none => c
    | some borrower =>
      let (borrower, pool, closed) := borrower.step c.pool c.now move
      { c with pool, borrowers := c.borrowers.set number borrower, closed := c.closed ++ closed }
  | .wait span => { c with now := c.now + span }

/-- The crowd after some events. -/
def run (c : Crowd) (events : List Event) : Crowd := events.foldl next c

end Crowd

end Gazetteer.Pool
