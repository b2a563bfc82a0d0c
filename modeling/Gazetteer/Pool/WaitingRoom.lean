/-
Gazetteer.Pool.WaitingRoom — those who wait for a place of the pool, and how they are told.

Who finds every place taken goes to sleep. Who has given a place back leaves the
lock first and owes a notification, which is a step of its own: it wakes one of
those who sleep, if there is any, and nobody says which. Who has been woken has
still to get into the lock, and anybody may be there before. A sleep ends without
a notification when its deadline has come; who has been notified is never taken
for late.
-/
import Gazetteer.Pool.Crowd

namespace Gazetteer.Pool

/-- Where someone stands who wants a connection. -/
inductive Visitor where
  /-- It has not been in the lock yet. -/
  | arriving (deadline : Time)
  /-- Every place was taken; it sleeps, and nothing has woken it. -/
  | waiting (deadline : Time)
  /-- A notification has woken it; it has not been in the lock since. -/
  | notified (deadline : Time)
  /-- Its deadline has woken it. -/
  | late
  /-- A place is reserved for the connection that it opens. -/
  | opening
  | holding (slot : Slot)
  /-- It has given its place back and owes a notification. -/
  | owing
  /-- It was not served, or is done with its connection. -/
  | gone
  deriving DecidableEq, Repr

/-- What a visitor does next, or what happens to it. -/
inductive Act where
  /-- It takes a turn in the lock. -/
  | enter
  /-- Its deadline wakes it. -/
  | expire
  /-- It goes away late. -/
  | leave
  | opened (handle : Handle)
  | failed
  /-- From now on the connection is inside that transaction, or outside any. -/
  | work (draft : Option Database.Draft)
  | release
  | discard
  deriving Repr

namespace Visitor

/-- What a move in the pool makes of a visitor; who has nothing afterwards goes as `done` says. -/
def ofBorrower (done : Visitor) : Borrower → Visitor
  | .arriving deadline => arriving deadline
  | .waiting deadline => waiting deadline
  | .opening => opening
  | .holding slot => holding slot
  | .gone => done

/-- What a visitor is to the pool: being told is nothing that the pool knows of. -/
def borrower : Visitor → Borrower
  | arriving deadline => .arriving deadline
  | waiting deadline | notified deadline => .waiting deadline
  | opening => .opening
  | holding slot => .holding slot
  | late | owing | gone => .gone

/-- A move of a visitor in the pool. -/
def move (pool : Pool) (now : Time) (visitor : Visitor) (move : Move) (done : Visitor) :
    Visitor × Pool × List Slot :=
  let (borrower, pool, closed) := visitor.borrower.step pool now move
  (ofBorrower done borrower, pool, closed)

/-- The act of a visitor, with the connections that are closed in it. Whoever gives a place back owes
a notification. What a visitor cannot do where it stands does nothing. -/
def step (pool : Pool) (now : Time) (visitor : Visitor) (act : Act) :
    Visitor × Pool × List Slot :=
  match visitor, act with
  | arriving _, .enter | notified _, .enter => visitor.move pool now .request gone
  | waiting _, .expire => visitor.move pool now .giveUp late
  | late, .leave => (gone, pool, [])
  | opening, .opened handle => visitor.move pool now (.opened handle) gone
  | opening, .failed => visitor.move pool now .failed owing
  | holding _, .work draft => visitor.move pool now (.work draft) gone
  | holding _, .release => visitor.move pool now .release owing
  | holding _, .discard => visitor.move pool now .discard owing
  | visitor, _ => (visitor, pool, [])

def isWaiting : Visitor → Bool
  | waiting _ => true
  | arriving _ | notified _ | late | opening | holding _ | owing | gone => false

def isNotified : Visitor → Bool
  | notified _ => true
  | arriving _ | waiting _ | late | opening | holding _ | owing | gone => false

def isOwing : Visitor → Bool
  | owing => true
  | arriving _ | waiting _ | notified _ | late | opening | holding _ | gone => false

end Visitor

/-- A pool and all who want a connection of it. -/
structure WaitingRoom where
  pool : Pool
  now : Time
  visitors : List Visitor
  /-- The connections that have been closed. -/
  closed : List Slot

namespace WaitingRoom

/-- What can happen next. -/
inductive Event where
  /-- Somebody comes for a connection. -/
  | come
  /-- The visitor of a number acts. -/
  | act (number : Nat) (act : Act)
  /-- The visitor of a number gives the notification that it owes; if anybody sleeps it wakes one. -/
  | notify (number woken : Nat)
  | wait (span : Time)
  deriving Repr

/-- A pool that has opened nothing, and nobody there. -/
def start (path : String) (limits : Limits) : WaitingRoom := ⟨.new path limits, 0, [], []⟩

/-- How many sleep and have not been notified. -/
def waiting (r : WaitingRoom) : Nat := r.visitors.countP (·.isWaiting)

/-- How many have been notified and have not been in the lock since. -/
def notified (r : WaitingRoom) : Nat := r.visitors.countP (·.isNotified)

/-- How many notifications are owed. -/
def owed (r : WaitingRoom) : Nat := r.visitors.countP (·.isOwing)

/-- How many more connections could be handed out. -/
def free (r : WaitingRoom) : Nat :=
  r.pool.idle.length + (r.pool.limits.maxConnections - r.pool.openCount)

/-- A notification that a visitor owes is given. -/
def notify (r : WaitingRoom) (number woken : Nat) : WaitingRoom :=
  let visitors := r.visitors.set number .gone
  match r.visitors[woken]? with
  | some (.waiting deadline) => { r with visitors := visitors.set woken (.notified deadline) }
  | _ => if r.waiting = 0 then { r with visitors } else r

/-- The room after an event. What cannot happen changes nothing. -/
def next (r : WaitingRoom) : Event → WaitingRoom
  | .come =>
    { r with visitors := r.visitors ++ [.arriving (r.now + r.pool.limits.acquireTimeout)] }
  | .act number act =>
    match r.visitors[number]? with
    | none => r
    | some visitor =>
      let (visitor, pool, closed) := visitor.step r.pool r.now act
      { r with pool, visitors := r.visitors.set number visitor, closed := r.closed ++ closed }
  | .notify number woken =>
    match r.visitors[number]? with
    | some .owing => r.notify number woken
    | _ => r
  | .wait span => { r with now := r.now + span }

/-- The room after some events. -/
def run (r : WaitingRoom) (events : List Event) : WaitingRoom := events.foldl next r

end WaitingRoom

end Gazetteer.Pool
