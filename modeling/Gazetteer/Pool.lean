/-
Gazetteer.Pool — a bounded pool of open database connections.

The pool counts every connection that is open or being opened and keeps the
idle ones in a queue, the one that has been idle longest in front. Each
function here is one turn inside the pool's lock:

* `turn` serves one request: idle connections at the front that are past a
  limit are closed, the first good one is handed out; with none left a new one
  may be opened while the count is below the bound; otherwise the caller waits;
* `openingFailed` gives back the place of a connection that could not be opened;
* `release` takes a connection back, or closes it if it is inside a transaction
  or past its lifetime;
* `forget` gives back the place of a connection that its holder closed.

Time is counted in nanoseconds and passes between any two turns, so a limit of
zero is always past.
-/
import Gazetteer.Disk
import Gazetteer.Notice

namespace Gazetteer

/-- A moment or a span of time, in nanoseconds. -/
abbrev Time := Nat

/-- A number of milliseconds. -/
def Time.ofMilliseconds (count : Nat) : Time := count * 1000000

/-- An open connection to a database. -/
structure Connection where
  /-- Its number among the connections that its pool has opened, from one. -/
  serial : Nat
  handle : Handle
  /-- The rows of its open transaction, if it is inside one. -/
  draft : Option Database.Draft
  deriving DecidableEq, Repr

def Connection.isInTransaction (c : Connection) : Bool := c.draft.isSome

namespace Pool

structure Limits where
  maxConnections : Nat
  idleTimeout : Time
  maxLifetime : Time
  /-- How long a caller waits for a connection. -/
  acquireTimeout : Time
  /-- How long a statement waits for another program's lock. -/
  busyTimeout : Time
  deriving DecidableEq, Repr

/-- Eight connections, idle for five minutes, open for an hour, waited for five seconds. -/
def Limits.standard : Limits where
  maxConnections := 8
  idleTimeout := .ofMilliseconds 300000
  maxLifetime := .ofMilliseconds 3600000
  acquireTimeout := .ofMilliseconds 5000
  busyTimeout := .ofMilliseconds 5000

/-- A connection with its age. -/
structure Slot where
  connection : Connection
  created : Time
  lastUsed : Time
  deriving DecidableEq, Repr

/-- The connection has been open for longer than its lifetime. -/
def Slot.isExpired (slot : Slot) (limits : Limits) (now : Time) : Bool :=
  limits.maxLifetime < now - slot.created

/-- The connection has been idle for too long. -/
def Slot.isIdleExpired (slot : Slot) (limits : Limits) (now : Time) : Bool :=
  limits.idleTimeout < now - slot.lastUsed

/-- The connection is past one of the limits. -/
def Slot.isStale (slot : Slot) (limits : Limits) (now : Time) : Bool :=
  slot.isExpired limits now || slot.isIdleExpired limits now

end Pool

/-- A pool of connections to one database. -/
structure Pool where
  /-- The name of the database file. -/
  path : String
  limits : Pool.Limits
  /-- The idle connections, the one idle for longest first. -/
  idle : List Pool.Slot
  /-- How many connections are idle, held or being opened. -/
  openCount : Nat
  /-- How many connections have been opened so far. -/
  issued : Nat
  deriving DecidableEq, Repr

namespace Pool

/-- A pool that has opened nothing. -/
def new (path : String) (limits : Limits) : Pool := ⟨path, limits, [], 0, 0⟩

/-- What a request meets in the pool's lock. -/
inductive Turn where
  /-- An idle connection is handed out. -/
  | reuse (slot : Slot)
  /-- A place is reserved for a connection that the caller opens. -/
  | mayOpen
  /-- Every place is taken. -/
  | mustWait
  deriving DecidableEq, Repr

/-- One request inside the pool's lock. -/
def turn (pool : Pool) (now : Time) : Turn × Pool :=
  let good := pool.idle.dropWhile (·.isStale pool.limits now)
  let openCount := pool.openCount - (pool.idle.length - good.length)
  match good with
  | slot :: rest => (.reuse { slot with lastUsed := now }, { pool with idle := rest, openCount })
  | [] =>
    if openCount < pool.limits.maxConnections then
      (.mayOpen, { pool with idle := [], openCount := openCount + 1 })
    else (.mustWait, { pool with idle := [], openCount })

/-- A reserved place is filled with a new connection to an open database. -/
def opened (pool : Pool) (handle : Handle) (now : Time) : Slot × Pool :=
  let serial := pool.issued + 1
  ({ connection := ⟨serial, handle, none⟩, created := now, lastUsed := now },
    { pool with issued := serial })

/-- A reserved place is given back. -/
def openingFailed (pool : Pool) : Pool := { pool with openCount := pool.openCount - 1 }

/-- The idle connections that the next request closes. -/
def stale (pool : Pool) (now : Time) : List Slot :=
  pool.idle.takeWhile (·.isStale pool.limits now)

/-- The place of a connection that its holder closed is given back. -/
def forget (pool : Pool) : Pool := { pool with openCount := pool.openCount - 1 }

/-- A connection that is given back stays open: it is outside any transaction and within its
lifetime. -/
def keeps (pool : Pool) (slot : Slot) (now : Time) : Bool :=
  !slot.connection.isInTransaction && !slot.isExpired pool.limits now

/-- A connection is given back; if it does not stay open it is closed. -/
def release (pool : Pool) (slot : Slot) (now : Time) : List Notice × Pool :=
  if pool.keeps slot now then
    ([], { pool with idle := pool.idle ++ [{ slot with lastUsed := now }] })
  else (if slot.connection.isInTransaction then [.leakedTransaction] else [], pool.forget)

/-- How many connections are open, idle or held. -/
structure Stats where
  openCount : Nat
  idle : Nat
  deriving DecidableEq, Repr

/-- How many connections are held. -/
def Stats.inUse (stats : Stats) : Nat := stats.openCount - stats.idle

/-- The counts of a pool. -/
def stats (pool : Pool) : Stats := ⟨pool.openCount, pool.idle.length⟩

end Pool

end Gazetteer
