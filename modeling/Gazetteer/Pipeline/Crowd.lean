/-
Gazetteer.Pipeline.Crowd — many callers of one pipeline, and the services it has given out.

A call waits until nobody else is in the pipeline's lock, looks there whether an
instance is running, builds one if that is wanted and none is, and leaves the lock
with its reply. In between the other callers do the same, the services that have
been given out go on answering requests one step at a time, and the world changes,
in any order. Whatever is done in the lock is written down.
-/
import Gazetteer.Service.Crowd
import Gazetteer.Session

namespace Gazetteer.Pipeline

/-- What a caller wants. -/
inductive Call where
  /-- To start with the store that the settings ask for. -/
  | start
  /-- To start in front of a store. -/
  | startInFront (store : Nat)
  | resolver
  | isRunning
  | stop
  deriving DecidableEq, Repr

/-- What a caller is told. -/
inductive Reply where
  | started (result : Except ConfigError Nat)
  | resolver (instance? : Option Nat)
  | flag (value : Bool)

/-- Where a caller stands. -/
inductive Place where
  /-- It waits for the lock. -/
  | coming
  /-- It is in the lock and has done nothing there yet. -/
  | looking
  /-- It has seen in the lock that no instance is running, and builds one next. -/
  | building
  /-- It is still in the lock, and knows its reply. -/
  | leaving (reply : Reply)
  | returned (reply : Reply)

structure Caller where
  call : Call
  place : Place

/-- A request to a service on its way. -/
structure Request where
  service : Nat
  caller : Service.Caller

/-- What has been done in the lock for one caller. -/
structure Entry where
  caller : Nat
  call : Call
  /-- What came of building an instance, if that was tried. -/
  attempt : Option (Except ConfigError Nat)
  reply : Reply

/-- A pipeline with its callers, and the stores and services around it. -/
structure Crowd where
  /-- The world, the stores and the services; an instance is the number of a service. -/
  session : Session
  pipeline : Pipeline Nat
  /-- The number of the caller in the lock. -/
  holder : Option Nat
  callers : List Caller
  requests : List Request
  /-- What has been done in the lock, in order. -/
  log : List Entry

/-- What can happen next. -/
inductive Event where
  /-- A caller comes. -/
  | come (call : Call)
  /-- A caller takes its next step. -/
  | turn (caller : Nat)
  /-- A service is asked for an address text. -/
  | ask (service : Nat) (address : String)
  /-- A request takes its next step. -/
  | work (request : Nat)
  /-- Something happens to the world. -/
  | outside (change : World → World)

namespace Crowd

/-- A pipeline that has not started, among some stores. -/
def start (world : World) (stores : List Store) (settings : Settings) : Crowd :=
  ⟨⟨world, ⟨stores, []⟩, .empty, .empty, []⟩, .create settings, none, [], [], []⟩

/-! ## In the lock -/

/-- Write down what has been done for a caller, and have it leave. -/
def settle (c : Crowd) (number : Nat) (call : Call) (attempt : Option (Except ConfigError Nat))
    (reply : Reply) : Crowd :=
  { c with
    callers := c.callers.set number ⟨call, .leaving reply⟩
    log := c.log ++ [⟨number, call, attempt, reply⟩] }

/-- Whoever wants to start takes the running instance, or goes on to build one. -/
def lookForInstance (c : Crowd) (number : Nat) (call : Call) : Crowd :=
  match c.pipeline.running with
  | some instance_ => c.settle number call none (.started (.ok instance_))
  | none => { c with callers := c.callers.set number ⟨call, .building⟩ }

/-- The first thing that a caller does in the lock. -/
def look (c : Crowd) (number : Nat) : Call → Crowd
  | .start => c.lookForInstance number .start
  | .startInFront store => c.lookForInstance number (.startInFront store)
  | .resolver => c.settle number .resolver none (.resolver c.pipeline.running)
  | .isRunning => c.settle number .isRunning none (.flag c.pipeline.isRunning)
  | .stop =>
    let (wasRunning, pipeline) := c.pipeline.stop
    { c with pipeline }.settle number .stop none (.flag wasRunning)

/-- How a call builds an instance. -/
def maker? : Call → Option (Settings → Session → Except ConfigError Nat × Session)
  | .start => some Session.build
  | .startInFront store => some (Session.buildInFront store)
  | .resolver | .isRunning | .stop => none

/-- Build an instance and, if that succeeds, have the pipeline run it. -/
def build (c : Crowd) (number : Nat) (call : Call)
    (make : Settings → Session → Except ConfigError Nat × Session) : Crowd :=
  let (result, session) := make c.pipeline.settings c.session
  let running := match result with
    | .ok instance_ => some instance_
    | .error _ => c.pipeline.running
  { c with session, pipeline := { c.pipeline with running } }.settle number call (some result)
    (.started result)

/-- The next step of a caller. -/
def turn (c : Crowd) (number : Nat) (caller : Caller) : Crowd :=
  match caller.place with
  | .coming =>
    if c.holder.isSome then c
    else { c with
      holder := some number
      callers := c.callers.set number ⟨caller.call, .looking⟩ }
  | .looking => c.look number caller.call
  | .building =>
    match maker? caller.call with
    | some make => c.build number caller.call make
    | none => c
  | .leaving reply =>
    { c with
      holder := none
      callers := c.callers.set number ⟨caller.call, .returned reply⟩ }
  | .returned _ => c

/-! ## Out of the lock -/

/-- The next step of a request. -/
def work (c : Crowd) (number : Nat) (request : Request) : Crowd :=
  match c.session.services.get? request.service with
  | none => c
  | some front =>
    match c.session.stores.get? front.store with
    | none => c
    | some store =>
      let (place, service, store, world) := request.caller.place.step Store.ask
        request.caller.address front.service (store, c.session.world)
      { c with
        session := { c.session with
          world
          stores := c.session.stores.set front.store store
          services := c.session.services.set request.service { front with service } }
        requests := c.requests.set number { request with caller.place := place } }

/-- A store that a caller wants to start in front of is there. -/
def canCome (c : Crowd) : Call → Bool
  | .startInFront store => (c.session.stores.get? store).isSome
  | .start | .resolver | .isRunning | .stop => true

/-- The crowd after an event. What cannot happen does nothing. -/
def next (c : Crowd) : Event → Crowd
  | .come call =>
    if c.canCome call then { c with callers := c.callers ++ [⟨call, .coming⟩] } else c
  | .turn number =>
    match c.callers[number]? with
    | some caller => c.turn number caller
    | none => c
  | .ask service address =>
    if (c.session.services.get? service).isSome then
      { c with requests := c.requests ++ [⟨service, address, .consulting⟩] }
    else c
  | .work number =>
    match c.requests[number]? with
    | some request => c.work number request
    | none => c
  | .outside change => { c with session.world := change c.session.world }

/-- The crowd after some events. -/
def run (c : Crowd) (events : List Event) : Crowd := events.foldl next c

end Crowd

end Gazetteer.Pipeline
