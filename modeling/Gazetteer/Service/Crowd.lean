/-
Gazetteer.Service.Crowd — many requests at once to one service.

Each caller goes its way through a request one step at a time, while the others do
the same in any order: one step asks the cache, one asks the store, one keeps an
answer in the cache, and one counts one thing. In between, a caller knows only what
it has seen itself. Cache, counters and store are what the callers have in common.
-/
import Gazetteer.Service

namespace Gazetteer.Service

/-- Where a caller stands in a request, with what it has seen so far. -/
inductive Place where
  /-- It asks the cache next. -/
  | consulting
  /-- The cache has the location; the hit is not counted yet. -/
  | found (location : Location)
  /-- The cache does not have the text; the miss is not counted yet. -/
  | missed
  /-- It asks the store next. -/
  | asking
  /-- The store has answered; the answer is not counted yet. -/
  | answered (answer : Option Resolved)
  /-- The location was not written back; the failure is not counted yet. -/
  | unsaved (location : Location)
  /-- It puts the location into the cache next. -/
  | keeping (location : Location)
  | returned (location : Location)
  deriving DecidableEq, Repr

/-- Whether a location was written back decides what is done next with it. -/
def Place.ofResolved (resolved : Resolved) : Place :=
  if resolved.writeBack.isFailed then .unsaved resolved.location else .keeping resolved.location

/-- The next step of a request for an address text. -/
def Place.step {σ : Type} (ask : String → σ → Option Resolved × σ) (address : String) (s : Service)
    (store : σ) : Place → Place × Service × σ
  | consulting =>
    match s.consult address with
    | (some location, s) => (found location, s, store)
    | (none, s) => (if s.cacheEnabled then missed else asking, s, store)
  | found location => (returned location, s.count .cacheHit, store)
  | missed => (asking, s.count .cacheMiss, store)
  | asking => let (answer, store) := ask address store; (answered answer, s, store)
  | answered none => (keeping (.unknown address), s.count .storeMiss, store)
  | answered (some resolved) => (ofResolved resolved, s.count .storeHit, store)
  | unsaved location => (keeping location, s.count .writeBackFailure, store)
  | keeping location => (returned location, s.keep address location, store)
  | returned location => (returned location, s, store)

/-- A request on its way. -/
structure Caller where
  address : String
  place : Place

/-- All callers, and what they have in common. -/
structure Crowd (σ : Type) where
  service : Service
  store : σ
  callers : List Caller

namespace Crowd

variable {σ : Type}

/-- Some requests at once, none of which has begun. -/
def start (service : Service) (store : σ) (addresses : List String) : Crowd σ :=
  ⟨service, store, addresses.map fun address => ⟨address, .consulting⟩⟩

/-- The crowd after a step of the caller of a number, if there is one. -/
def next (ask : String → σ → Option Resolved × σ) (c : Crowd σ) (number : Nat) : Crowd σ :=
  match c.callers[number]? with
  | none => c
  | some caller =>
    let (place, service, store) := caller.place.step ask caller.address c.service c.store
    ⟨service, store, c.callers.set number { caller with place }⟩

/-- The crowd after some steps; the schedule says whose step comes next. -/
def run (ask : String → σ → Option Resolved × σ) (c : Crowd σ) (schedule : List Nat) : Crowd σ :=
  schedule.foldl (next ask) c

/-- What the caller of a number has been answered, if it is through. -/
def answer? (c : Crowd σ) (number : Nat) : Option Location :=
  match c.callers[number]? with
  | some ⟨_, .returned location⟩ => some location
  | _ => none

end Crowd

end Gazetteer.Service
