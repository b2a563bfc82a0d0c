/-
Gazetteer.Service — a store behind a cache of locations, with counters.

A request is answered from the cache if the cache holds its text. Otherwise the
store is asked once, and what it answers is kept in the cache, an address that
was not found included. A request never fails. The parts of `resolve` are
single steps on the service, so that the steps of several requests can also be
taken in turns.
-/
import Gazetteer.Location
import Gazetteer.RecencyCache

namespace Gazetteer

/-- What a service has counted. The numbers have no bound; words of 64 bits say the same for as long
as a service has had fewer than 2 ^ 64 requests, since no request counts anything twice. -/
structure Counters where
  cacheHits : Nat := 0
  cacheMisses : Nat := 0
  storeHits : Nat := 0
  storeMisses : Nat := 0
  writeBackFailures : Nat := 0
  deriving DecidableEq, Repr

/-- Something that a service counts. -/
inductive Event where
  | cacheHit
  | cacheMiss
  | storeHit
  | storeMiss
  | writeBackFailure
  deriving DecidableEq, Repr

def Counters.count (c : Counters) : Event → Counters
  | .cacheHit => { c with cacheHits := c.cacheHits + 1 }
  | .cacheMiss => { c with cacheMisses := c.cacheMisses + 1 }
  | .storeHit => { c with storeHits := c.storeHits + 1 }
  | .storeMiss => { c with storeMisses := c.storeMisses + 1 }
  | .writeBackFailure => { c with writeBackFailures := c.writeBackFailures + 1 }

/-- The cache and the counters of a service. -/
structure Service where
  cache : Option (RecencyCache String Location)
  counters : Counters

namespace Service

/-- A new service; a cache that is switched on needs a positive size. -/
def create (cacheSize : Nat) (cacheEnabled : Bool) : Except ConfigError Service :=
  if cacheEnabled then do
    let cache ← RecencyCache.create cacheSize
    return ⟨some cache, {}⟩
  else return ⟨none, {}⟩

/-! ## Single steps -/

/-- Ask the cache for the location of a text. -/
def consult (s : Service) (address : String) : Option Location × Service :=
  match s.cache with
  | none => (none, s)
  | some cache =>
    let (found, cache) := cache.get address
    (found, { s with cache := some cache })

def count (s : Service) (event : Event) : Service :=
  { s with counters := s.counters.count event }

/-- Count a miss of the cache, if there is one. -/
def countMiss (s : Service) : Service := if s.cache.isSome then s.count .cacheMiss else s

/-- Count an answer of the store. -/
def countAnswer (s : Service) (answer : Option Resolved) : Service :=
  match answer with
  | none => s.count .storeMiss
  | some resolved =>
    let s := s.count .storeHit
    if resolved.writeBack.isFailed then s.count .writeBackFailure else s

/-- Keep a location in the cache, if there is one. -/
def keep (s : Service) (address : String) (location : Location) : Service :=
  { s with cache := s.cache.map fun cache => cache.put address location }

/-- The location of an answer: that of the store, or the sentinel. -/
def locationOf (address : String) (answer : Option Resolved) : Location :=
  match answer with
  | none => .unknown address
  | some resolved => resolved.location

/-! ## Requests -/

/-- Answer a request; `ask` puts the text to the store, whose state goes along. -/
def resolve {σ : Type} (ask : String → σ → Option Resolved × σ) (address : String)
    (s : Service) (store : σ) : Location × Service × σ :=
  match s.consult address with
  | (some location, s) => (location, s.count .cacheHit, store)
  | (none, s) =>
    let s := s.countMiss
    let (answer, store) := ask address store
    let location := locationOf address answer
    (location, (s.countAnswer answer).keep address location, store)

/-- The number of addresses in the cache. -/
def cached (s : Service) : Nat := s.cache.elim 0 (·.size)

def cacheEnabled (s : Service) : Bool := s.cache.isSome

end Service

end Gazetteer
