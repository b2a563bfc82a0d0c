/-
Gazetteer.Service.Request — requests to a service, one after another.

A service is asked for the location of an address text, or only for its country or
its region. Any sequence of such requests can be answered in order. A store that
keeps a log of its calls shows which of them have reached it.
-/
import Gazetteer.Service

namespace Gazetteer.Service

variable {σ : Type}

/-- The country of an address, empty if it is not known. -/
def findCountry (ask : String → σ → Option Resolved × σ) (address : String) (s : Service)
    (store : σ) : String × Service × σ :=
  let (location, s, store) := s.resolve ask address store
  (location.country, s, store)

/-- The city or region of an address, empty if it is not known. -/
def findRegion (ask : String → σ → Option Resolved × σ) (address : String) (s : Service)
    (store : σ) : String × Service × σ :=
  let (location, s, store) := s.resolve ask address store
  (location.region, s, store)

/-- Something that a service is asked. -/
inductive Request where
  | resolve (address : String)
  | findCountry (address : String)
  | findRegion (address : String)
  deriving DecidableEq, Repr

/-- The text that is asked about. -/
def Request.address : Request → String
  | resolve address | findCountry address | findRegion address => address

/-- What a service answers. -/
inductive Reply where
  | location (location : Location)
  | text (text : String)
  deriving DecidableEq, Repr

/-- What a location comes to as an answer to a request. -/
def Request.reply : Request → Location → Reply
  | resolve _, location => .location location
  | findCountry _, location => .text location.country
  | findRegion _, location => .text location.region

/-- Answer a request of any kind. -/
def answer (ask : String → σ → Option Resolved × σ) (request : Request) (s : Service) (store : σ) :
    Reply × Service × σ :=
  match request with
  | .resolve address =>
    let (location, rest) := s.resolve ask address store
    (.location location, rest)
  | .findCountry address =>
    let (country, rest) := s.findCountry ask address store
    (.text country, rest)
  | .findRegion address =>
    let (region, rest) := s.findRegion ask address store
    (.text region, rest)

/-- Answer some requests in order. -/
def serve (ask : String → σ → Option Resolved × σ) (s : Service) (store : σ) :
    List Request → List Reply × Service × σ
  | [] => ([], s, store)
  | request :: requests =>
    let (reply, s, store) := s.answer ask request store
    let (replies, rest) := s.serve ask store requests
    (reply :: replies, rest)

/-! ## Calls of a store -/

/-- A store with the texts that it has been asked for and its answers, in order. -/
structure Logged (σ : Type) where
  store : σ
  calls : List (String × Option Resolved)

/-- Ask a store and put the call down. -/
def logged (ask : String → σ → Option Resolved × σ) (address : String) (book : Logged σ) :
    Option Resolved × Logged σ :=
  let (answer, store) := ask address book.store
  (answer, ⟨store, book.calls ++ [(address, answer)]⟩)

end Gazetteer.Service
