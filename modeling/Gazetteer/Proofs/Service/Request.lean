/-
Gazetteer.Proofs.Service.Request — which requests reach the store.

With the cache switched on, a request is answered without the store if and only if
its text has been requested before and fewer other texts than the cache has room
for have been since; the answer is then that of the last call for the text. Every
other request calls the store once. The counters agree with the requests and the
calls at any time. With the cache switched off every request calls the store.
-/
import Gazetteer.Proofs.Members
import Gazetteer.Proofs.RecencyCache.Contents
import Gazetteer.Service.Request

namespace Gazetteer.Service

open Members Recency

variable {σ : Type} {ask : String → σ → Option Resolved × σ} {s : Service}
  {cache : RecencyCache String Location} {address : String} {location : Location}
  {calls : List (String × Option Resolved)} {asked : List String}

/-! ## Single requests -/

theorem answer_eq (request : Request) (s : Service) (store : σ) :
    s.answer ask request store =
      (request.reply (s.resolve ask request.address store).1,
        (s.resolve ask request.address store).2) := by
  cases request <;> rfl

/-- The location of an answer is its own, or else one that has nothing but the text. -/
theorem locationOf_eq_elim (address : String) (answer : Option Resolved) :
    locationOf address answer = answer.elim ⟨"", "", address⟩ (·.location) := by
  cases answer <;> rfl

theorem resolve_found {store : σ} {later : RecencyCache String Location}
    (hc : s.cache = some cache) (hg : cache.get address = (some location, later)) :
    s.resolve ask address store =
      (location, ⟨some later, s.counters.count .cacheHit⟩, store) := by
  simp [resolve, consult, hc, hg, count]

theorem resolve_missed {store : σ} (hc : s.cache = some cache)
    (hg : cache.get address = (none, cache)) :
    s.resolve ask address store =
      (locationOf address (ask address store).1,
        ((s.count .cacheMiss).countAnswer (ask address store).1).keep address
          (locationOf address (ask address store).1),
        (ask address store).2) := by
  have hs : ({ s with cache := some cache } : Service) = s := by rw [← hc]
  simp [resolve, consult, hc, hg, hs, countMiss]

/-- The store has found a location that could not be written back. -/
def IsUnsaved (answer : Option Resolved) : Prop :=
  ∃ location cause, answer = some ⟨location, .failed cause⟩

theorem any_isFailed_iff {answer : Option Resolved} :
    answer.any (·.writeBack.isFailed) = true ↔ IsUnsaved answer := by
  cases answer with
  | none => simp [IsUnsaved]
  | some resolved =>
    obtain ⟨location, writeBack⟩ := resolved
    cases writeBack <;> simp [IsUnsaved, WriteBack.isFailed]

instance : DecidablePred IsUnsaved := fun _ => decidable_of_iff _ any_isFailed_iff

theorem countAnswer_eq (s : Service) (answer : Option Resolved) :
    s.countAnswer answer = { s with
      counters := { s.counters with
        storeHits := s.counters.storeHits + answer.isSome.toNat
        storeMisses := s.counters.storeMisses + answer.isNone.toNat
        writeBackFailures := s.counters.writeBackFailures +
          (decide (IsUnsaved answer)).toNat } } := by
  -- the rule is decided by the check that the service makes
  have hunsaved : decide (IsUnsaved answer) = answer.any (·.writeBack.isFailed) := by
    rw [Bool.eq_iff_iff, decide_eq_true_iff, any_isFailed_iff]
  rw [hunsaved]
  cases answer with
  | none => rfl
  | some resolved =>
    cases hf : resolved.writeBack.isFailed with
    | false => simp [countAnswer, count, Counters.count, hf]
    | true => simp [countAnswer, count, Counters.count, hf]

theorem resolve_uncached {store : σ} (hc : s.cache = none) :
    s.resolve ask address store =
      (locationOf address (ask address store).1, s.countAnswer (ask address store).1,
        (ask address store).2) := by
  simp [resolve, consult, hc, countMiss, keep, countAnswer_eq]

/-! ## Counters -/

/-- The counters of the store agree with its calls. -/
structure Tallies (calls : List (String × Option Resolved)) (c : Counters) : Prop where
  hits : c.storeHits = calls.countP (·.2.isSome)
  misses : c.storeMisses = calls.countP (·.2.isNone)
  failures : c.writeBackFailures = calls.countP (IsUnsaved ·.2)

theorem Tallies.total {c : Counters} (h : Tallies calls c) :
    c.storeHits + c.storeMisses = calls.length := by
  rw [h.hits, h.misses, List.length_eq_countP_add_countP (·.2.isSome)]
  congr 2
  funext call
  cases call.2 <;> rfl

/-- Only what was found can have failed to be written back. -/
theorem Tallies.failures_le {c : Counters} (h : Tallies calls c) :
    c.writeBackFailures ≤ c.storeHits := by
  rw [h.failures, h.hits]
  refine List.countP_mono_left fun call _ hf => ?_
  obtain ⟨location, cause, hanswer⟩ := of_decide_eq_true hf
  rw [hanswer]
  rfl

theorem Tallies.countAnswer (h : Tallies calls s.counters) (address : String)
    (answer : Option Resolved) :
    Tallies (calls ++ [(address, answer)]) (s.countAnswer answer).counters := by
  rw [countAnswer_eq]
  constructor
  · rw [countP_append_one, h.hits]
  · rw [countP_append_one, h.misses]
  · rw [countP_append_one, h.failures]

/-! ## What every request keeps -/

/-- The text has been requested, and fewer other texts than the size since then. -/
def IsRecent (size : Nat) (asked : List String) (address : String) : Prop :=
  address ∈ asked ∧ (since address asked.reverse).toFinset.card < size

/-- The location is what the last call for the text has come to. -/
def Gave (calls : List (String × Option Resolved)) (address : String) (location : Location) :
    Prop :=
  ∃ answer, calls.reverse.lookup address = some answer ∧
    location = answer.elim ⟨"", "", address⟩ (·.location)

theorem gave_concat (calls : List (String × Option Resolved)) (address : String)
    (answer : Option Resolved) :
    Gave (calls ++ [(address, answer)]) address (locationOf address answer) := by
  refine ⟨answer, ?_, locationOf_eq_elim address answer⟩
  rw [List.reverse_concat, lookup_cons_eq, if_pos rfl]

theorem Gave.concat {other : String} (h : Gave calls other location) (hne : other ≠ address)
    (answer : Option Resolved) : Gave (calls ++ [(address, answer)]) other location := by
  obtain ⟨given, hlookup, hlocation⟩ := h
  refine ⟨given, ?_, hlocation⟩
  rw [List.reverse_concat, lookup_cons_eq, if_neg hne, hlookup]

/-- A service with a cache after requests for some texts, in order, that have led to some calls. -/
structure Follows (size : Nat) (asked : List String) (calls : List (String × Option Resolved))
    (s : Service) : Prop where
  cache : ∃ cache, s.cache = some cache ∧ cache.capacity = size ∧
    cache.Holds asked.reverse (Gave calls)
  tallies : Tallies calls s.counters
  misses : s.counters.cacheMisses = calls.length
  requests : s.counters.cacheHits + s.counters.cacheMisses = asked.length

/-- What a request for a text comes to. -/
inductive Comes (size : Nat) (asked : List String) (book : Logged σ) (address : String) :
    Location × Service × Logged σ → Prop where
  | recalled {location : Location} {after : Service} (recent : IsRecent size asked address)
      (gave : Gave book.calls address location)
      (follows : Follows size (asked ++ [address]) book.calls after) :
      Comes size asked book address (location, after, book)
  | called {answer : Option Resolved} {store : σ} {after : Service}
      (old : ¬ IsRecent size asked address)
      (follows : Follows size (asked ++ [address]) (book.calls ++ [(address, answer)]) after) :
      Comes size asked book address
        (locationOf address answer, after, ⟨store, book.calls ++ [(address, answer)]⟩)

variable {size : Nat} {book : Logged σ}

theorem Follows.called (h : Follows size asked calls s) (address : String)
    (answer : Option Resolved) :
    Follows size (asked ++ [address]) (calls ++ [(address, answer)])
      (((s.count .cacheMiss).countAnswer answer).keep address (locationOf address answer)) := by
  obtain ⟨cache, hc, hsize, hholds⟩ := h.cache
  constructor
  · refine ⟨cache.put address (locationOf address answer), ?_, hsize, ?_⟩
    · simp [keep, countAnswer_eq, count, hc]
    · rw [List.reverse_concat]
      exact hholds.put (gave_concat calls address answer)
        fun other place hne hg => hg.concat hne answer
  · have hsame : Tallies calls (s.count .cacheMiss).counters :=
      ⟨h.tallies.hits, h.tallies.misses, h.tallies.failures⟩
    exact hsame.countAnswer address answer
  · rw [List.length_append, ← h.misses]
    simp [keep, countAnswer_eq, count, Counters.count]
  · rw [List.length_append, ← h.requests]
    simp [keep, countAnswer_eq, count, Counters.count, Nat.add_assoc]

theorem Follows.recalled (h : Follows size asked calls s) (hc : s.cache = some cache)
    (hholds : cache.Holds asked.reverse (Gave calls)) (hgave : Gave calls address location) :
    Follows size (asked ++ [address]) calls
      ⟨some (cache.put address location), s.counters.count .cacheHit⟩ := by
  obtain ⟨first, hfirst, hsize, -⟩ := h.cache
  obtain rfl : first = cache := Option.some.inj (hfirst.symm.trans hc)
  constructor
  · refine ⟨first.put address location, rfl, hsize, ?_⟩
    rw [List.reverse_concat]
    exact hholds.put hgave fun _ _ _ => id
  · exact ⟨h.tallies.hits, h.tallies.misses, h.tallies.failures⟩
  · exact h.misses
  · rw [List.length_append, ← h.requests]
    simp only [Counters.count, List.length_singleton]
    omega

theorem Follows.resolve (h : Follows size asked book.calls s) (address : String) :
    Comes size asked book address (s.resolve (logged ask) address book) := by
  obtain ⟨cache, hc, rfl, hholds⟩ := h.cache
  have hrecent : cache.contains address = true ↔ IsRecent cache.capacity asked address := by
    rw [hholds.contains_iff, List.mem_reverse]
    rfl
  obtain ⟨hn, hget⟩ | ⟨location, hp, hgave, hget⟩ := hholds.get_cases address
  · rw [resolve_missed hc hget]
    refine .called ?_ (h.called address (ask address book.store).1)
    rw [← hrecent, hn]
    exact Bool.false_ne_true
  · rw [resolve_found hc hget]
    exact .recalled (hrecent.1 hp) hgave (h.recalled hc hholds hgave)

theorem Follows.serve (book : Logged σ) (h : Follows size asked book.calls s)
    (requests : List Request) :
    Follows size (asked ++ requests.map (·.address)) (s.serve (logged ask) book requests).2.2.calls
      (s.serve (logged ask) book requests).2.1 := by
  -- on the requests, over all that may have come before them
  induction requests generalizing s asked book with
  | nil => simpa [Service.serve] using h
  | cons request requests ih =>
    have hnext : Follows size (asked ++ [request.address])
        (s.answer (logged ask) request book).2.2.calls
        (s.answer (logged ask) request book).2.1 := by
      have hcomes : Comes size asked book request.address
          (s.resolve (logged ask) request.address book) := h.resolve request.address
      rw [answer_eq]
      generalize s.resolve (logged ask) request.address book = outcome at hcomes
      cases hcomes with
      | recalled recent gave follows => exact follows
      | called old follows => exact follows
    have hrest := ih _ hnext
    rwa [List.append_assoc] at hrest

/-- A service without a cache, after requests that have led to some calls. -/
structure Passes (requests : Nat) (calls : List (String × Option Resolved)) (s : Service) :
    Prop where
  cache : s.cache = none
  tallies : Tallies calls s.counters
  hits : s.counters.cacheHits = 0
  misses : s.counters.cacheMisses = 0
  requests : calls.length = requests

theorem Passes.called {requests : Nat} (h : Passes requests calls s) (address : String)
    (answer : Option Resolved) :
    Passes (requests + 1) (calls ++ [(address, answer)]) (s.countAnswer answer) where
  cache := by rw [countAnswer_eq]; exact h.cache
  tallies := h.tallies.countAnswer address answer
  hits := by rw [countAnswer_eq]; exact h.hits
  misses := by rw [countAnswer_eq]; exact h.misses
  requests := by rw [List.length_append, h.requests, List.length_singleton]

theorem Passes.serve {count : Nat} (book : Logged σ) (h : Passes count book.calls s)
    (requests : List Request) :
    Passes (count + requests.length) (s.serve (logged ask) book requests).2.2.calls
      (s.serve (logged ask) book requests).2.1 := by
  induction requests generalizing s count book with
  | nil => exact h
  | cons request requests ih =>
    have hnext : Passes (count + 1) (s.answer (logged ask) request book).2.2.calls
        (s.answer (logged ask) request book).2.1 := by
      rw [answer_eq, resolve_uncached h.cache]
      exact h.called _ _
    have hrest := ih _ hnext
    rwa [Nat.add_assoc, Nat.add_comm 1] at hrest

/-- A log of its calls makes no difference to what a store does for a service. -/
theorem resolve_logged (s : Service) (address : String) (book : Logged σ) :
    s.resolve ask address book.store =
      ((s.resolve (logged ask) address book).1, (s.resolve (logged ask) address book).2.1,
        (s.resolve (logged ask) address book).2.2.store) := by
  unfold Service.resolve
  split <;> rfl

theorem serve_logged (s : Service) (book : Logged σ) (requests : List Request) :
    s.serve ask book.store requests =
      ((s.serve (logged ask) book requests).1, (s.serve (logged ask) book requests).2.1,
        (s.serve (logged ask) book requests).2.2.store) := by
  induction requests generalizing s book with
  | nil => rfl
  | cons request requests ih =>
    simp only [Service.serve, answer_eq]
    rw [resolve_logged]
    simp only [ih]

/-! ## The law of requests -/

/-- With the cache switched on, a request is answered without a call if and only if its text has
been requested before and fewer others than the size since then; the answer is then that of the last
call for it. Every other request makes one call. The counters agree with requests and calls at any
time. With the cache switched off every request makes one call. -/
theorem serve_law {size : Nat} (hs : 0 < size) (off : Nat)
    (ask : String → σ → Option Resolved × σ) (store : σ) :
    ∃ cached plain, create size true = .ok cached ∧ create off false = .ok plain ∧
      ∀ (before : List Request) (request : Request),
        let address := request.address
        let asked := before.map (·.address)
        (let now := (cached.serve (logged ask) ⟨store, []⟩ before).2
        let next := now.1.answer (logged ask) request now.2
        (next.2.2.calls = now.2.calls ↔ IsRecent size asked address) ∧
        (IsRecent size asked address → ∃ answer, now.2.calls.reverse.lookup address = some answer ∧
          next.1 = request.reply (answer.elim ⟨"", "", address⟩ (·.location))) ∧
        (¬ IsRecent size asked address → ∃ answer,
          next.2.2.calls = now.2.calls ++ [(address, answer)] ∧
          next.1 = request.reply (answer.elim ⟨"", "", address⟩ (·.location))) ∧
        now.1.counters.cacheHits + now.1.counters.cacheMisses = before.length ∧
        now.1.counters.storeHits + now.1.counters.storeMisses = now.1.counters.cacheMisses ∧
        now.1.counters.cacheMisses = now.2.calls.length ∧
        now.1.counters.writeBackFailures = now.2.calls.countP (IsUnsaved ·.2) ∧
        now.1.counters.writeBackFailures ≤ now.1.counters.storeHits ∧
        now.1.cached = min size asked.toFinset.card) ∧
        (let now := (plain.serve (logged ask) ⟨store, []⟩ before).2
        let next := now.1.answer (logged ask) request now.2
        (∃ answer, next.2.2.calls = now.2.calls ++ [(address, answer)] ∧
          next.1 = request.reply (answer.elim ⟨"", "", address⟩ (·.location))) ∧
        now.1.counters.cacheHits = 0 ∧ now.1.counters.cacheMisses = 0 ∧ now.1.cached = 0 ∧
        now.1.counters.storeHits + now.1.counters.storeMisses = before.length ∧
        now.1.counters.writeBackFailures = now.2.calls.countP (IsUnsaved ·.2) ∧
        now.2.calls.length = before.length) := by
  refine ⟨⟨some (.empty size), {}⟩, ⟨none, {}⟩, ?_, rfl, ?_⟩
  · simp [create, RecencyCache.create, Nat.ne_of_gt hs]
  intro before request address asked
  constructor
  · intro now next
    have hfresh : Follows size [] [] (⟨some (.empty size), {}⟩ : Service) :=
      ⟨⟨_, rfl, rfl, RecencyCache.holds_empty size⟩, ⟨rfl, rfl, rfl⟩, rfl, rfl⟩
    have hnow : Follows size asked now.2.calls now.1 :=
      Follows.serve ⟨store, []⟩ hfresh before
    have hlength : asked.length = before.length := List.length_map _
    have hcached : now.1.cached = min size asked.toFinset.card := by
      obtain ⟨cache, hc, hsize, hholds⟩ := hnow.cache
      rw [cached, hc, Option.elim_some, hholds.size_eq, hsize, List.toFinset_reverse]
    have htotal := hnow.tallies.total
    have hcomes : Comes size asked now.2 address (now.1.resolve (logged ask) address now.2) :=
      hnow.resolve address
    have hnext : next = (request.reply (now.1.resolve (logged ask) address now.2).1,
        (now.1.resolve (logged ask) address now.2).2) := answer_eq request now.1 now.2
    rw [hnext]
    generalize now.1.resolve (logged ask) address now.2 = outcome at hcomes
    refine ⟨?_, ?_, ?_, hnow.requests.trans hlength, ?_, hnow.misses, hnow.tallies.failures,
      hnow.tallies.failures_le, hcached⟩
    · cases hcomes with
      | recalled recent => simp [recent]
      | called old => simp [old]
    · intro hrecent
      cases hcomes with
      | recalled recent gave =>
        obtain ⟨answer, hlookup, rfl⟩ := gave
        exact ⟨answer, hlookup, rfl⟩
      | called old => exact absurd hrecent old
    · intro hold
      cases hcomes with
      | recalled recent => exact absurd recent hold
      | @called answer store after old =>
        exact ⟨answer, rfl, congrArg request.reply (locationOf_eq_elim address answer)⟩
    · rw [htotal, hnow.misses]
  · intro now next
    have hfresh : Passes 0 [] (⟨none, {}⟩ : Service) := ⟨rfl, ⟨rfl, rfl, rfl⟩, rfl, rfl, rfl⟩
    have hnow : Passes (0 + before.length) now.2.calls now.1 :=
      Passes.serve ⟨store, []⟩ hfresh before
    rw [Nat.zero_add] at hnow
    have htotal := hnow.tallies.total
    refine ⟨?_, hnow.hits, hnow.misses, ?_, ?_, hnow.tallies.failures, hnow.requests⟩
    · have hnext : next = (request.reply (now.1.resolve (logged ask) address now.2).1,
          (now.1.resolve (logged ask) address now.2).2) := answer_eq request now.1 now.2
      rw [hnext, resolve_uncached hnow.cache, locationOf_eq_elim]
      exact ⟨_, rfl, rfl⟩
    · rw [cached, hnow.cache]
      rfl
    · rw [htotal, hnow.requests]

/-- A store that finds every other text that it is asked for, and cannot write back what it finds. -/
def alternating (address : String) (count : Nat) : Option Resolved × Nat :=
  (if count % 2 = 0 then some ⟨⟨"Netherlands", "Utrecht", address⟩, .failed .query⟩ else none,
    count + 1)

/-- Of three texts the one that was requested again is still known, and one of the others is not.
Two have been found, and neither could be written back. -/
theorem serve_law_two :
    let before : List Request := [.resolve "10.0.0.1", .findCountry "10.0.0.2",
      .findRegion "10.0.0.1", .resolve "10.0.0.3"]
    let now := (Service.serve (logged alternating) ⟨some (.empty 2), {}⟩ ⟨0, []⟩ before).2
    let first := now.1.answer (logged alternating) (.findCountry "10.0.0.1") now.2
    let second := now.1.answer (logged alternating) (.findCountry "10.0.0.2") now.2
    0 < 2 ∧ first.1 = .text "Netherlands" ∧ first.2.2.calls = now.2.calls ∧
      second.2.2.calls ≠ now.2.calls ∧ now.1.counters.writeBackFailures = 2 := by
  intro before now first second
  have hs : 0 < 2 := by decide
  obtain ⟨cached, plain, hcached, -, hlaw⟩ := serve_law hs 0 alternating 0
  obtain rfl : ⟨some (.empty 2), {}⟩ = cached := Except.ok.inj hcached
  obtain ⟨⟨hasks, hreply, -, -, -, -, hfailures, -⟩, -⟩ := hlaw before (.findCountry "10.0.0.1")
  obtain ⟨⟨hasks', -⟩, -⟩ := hlaw before (.findCountry "10.0.0.2")
  have hrecent : IsRecent 2 (before.map (·.address)) "10.0.0.1" := ⟨by decide, by decide⟩
  have hold : ¬ IsRecent 2 (before.map (·.address)) "10.0.0.2" := fun h => absurd h.2 (by decide)
  obtain ⟨answer, hlookup, heq⟩ := hreply hrecent
  obtain rfl : some ⟨⟨"Netherlands", "Utrecht", "10.0.0.1"⟩, .failed .query⟩ = answer :=
    Option.some.inj hlookup
  have hcount : now.2.calls.countP (IsUnsaved ·.2) = 2 := by decide
  exact ⟨hs, heq, hasks.2 hrecent, fun h => hold (hasks'.1 h), hfailures.trans hcount⟩

end Gazetteer.Service
