/-
Gazetteer.Proofs.Service.Crowd — the cache is not seen from outside.

Many callers ask one service at once, and their steps come in any order. If the
location that the store gives for a text depends on the text alone, every caller
is answered with that location, or with the sentinel if there is none, whether the
cache is switched on or off; and it takes each of them six steps at the most. The
cache holds such locations only, and never more than it has room for. When all are
through, the counters agree with their number.
-/
import Gazetteer.Proofs.Members
import Gazetteer.Proofs.RecencyCache.Contents
import Gazetteer.Proofs.Service.Request
import Gazetteer.Service.Crowd

namespace Gazetteer.Service

variable {σ : Type} {ask : String → σ → Option Resolved × σ} {locate : String → Option Location}
  {s : Service} {store : σ} {address : String} {place : Place} {size : Nat}

/-- The location that a text is answered with. -/
def truth (locate : String → Option Location) (address : String) : Location :=
  (locate address).getD (.unknown address)

/-- A new service has an empty cache or none, and has counted nothing. -/
theorem create_eq {cacheEnabled : Bool} (h : create size cacheEnabled = .ok s) :
    s = ⟨if cacheEnabled then some (.empty size) else none, {}⟩ := by
  cases cacheEnabled with
  | false =>
    cases h
    rfl
  | true =>
    simp only [create, RecencyCache.create, if_true] at h
    split at h
    · cases h
    · cases h
      rfl

/-! ## Steps -/

variable {location : Location} {later : Service}

theorem step_found (h : s.consult address = (some location, later)) :
    Place.step ask address s store .consulting = (.found location, later, store) := by
  simp only [Place.step, h]

theorem step_missed (h : s.consult address = (none, later)) :
    Place.step ask address s store .consulting =
      (if later.cacheEnabled then .missed else .asking, later, store) := by
  simp only [Place.step, h]

/-- To ask the cache counts nothing and leaves it switched on or off. -/
theorem consult_frame (s : Service) (address : String) :
    (s.consult address).2.counters = s.counters ∧
      (s.consult address).2.cacheEnabled = s.cacheEnabled := by
  unfold consult
  split
  · exact ⟨rfl, rfl⟩
  · next cache hc => exact ⟨rfl, by rw [cacheEnabled, cacheEnabled, hc]; rfl⟩

/-! ## What every step keeps -/

/-- What a caller has seen is true. -/
def Place.IsTrue (locate : String → Option Location) (address : String) : Place → Prop
  | consulting | missed | asking => True
  | answered answer => answer.map (·.location) = locate address
  | found location | unsaved location | keeping location | returned location =>
    location = truth locate address

/-- The cache, if there is one, is not too full and holds true locations only. -/
def IsSound (locate : String → Option Location) (size : Nat) (s : Service) : Prop :=
  ∀ cache, s.cache = some cache → cache.capacity = size ∧ cache.size ≤ size ∧
    cache.Every fun key location => location = truth locate key

theorem isSound_count (h : IsSound locate size s) (event : Event) :
    IsSound locate size (s.count event) := h

theorem isSound_keep (h : IsSound locate size s) (address : String) :
    IsSound locate size (s.keep address (truth locate address)) := by
  intro later hlater
  obtain ⟨cache, hc, rfl⟩ := Option.map_eq_some_iff.1 hlater
  obtain ⟨rfl, -, hevery⟩ := h cache hc
  exact ⟨rfl, cache.size_put_le address _, hevery.put rfl⟩

theorem isSound_consult (h : IsSound locate size s) (address : String) :
    IsSound locate size (s.consult address).2 ∧
      ∀ location, (s.consult address).1 = some location → location = truth locate address := by
  unfold consult
  split
  · next hc => exact ⟨h, by simp⟩
  · next cache hc =>
    obtain ⟨hcapacity, hsize, hevery⟩ := h cache hc
    refine ⟨?_, fun location hl => hevery.get_some (Prod.ext hl rfl)⟩
    intro later hlater
    obtain rfl := Option.some.inj hlater
    refine ⟨?_, ?_, hevery.get address⟩
    · exact (cache.capacity_get address).trans hcapacity
    · subst hcapacity
      exact RecencyCache.size_get_le hsize address

/-- A step finds out true things only and keeps true things only. -/
theorem isTrue_step (hs : IsSound locate size s)
    (ha : (ask address store).1.map (·.location) = locate address)
    (hp : place.IsTrue locate address) :
    (place.step ask address s store).1.IsTrue locate address ∧
      IsSound locate size (place.step ask address s store).2.1 := by
  cases place with
  | consulting =>
    obtain ⟨hsound, htrue⟩ := isSound_consult hs address
    rcases hcon : s.consult address with ⟨_ | location, later⟩
    · rw [step_missed hcon]
      rw [hcon] at hsound
      refine ⟨?_, hsound⟩
      dsimp only
      split <;> trivial
    · rw [step_found hcon]
      rw [hcon] at hsound htrue
      exact ⟨htrue location rfl, hsound⟩
  | found location => exact ⟨hp, isSound_count hs _⟩
  | missed => exact ⟨trivial, isSound_count hs _⟩
  | asking => exact ⟨ha, hs⟩
  | answered answer =>
    cases answer with
    | none =>
      have hnone : none = locate address := hp
      refine ⟨?_, isSound_count hs _⟩
      show Location.unknown address = truth locate address
      rw [truth, ← hnone]
      rfl
    | some resolved =>
      have hsome : some resolved.location = locate address := hp
      have htrue : resolved.location = truth locate address := by
        rw [truth, ← hsome]
        rfl
      refine ⟨?_, isSound_count hs _⟩
      show (Place.ofResolved resolved).IsTrue locate address
      unfold Place.ofResolved
      split <;> exact htrue
  | unsaved location => exact ⟨hp, isSound_count hs _⟩
  | keeping location =>
    refine ⟨hp, ?_⟩
    have htrue : location = truth locate address := hp
    subst htrue
    exact isSound_keep hs address
  | returned location => exact ⟨hp, hs⟩

/-! ## What every step counts -/

/-- The hit or the miss of the cache has been counted. -/
def Place.isCounted : Place → Bool
  | consulting | found _ | missed => false
  | asking | answered _ | unsaved _ | keeping _ | returned _ => true

/-- A miss of the cache has been counted and the store's answer has not. -/
def Place.isPending : Place → Bool
  | asking | answered _ => true
  | consulting | found _ | missed | unsaved _ | keeping _ | returned _ => false

/-- A service with a cache has counted some requests; some of them the store has not answered. -/
structure Counts (counted pending : Nat) (s : Service) : Prop where
  enabled : s.cacheEnabled = true
  requests : s.counters.cacheHits + s.counters.cacheMisses = counted
  calls : s.counters.storeHits + s.counters.storeMisses + pending = s.counters.cacheMisses

/-- A step counts what the place of its caller says. -/
theorem counts_step {counted pending counted' pending' : Nat} (h : Counts counted pending s)
    (hc : counted' + place.isCounted.toNat =
      counted + (place.step ask address s store).1.isCounted.toNat)
    (hp : pending' + place.isPending.toNat =
      pending + (place.step ask address s store).1.isPending.toNat) :
    Counts counted' pending' (place.step ask address s store).2.1 := by
  obtain ⟨henabled, rfl, hcalls⟩ := h
  cases place with
  | consulting =>
    obtain ⟨hcounters, hsame⟩ := consult_frame s address
    rcases hcon : s.consult address with ⟨_ | location, later⟩
    · rw [hcon] at hcounters hsame
      rw [step_missed hcon, if_pos (hsame.trans henabled)] at hc hp ⊢
      refine ⟨hsame.trans henabled, ?_, ?_⟩
      · rw [hcounters]
        exact hc.symm
      · rw [hcounters, ← hcalls]
        exact congrArg _ hp
    · rw [hcon] at hcounters hsame
      rw [step_found hcon] at hc hp ⊢
      refine ⟨hsame.trans henabled, ?_, ?_⟩
      · rw [hcounters]
        exact hc.symm
      · rw [hcounters, ← hcalls]
        exact congrArg _ hp
  | found location =>
    change counted' + 0 = s.counters.cacheHits + s.counters.cacheMisses + 1 at hc
    obtain rfl : pending' = pending := hp
    refine ⟨henabled, ?_, hcalls⟩
    show s.counters.cacheHits + 1 + s.counters.cacheMisses = counted'
    omega
  | missed =>
    change counted' + 0 = s.counters.cacheHits + s.counters.cacheMisses + 1 at hc
    obtain rfl : pending' = pending + 1 := hp
    refine ⟨henabled, ?_, ?_⟩
    · show s.counters.cacheHits + (s.counters.cacheMisses + 1) = counted'
      omega
    · show s.counters.storeHits + s.counters.storeMisses + (pending + 1) =
        s.counters.cacheMisses + 1
      omega
  | asking =>
    obtain rfl := Nat.add_right_cancel hc
    obtain rfl := Nat.add_right_cancel hp
    exact ⟨henabled, rfl, hcalls⟩
  | answered answer =>
    cases answer with
    | none =>
      obtain rfl := Nat.add_right_cancel hc
      obtain rfl : pending' + 1 = pending := hp
      refine ⟨henabled, rfl, ?_⟩
      show s.counters.storeHits + (s.counters.storeMisses + 1) + pending' = s.counters.cacheMisses
      omega
    | some resolved =>
      obtain ⟨hcounted, hpending⟩ : (Place.ofResolved resolved).isCounted = true ∧
          (Place.ofResolved resolved).isPending = false := by
        unfold Place.ofResolved
        split <;> exact ⟨rfl, rfl⟩
      change counted' + 1 = _ + (Place.ofResolved resolved).isCounted.toNat at hc
      change pending' + 1 = pending + (Place.ofResolved resolved).isPending.toNat at hp
      rw [hcounted] at hc
      rw [hpending] at hp
      obtain rfl := Nat.add_right_cancel hc
      obtain rfl : pending' + 1 = pending := hp
      refine ⟨henabled, rfl, ?_⟩
      show s.counters.storeHits + 1 + s.counters.storeMisses + pending' = s.counters.cacheMisses
      omega
  | unsaved location =>
    obtain rfl := Nat.add_right_cancel hc
    obtain rfl := Nat.add_right_cancel hp
    exact ⟨henabled, rfl, hcalls⟩
  | keeping location =>
    obtain rfl := Nat.add_right_cancel hc
    obtain rfl := Nat.add_right_cancel hp
    refine ⟨?_, rfl, hcalls⟩
    rwa [Place.step, cacheEnabled, keep, Option.isSome_map]
  | returned location =>
    obtain rfl := Nat.add_right_cancel hc
    obtain rfl := Nat.add_right_cancel hp
    exact ⟨henabled, rfl, hcalls⟩

/-! ## How many steps are left -/

/-- After how many steps at the most a caller is through. -/
def Place.left : Place → Nat
  | consulting => 6
  | missed => 5
  | asking => 4
  | answered _ => 3
  | unsaved _ => 2
  | found _ | keeping _ => 1
  | returned _ => 0

theorem left_step (place : Place) (ask : String → σ → Option Resolved × σ) (address : String)
    (s : Service) (store : σ) : (place.step ask address s store).1.left ≤ place.left - 1 := by
  cases place with
  | consulting =>
    rcases hcon : s.consult address with ⟨_ | location, later⟩
    · rw [step_missed hcon]
      dsimp only
      split <;> decide
    · rw [step_found hcon]
      exact Nat.le_add_left 1 4
  | answered answer =>
    cases answer with
    | none => exact Nat.le_succ 1
    | some resolved =>
      show (Place.ofResolved resolved).left ≤ 2
      unfold Place.ofResolved
      split
      · exact Nat.le_refl 2
      · exact Nat.le_succ 1
  | _ => exact Nat.le_refl _

/-! ## Crowds -/

namespace Crowd

open Members

variable {c : Crowd σ} {number : Nat} {caller : Caller} {addresses : List String}

theorem next_of_some (hn : c.callers[number]? = some caller) :
    c.next ask number =
      ⟨(caller.place.step ask caller.address c.service c.store).2.1,
        (caller.place.step ask caller.address c.service c.store).2.2,
        c.callers.set number ⟨caller.address,
          (caller.place.step ask caller.address c.service c.store).1⟩⟩ := by
  simp only [next, hn]

theorem next_of_none (hn : c.callers[number]? = none) : c.next ask number = c := by
  simp only [next, hn]

/-- The callers ask for some texts, and nothing untrue is seen or kept. -/
structure Inv (locate : String → Option Location) (size : Nat) (addresses : List String)
    (c : Crowd σ) : Prop where
  asks : c.callers.map (·.address) = addresses
  places : ∀ (i : Nat) (caller : Caller), c.callers[i]? = some caller →
    caller.place.IsTrue locate caller.address
  sound : IsSound locate size c.service

theorem Inv.next (h : Inv locate size addresses c)
    (ha : ∀ address store, (ask address store).1.map (·.location) = locate address)
    (number : Nat) : Inv locate size addresses (c.next ask number) := by
  cases hn : c.callers[number]? with
  | none => rwa [next_of_none hn]
  | some caller =>
    rw [next_of_some hn]
    obtain ⟨hplace, hsound⟩ :=
      isTrue_step h.sound (ha caller.address c.store) (h.places number caller hn)
    refine ⟨?_, ?_, hsound⟩
    · rw [← h.asks]
      exact map_set_of_eq hn rfl
    · intro i other hi
      obtain ⟨-, rfl⟩ | ⟨-, hi⟩ := getElem?_set_cases hi
      · exact hplace
      · exact h.places i other hi

theorem Inv.run (h : Inv locate size addresses c)
    (ha : ∀ address store, (ask address store).1.map (·.location) = locate address)
    (schedule : List Nat) : Inv locate size addresses (c.run ask schedule) := by
  induction schedule generalizing c with
  | nil => exact h
  | cons number schedule ih => exact ih (h.next ha number)

/-- The counters agree with the places of the callers. -/
def IsBalanced (c : Crowd σ) : Prop :=
  Counts (c.callers.countP (·.place.isCounted)) (c.callers.countP (·.place.isPending)) c.service

theorem IsBalanced.next (h : c.IsBalanced) (ask : String → σ → Option Resolved × σ)
    (number : Nat) : (c.next ask number).IsBalanced := by
  cases hn : c.callers[number]? with
  | none => rwa [next_of_none hn]
  | some caller =>
    rw [next_of_some hn]
    have hset := fun p => countP_set p (⟨caller.address,
      (caller.place.step ask caller.address c.service c.store).1⟩ : Caller) hn
    exact counts_step h (hset (·.place.isCounted)) (hset (·.place.isPending))

theorem IsBalanced.run (h : c.IsBalanced) (ask : String → σ → Option Resolved × σ)
    (schedule : List Nat) : (c.run ask schedule).IsBalanced := by
  induction schedule generalizing c with
  | nil => exact h
  | cons number schedule ih => exact ih (h.next ask number)

/-- Every step of its own brings a caller nearer to the end, and no step of another does. -/
theorem left_run (hn : c.callers[number]? = some caller) (ask : String → σ → Option Resolved × σ)
    (schedule : List Nat) :
    ∃ later, (c.run ask schedule).callers[number]? = some later ∧
      later.address = caller.address ∧
      later.place.left ≤ caller.place.left - schedule.count number := by
  induction schedule generalizing c caller with
  | nil => exact ⟨caller, hn, rfl, Nat.le_refl _⟩
  | cons other schedule ih =>
    by_cases ho : other = number
    · subst ho
      have hnext : (c.next ask other).callers[other]? = some ⟨caller.address,
          (caller.place.step ask caller.address c.service c.store).1⟩ := by
        rw [next_of_some hn]
        obtain ⟨hlt, -⟩ := List.getElem?_eq_some_iff.1 hn
        exact List.getElem?_set_self hlt
      obtain ⟨later, hlater, haddress, hleft⟩ := ih hnext
      refine ⟨later, hlater, haddress, ?_⟩
      have hstep := left_step caller.place ask caller.address c.service c.store
      rw [List.count_cons_self]
      dsimp only at hleft
      omega
    · have hnext : (c.next ask other).callers[number]? = some caller := by
        cases hother : c.callers[other]? with
        | none => rwa [next_of_none hother]
        | some mover =>
          rw [next_of_some hother]
          exact (List.getElem?_set_ne ho).trans hn
      obtain ⟨later, hlater, haddress, hleft⟩ := ih hnext
      exact ⟨later, hlater, haddress, by rwa [List.count_cons_of_ne ho]⟩

/-! ## Alone -/

theorem run_cons (c : Crowd σ) (number : Nat) (schedule : List Nat) :
    c.run ask (number :: schedule) = (c.next ask number).run ask schedule := rfl

theorem run_append (c : Crowd σ) (first second : List Nat) :
    c.run ask (first ++ second) = (c.run ask first).run ask second := List.foldl_append

theorem next_alone (s : Service) (store : σ) (address : String) (place : Place) :
    (Crowd.mk s store [⟨address, place⟩]).next ask 0 =
      ⟨(place.step ask address s store).2.1, (place.step ask address s store).2.2,
        [⟨address, (place.step ask address s store).1⟩]⟩ := rfl

/-- From the call of the store on, four steps of a caller alone are what is left of a request. -/
theorem run_asking (s : Service) (store : σ) (address : String) :
    (Crowd.mk s store [⟨address, .asking⟩]).run ask [0, 0, 0, 0] =
      ⟨(s.countAnswer (ask address store).1).keep address
          (locationOf address (ask address store).1),
        (ask address store).2,
        [⟨address, .returned (locationOf address (ask address store).1)⟩]⟩ := by
  rcases hask : ask address store with ⟨_ | resolved, after⟩
  · simp [run, next_alone, Place.step, hask, countAnswer, locationOf]
  · cases hf : resolved.writeBack.isFailed with
    | false =>
      simp [run, next_alone, Place.step, Place.ofResolved, hask, hf, countAnswer, locationOf]
    | true =>
      simp [run, next_alone, Place.step, Place.ofResolved, hask, hf, countAnswer, locationOf]

/-- A caller alone is answered as by the whole request at once. -/
theorem run_alone (ask : String → σ → Option Resolved × σ) (s : Service) (store : σ)
    (address : String) :
    (start s store [address]).run ask [0, 0, 0, 0, 0, 0] =
      ⟨(s.resolve ask address store).2.1, (s.resolve ask address store).2.2,
        [⟨address, .returned (s.resolve ask address store).1⟩]⟩ := by
  have hstart : start s store [address] = ⟨s, store, [⟨address, .consulting⟩]⟩ := rfl
  rw [hstart, run_cons, next_alone]
  rcases hcon : s.consult address with ⟨_ | location, later⟩
  · rw [step_missed hcon]
    have hresolve : s.resolve ask address store =
        (locationOf address (ask address store).1,
          (later.countMiss.countAnswer (ask address store).1).keep address
            (locationOf address (ask address store).1),
          (ask address store).2) := by
      simp only [resolve, hcon]
    rw [hresolve]
    cases hon : later.cacheEnabled with
    | true =>
      have hmiss : later.countMiss = later.count .cacheMiss := if_pos hon
      rw [hmiss]
      exact run_asking (later.count .cacheMiss) store address
    | false =>
      have hmiss : later.countMiss = later := if_neg (by rw [← cacheEnabled, hon]; simp)
      rw [hmiss]
      have hsplit : [0, 0, 0, 0, 0] = [0, 0, 0, 0] ++ [0] := rfl
      rw [hsplit, run_append, if_neg Bool.false_ne_true, run_asking, run_cons, next_alone]
      rfl
  · simp [run, next_alone, Place.step, resolve, hcon]

/-! ## The cache is not seen -/

theorem inv_start (s : Service) (store : σ) (addresses : List String)
    (hs : IsSound locate size s) : Inv locate size addresses (start s store addresses) := by
  refine ⟨?_, ?_, hs⟩
  · rw [start, List.map_map]
    exact List.map_id _
  · intro i caller hi
    change (addresses.map fun address => (⟨address, .consulting⟩ : Caller))[i]? = some caller at hi
    rw [List.getElem?_map] at hi
    obtain ⟨address, -, rfl⟩ := Option.map_eq_some_iff.1 hi
    trivial

/-- Who is through has been answered with the truth. -/
theorem Inv.answer_eq (h : Inv locate size addresses c) {i : Nat} {address : String}
    {location : Location} (hi : addresses[i]? = some address) (hl : c.answer? i = some location) :
    location = truth locate address := by
  unfold answer? at hl
  split at hl
  · next asked given hn =>
    obtain rfl := Option.some.inj hl
    have hasks := h.asks ▸ hi
    rw [List.getElem?_map, hn] at hasks
    obtain rfl := Option.some.inj hasks
    exact h.places i _ hn
  · cases hl

/-- Whoever has taken six steps is through. -/
theorem answered_of_six (s : Service) (store : σ) {i : Nat} {address : String}
    (hi : addresses[i]? = some address) (ask : String → σ → Option Resolved × σ)
    (schedule : List Nat) (hcount : 6 ≤ schedule.count i) :
    ∃ location, ((start s store addresses).run ask schedule).answer? i = some location := by
  have hn : (start s store addresses).callers[i]? = some ⟨address, .consulting⟩ := by
    simp [start, hi]
  obtain ⟨later, hlater, -, hleft⟩ := left_run hn ask schedule
  have hzero : later.place.left = 0 := by
    have hsix : Place.left .consulting = 6 := rfl
    dsimp only at hleft
    omega
  obtain ⟨asked, place⟩ := later
  cases place with
  | returned location => exact ⟨location, by rw [answer?, hlater]⟩
  | _ => cases hzero

theorem isBalanced_start (hs : s.cacheEnabled = true) (hc : s.counters = {}) (store : σ)
    (addresses : List String) : (start s store addresses).IsBalanced := by
  have hnone : ∀ p : Caller → Bool, (∀ address, p ⟨address, .consulting⟩ = false) →
      (start s store addresses).callers.countP p = 0 := by
    intro p hp
    refine List.countP_eq_zero.2 fun caller hm => ?_
    obtain ⟨address, -, rfl⟩ := List.mem_map.1 hm
    rw [hp]
    exact Bool.false_ne_true
  unfold IsBalanced
  rw [hnone _ fun _ => rfl, hnone _ fun _ => rfl]
  refine ⟨hs, ?_, ?_⟩
  · show s.counters.cacheHits + s.counters.cacheMisses = 0
    rw [hc]
    rfl
  · show s.counters.storeHits + s.counters.storeMisses + 0 = s.counters.cacheMisses
    rw [hc]
    rfl

/-- When all are through, the counters agree with their number. -/
theorem IsBalanced.counts (h : c.IsBalanced)
    (hall : ∀ i < c.callers.length, (c.answer? i).isSome = true) :
    c.service.counters.cacheHits + c.service.counters.cacheMisses = c.callers.length ∧
      c.service.counters.storeHits + c.service.counters.storeMisses =
        c.service.counters.cacheMisses := by
  have hplace : ∀ caller ∈ c.callers, ∃ location, caller.place = .returned location := by
    intro caller hm
    obtain ⟨i, hlt, hi⟩ := List.getElem_of_mem hm
    have hthrough := hall i hlt
    rw [answer?, List.getElem?_eq_getElem hlt, hi] at hthrough
    obtain ⟨address, place⟩ := caller
    cases place with
    | returned location => exact ⟨location, rfl⟩
    | _ => cases hthrough
  have hcounted : c.callers.countP (·.place.isCounted) = c.callers.length := by
    refine List.countP_eq_length.2 fun caller hm => ?_
    obtain ⟨location, hl⟩ := hplace caller hm
    rw [hl]
    rfl
  have hpending : c.callers.countP (·.place.isPending) = 0 := by
    refine List.countP_eq_zero.2 fun caller hm => ?_
    obtain ⟨location, hl⟩ := hplace caller hm
    rw [hl]
    exact Bool.false_ne_true
  unfold IsBalanced at h
  rw [hcounted, hpending] at h
  exact ⟨h.requests, h.calls⟩

/-- If the location that a store gives for a text depends on the text alone, requests at once are
all answered with it, or with the sentinel where there is none, in whatever order their steps come;
each is through after six steps of its own. It makes no difference whether the cache is switched on.
The cache holds such locations only, no more of them than it has room for, and when all requests
are through the counters agree with their number. -/
theorem cache_invisible {size : Nat} (hs : 0 < size) (off : Nat)
    (ha : ∀ address store, (ask address store).1.map (·.location) = locate address)
    (store : σ) (addresses : List String) :
    ∃ cached plain, create size true = .ok cached ∧ create off false = .ok plain ∧
      ∀ schedule : List Nat,
        let now := (start cached store addresses).run ask schedule
        let bare := (start plain store addresses).run ask schedule
        (∀ (i : Nat) (address : String), addresses[i]? = some address →
          (∀ location, now.answer? i = some location → location = truth locate address) ∧
          (∀ location, bare.answer? i = some location → location = truth locate address) ∧
          (6 ≤ schedule.count i → now.answer? i = some (truth locate address) ∧
            bare.answer? i = some (truth locate address))) ∧
        (∃ cache, now.service.cache = some cache ∧ cache.size ≤ size ∧
          ∀ key location, (key, location) ∈ cache.entries → location = truth locate key) ∧
        ((∀ i < addresses.length, (now.answer? i).isSome = true) →
          now.service.counters.cacheHits + now.service.counters.cacheMisses = addresses.length ∧
          now.service.counters.storeHits + now.service.counters.storeMisses =
            now.service.counters.cacheMisses) := by
  refine ⟨⟨some (.empty size), {}⟩, ⟨none, {}⟩, ?_, rfl, ?_⟩
  · simp [create, RecencyCache.create, Nat.ne_of_gt hs]
  intro schedule now bare
  have hcached : IsSound locate size ⟨some (.empty size), {}⟩ := by
    intro cache hc
    obtain rfl := Option.some.inj hc
    exact ⟨rfl, Nat.zero_le _, RecencyCache.every_empty size⟩
  have hplain : IsSound locate size ⟨none, {}⟩ := by
    intro cache hc
    cases hc
  have hnow : Inv locate size addresses now := (inv_start _ store addresses hcached).run ha schedule
  have hbare : Inv locate size addresses bare :=
    (inv_start _ store addresses hplain).run ha schedule
  have hbalanced : now.IsBalanced := (isBalanced_start rfl rfl store addresses).run ask schedule
  have hlength : now.callers.length = addresses.length := by
    rw [← hnow.asks, List.length_map]
  refine ⟨?_, ?_, ?_⟩
  · intro i address hi
    refine ⟨fun _ hl => hnow.answer_eq hi hl, fun _ hl => hbare.answer_eq hi hl, ?_⟩
    intro hcount
    obtain ⟨location, hl⟩ := answered_of_six _ store hi ask schedule hcount
    obtain ⟨location', hl'⟩ := answered_of_six _ store hi ask schedule hcount
    exact ⟨hnow.answer_eq hi hl ▸ hl, hbare.answer_eq hi hl' ▸ hl'⟩
  · obtain ⟨cache, hc⟩ := Option.isSome_iff_exists.1 hbalanced.enabled
    obtain ⟨-, hsize, hevery⟩ := hnow.sound cache hc
    exact ⟨cache, hc, hsize, fun key location hm => hevery (key, location) hm⟩
  · intro hall
    rw [← hlength] at hall ⊢
    exact hbalanced.counts hall

/-- A store that knows one text and cannot write its location back the first time. -/
def reluctant (address : String) (count : Nat) : Option Resolved × Nat :=
  (if address = "10.0.0.1" then
    some ⟨⟨"Netherlands", "Utrecht", address⟩, if count = 0 then .failed .query else .persisted⟩
  else none, count + 1)

/-- Three callers take turns, with room for one location. -/
theorem cache_invisible_three :
    let truths := fun address =>
      if address = "10.0.0.1" then some (Location.mk "Netherlands" "Utrecht" address) else none
    let addresses := ["10.0.0.1", "10.0.0.2", "10.0.0.1"]
    let turns := (List.replicate 6 [0, 1, 2]).flatten
    let now := (start ⟨some (.empty 1), {}⟩ 0 addresses).run reluctant turns
    0 < 1 ∧ (∀ address count, (reluctant address count).1.map (·.location) = truths address) ∧
      now.answer? 1 = some (.unknown "10.0.0.2") ∧
      now.answer? 2 = some ⟨"Netherlands", "Utrecht", "10.0.0.1"⟩ ∧
      now.service.counters.cacheHits + now.service.counters.cacheMisses = addresses.length := by
  intro truths addresses turns now
  have hs : 0 < 1 := by decide
  have ha : ∀ address count, (reluctant address count).1.map (·.location) = truths address := by
    intro address count
    by_cases h : address = "10.0.0.1" <;> simp [reluctant, truths, h]
  obtain ⟨cached, plain, hcached, -, hlaw⟩ := cache_invisible hs 0 ha 0 addresses
  obtain rfl : ⟨some (.empty 1), {}⟩ = cached := Except.ok.inj hcached
  obtain ⟨hanswers, -, hcounts⟩ := hlaw turns
  have hnow : (start ⟨some (.empty 1), {}⟩ 0 addresses).run reluctant turns = now := rfl
  rw [hnow] at hanswers hcounts
  have hturns : ∀ i < addresses.length, 6 ≤ turns.count i := by decide
  have hthrough : ∀ (i : Nat) (hi : i < addresses.length),
      now.answer? i = some (truth truths addresses[i]) := fun i hi =>
    ((hanswers i addresses[i] (List.getElem?_eq_getElem hi)).2.2 (hturns i hi)).1
  have hall : ∀ i < addresses.length, (now.answer? i).isSome = true := by
    intro i hi
    rw [hthrough i hi]
    rfl
  have hfound : truth truths "10.0.0.1" = ⟨"Netherlands", "Utrecht", "10.0.0.1"⟩ := rfl
  have hunknown : truth truths "10.0.0.2" = .unknown "10.0.0.2" := rfl
  rw [← hfound, ← hunknown]
  exact ⟨hs, ha, hthrough 1 (by decide), hthrough 2 (by decide), (hcounts hall).1⟩

end Crowd

end Gazetteer.Service
