/-
Gazetteer.Proofs.Pipeline.Crowd — what holds among the callers of a pipeline at all times.

One caller at a time is in the lock, so whoever has seen there that no instance is
running still finds none when it builds one. What is done in the lock is therefore
lawful, and each caller is told what is written down for it. Stores and services stay
on their shelves, so that a call or a request finds what it speaks of.
-/
import Gazetteer.Proofs.Members
import Gazetteer.Proofs.Pipeline.Turn

namespace Gazetteer.Pipeline

open Members

variable {c : Crowd} {i k n : Nat} {caller : Caller} {call : Call} {place : Place} {reply : Reply}
  {settings : Settings} {event : Event} {attempt : Option (Except ConfigError Nat)}
  {make : Settings → Session → Except ConfigError Nat × Session}

/-- A step of a request to a service in front of a store. -/
def Request.step (request : Request) (front : Session.Front) (store : Store) (world : World) :
    Service.Place × Service × Store × World :=
  request.caller.place.step Store.ask request.caller.address front.service (store, world)

namespace Crowd

/-! ## What every event keeps -/

/-- What is written down is lawful and tells what is running; one caller at a time is in the lock,
and who builds has seen that nothing is running. -/
structure Inv (settings : Settings) (c : Crowd) : Prop where
  asks : c.pipeline.settings = settings
  lawful : IsLawful none c.log
  running : runningAfter none c.log = c.pipeline.running
  inside : ∀ {i : Nat} {caller : Caller}, c.callers[i]? = some caller →
    (caller.place.isInside = true ↔ c.holder = some i)
  held : ∀ {i : Nat}, c.holder = some i → i < c.callers.length
  building : ∀ {i : Nat} {call : Call}, c.callers[i]? = some ⟨call, .building⟩ →
    c.pipeline.running = none ∧ call.isStart = true
  /-- Each caller's reply is the one that is written down for it. -/
  replies : ∀ {i : Nat} {caller : Caller}, c.callers[i]? = some caller →
    (c.log.filter (·.caller == i)).map (fun e => (e.call, e.reply)) =
      (caller.place.reply?.map (caller.call, ·)).toList
  known : ∀ e ∈ c.log, e.caller < c.callers.length

/-- Every store and service that is spoken of is there, and instances are built one after another. -/
structure Shelved (c : Crowd) : Prop where
  stores : ∀ caller ∈ c.callers, c.canCome caller.call = true
  fronts : ∀ front ∈ c.session.services.things, front.store < c.session.stores.things.length
  requests : ∀ request ∈ c.requests, request.service < c.session.services.things.length
  built : ∀ n ∈ c.log.filterMap Entry.built?, n < c.session.services.things.length
  ordered : (c.log.filterMap Entry.built?).Pairwise (· < ·)

theorem inv_start (world : World) (stores : List Store) (settings : Settings) :
    Inv settings (start world stores settings) := by
  refine ⟨rfl, trivial, rfl, ?_, ?_, ?_, ?_, ?_⟩ <;> simp [start]

theorem shelved_start (world : World) (stores : List Store) (settings : Settings) :
    Shelved (start world stores settings) := by
  refine ⟨?_, ?_, ?_, ?_, ?_⟩ <;> simp [start, Session.Shelf.empty]

/-- A caller is somewhere else now, and knows no more than before. -/
theorem Inv.moved {later : Place} {holder : Option Nat} (h : Inv settings c)
    (hi : c.callers[i]? = some ⟨call, place⟩) (hreply : later.reply? = place.reply?)
    (hinside : later.isInside = true ↔ holder = some i)
    (hothers : ∀ {j : Nat}, j ≠ i → (holder = some j ↔ c.holder = some j))
    (hbuilding : later = .building → c.pipeline.running = none ∧ call.isStart = true) :
    Inv settings (c.moved holder i ⟨call, later⟩) := by
  obtain ⟨hlt, -⟩ := List.getElem?_eq_some_iff.1 hi
  refine ⟨h.asks, h.lawful, h.running, ?_, ?_, ?_, ?_, ?_⟩
  · intro j caller hj
    obtain ⟨rfl, rfl⟩ | ⟨hne, hj⟩ := getElem?_set_cases hj
    · exact hinside
    · exact (h.inside hj).trans (hothers hne).symm
  · intro j hj
    simp only [Crowd.moved, List.length_set]
    by_cases hne : j = i
    · exact hne ▸ hlt
    · exact h.held ((hothers hne).1 hj)
  · intro j other hj
    obtain ⟨rfl, heq⟩ | ⟨-, hj⟩ := getElem?_set_cases hj
    · cases heq
      exact hbuilding rfl
    · exact h.building hj
  · intro j caller hj
    obtain ⟨rfl, rfl⟩ | ⟨-, hj⟩ := getElem?_set_cases hj
    · rw [hreply]
      exact h.replies hi
    · exact h.replies hj
  · intro e he
    simpa [Crowd.moved] using h.known e he

/-- What was done for a caller in the lock is written down. -/
theorem Inv.settle (h : Inv settings c) (hi : c.callers[i]? = some ⟨call, place⟩)
    (hinside : place.isInside = true) (hreply : place.reply? = none) (session : Session)
    (hfits : Entry.Fits c.pipeline.running ⟨i, call, attempt, reply⟩) :
    Inv settings ({ c with
      session
      pipeline := { c.pipeline with
        running := Entry.leaves c.pipeline.running ⟨i, call, attempt, reply⟩ } }.settle i call
          attempt reply) := by
  have hholder := (h.inside hi).1 hinside
  obtain ⟨hlt, -⟩ := List.getElem?_eq_some_iff.1 hi
  refine ⟨h.asks, ?_, ?_, ?_, ?_, ?_, ?_, ?_⟩
  · refine isLawful_append.2 ⟨h.lawful, ?_, trivial⟩
    rwa [h.running]
  · simp [Crowd.settle, h.running]
  · intro j caller hj
    obtain ⟨rfl, rfl⟩ | ⟨-, hj⟩ := getElem?_set_cases hj
    · exact iff_of_true rfl hholder
    · exact h.inside hj
  · intro j hj
    simp only [Crowd.settle, List.length_set]
    exact h.held hj
  · intro j other hj
    obtain ⟨-, heq⟩ | ⟨hne, hj⟩ := getElem?_set_cases hj
    · cases heq
    · -- nobody else is in the lock
      have hother := (h.inside hj).1 rfl
      rw [hholder] at hother
      exact absurd (Option.some.inj hother).symm hne
  · intro j caller hj
    simp only [Crowd.settle, List.filter_append, List.map_append]
    obtain ⟨rfl, rfl⟩ | ⟨hne, hj⟩ := getElem?_set_cases hj
    · have hnone := h.replies hi
      simp only [hreply] at hnone
      simp [hnone, Place.reply?]
    · have hskip : (i == j) = false := by simpa using Ne.symm hne
      simp [h.replies hj, hskip]
  · intro e he
    simp only [Crowd.settle, List.length_set]
    rcases List.mem_append.1 he with he | he
    · exact h.known e he
    · obtain rfl := List.mem_singleton.1 he
      exact hlt

theorem Inv.turn (h : Inv settings c) (hi : c.callers[i]? = some caller) :
    Inv settings (c.turn i caller) := by
  have hturns := turn_turns c i caller
  generalize c.turn i caller = later at hturns
  cases hturns with
  | waits => exact h
  | enters hfree =>
    refine h.moved hi rfl (iff_of_true rfl rfl) ?_ (fun hb => by cases hb)
    intro j hne
    rw [hfree]
    exact iff_of_false (fun hj => hne (Option.some.inj hj).symm) (fun hj => by cases hj)
  | goesOn hstart hstopped =>
    exact h.moved hi rfl (h.inside hi) (fun _ => Iff.rfl) (fun _ => ⟨hstopped, hstart⟩)
  | looks hfits => exact h.settle hi rfl rfl c.session hfits
  | builds hmake =>
    refine h.settle hi rfl rfl _ ?_
    rw [(h.building hi).1]
    exact fits_attempt (isStart_of_maker? hmake)
  | leaves =>
    refine h.moved hi rfl (iff_of_false Bool.false_ne_true (fun hj => by cases hj)) ?_
      (fun hb => by cases hb)
    intro j hne
    rw [(h.inside hi).1 rfl]
    exact iff_of_false (fun hj => by cases hj) (fun hj => hne (Option.some.inj hj).symm)

/-- Whoever comes has nothing yet that is written down. -/
theorem Inv.come (h : Inv settings c) (call : Call) :
    Inv settings { c with callers := c.callers ++ [⟨call, .coming⟩] } := by
  refine ⟨h.asks, h.lawful, h.running, ?_, ?_, ?_, ?_, ?_⟩
  · intro j caller hj
    obtain hj | ⟨rfl, rfl⟩ := getElem?_append_cases hj
    · exact h.inside hj
    · exact iff_of_false Bool.false_ne_true fun hheld => Nat.lt_irrefl _ (h.held hheld)
  · intro j hj
    rw [List.length_append]
    exact Nat.lt_add_right _ (h.held hj)
  · intro j other hj
    obtain hj | ⟨-, heq⟩ := getElem?_append_cases hj
    · exact h.building hj
    · cases heq
  · intro j caller hj
    obtain hj | ⟨rfl, rfl⟩ := getElem?_append_cases hj
    · exact h.replies hj
    · have hnone : c.log.filter (·.caller == c.callers.length) = [] := by
        refine List.filter_eq_nil_iff.2 fun e he => ?_
        simpa using Nat.ne_of_lt (h.known e he)
      simp [hnone, Place.reply?]
  · intro e he
    rw [List.length_append]
    exact Nat.lt_add_right _ (h.known e he)

/-- What happens out of the lock is all the same to the callers. -/
theorem Inv.elsewhere (h : Inv settings c) (session : Session) (requests : List Request) :
    Inv settings { c with session, requests } :=
  ⟨h.asks, h.lawful, h.running, h.inside, h.held, h.building, h.replies, h.known⟩

/-! ## Stores and services -/

theorem canCome_iff : c.canCome call = true ↔
    ∀ store, call = .startInFront store → store < c.session.stores.things.length := by
  cases call <;> simp [canCome, Session.Shelf.get?]

theorem canCome_mono {later : Crowd} (h : c.canCome call = true)
    (hle : c.session.stores.things.length ≤ later.session.stores.things.length) :
    later.canCome call = true :=
  canCome_iff.2 fun store hc => Nat.lt_of_lt_of_le (canCome_iff.1 h store hc) hle

/-- A caller still wants what it wanted, wherever it is. -/
theorem Shelved.canCome_set (h : Shelved c) (hi : c.callers[i]? = some ⟨call, place⟩)
    (later : Place) : ∀ caller ∈ c.callers.set i ⟨call, later⟩, c.canCome caller.call = true := by
  intro caller hm
  rcases List.mem_or_eq_of_mem_set hm with hm | rfl
  · exact h.stores caller hm
  · exact h.stores ⟨call, place⟩ (List.mem_of_getElem? hi)

theorem Shelved.moved {holder : Option Nat} {later : Place} (h : Shelved c)
    (hi : c.callers[i]? = some ⟨call, place⟩) : Shelved (c.moved holder i ⟨call, later⟩) :=
  ⟨h.canCome_set hi later, h.fronts, h.requests, h.built, h.ordered⟩

theorem settle_built (c : Crowd) (i : Nat) (call : Call)
    (attempt : Option (Except ConfigError Nat)) (reply : Reply) :
    (c.settle i call attempt reply).log.filterMap Entry.built? =
      c.log.filterMap Entry.built? ++ (Entry.built? ⟨i, call, attempt, reply⟩).toList := by
  simp only [settle, List.filterMap_append]
  cases h : Entry.built? ⟨i, call, attempt, reply⟩ <;> simp [h]

/-- Nothing was built for a caller. -/
theorem Shelved.settle_none (h : Shelved c) (hi : c.callers[i]? = some ⟨call, place⟩)
    (pipeline : Pipeline Nat) : Shelved ({ c with pipeline }.settle i call none reply) := by
  have hsame : ({ c with pipeline }.settle i call none reply).log.filterMap Entry.built? =
      c.log.filterMap Entry.built? := by
    rw [settle_built]
    exact List.append_nil _
  refine ⟨h.canCome_set hi _, h.fronts, h.requests, ?_, ?_⟩
  · rw [hsame]
    exact h.built
  · rw [hsame]
    exact h.ordered

/-- An instance was built for a caller, or could not be built. -/
theorem Shelved.settle_some {later : Session} {result : Except ConfigError Nat} (h : Shelved c)
    (hi : c.callers[i]? = some ⟨call, place⟩)
    (hbuilds : Session.Builds settings c.session result later) (pipeline : Pipeline Nat) :
    Shelved ({ c with session := later, pipeline }.settle i call (some result) reply) := by
  have hstores : c.session.stores.things.length ≤ later.stores.things.length := by
    cases hbuilds with
    | failed _ hle => exact hle
    | built _ _ hle => exact hle
  have hcallers : ∀ caller ∈ c.callers.set i ⟨call, .leaving reply⟩,
      ({ c with session := later, pipeline }.settle i call (some result) reply).canCome caller.call
        = true := fun caller hm => canCome_mono (h.canCome_set hi _ caller hm) hstores
  have hbuilt := settle_built { c with session := later, pipeline } i call (some result) reply
  cases hbuilds with
  | failed hservices _ =>
    rw [show Entry.built? _ = none from rfl, Option.toList_none, List.append_nil] at hbuilt
    refine ⟨hcallers, ?_, ?_, ?_, ?_⟩
    · intro front hm
      simp only [Crowd.settle, hservices] at hm
      exact Nat.lt_of_lt_of_le (h.fronts front hm) hstores
    · intro request hm
      simp only [Crowd.settle, hservices]
      exact h.requests request hm
    · rw [hbuilt]
      simp only [Crowd.settle, hservices]
      exact h.built
    · rw [hbuilt]
      exact h.ordered
  | built hservices hstore _ =>
    rw [show Entry.built? _ = some c.session.services.things.length from rfl,
      Option.toList_some] at hbuilt
    refine ⟨hcallers, ?_, ?_, ?_, ?_⟩
    · intro front hm
      simp only [Crowd.settle, hservices, List.mem_append, List.mem_singleton] at hm
      rcases hm with hm | rfl
      · exact Nat.lt_of_lt_of_le (h.fronts front hm) hstores
      · exact hstore
    · intro request hm
      simp only [Crowd.settle, hservices, List.length_append, List.length_singleton]
      exact Nat.lt_succ_of_lt (h.requests request hm)
    · rw [hbuilt]
      simp only [Crowd.settle, hservices, List.length_append, List.length_singleton]
      intro n hn
      rcases List.mem_append.1 hn with hn | hn
      · exact Nat.lt_succ_of_lt (h.built n hn)
      · exact Nat.lt_succ_of_le (Nat.le_of_eq (List.mem_singleton.1 hn))
    · rw [hbuilt]
      refine List.pairwise_append.2 ⟨h.ordered, List.pairwise_singleton _ _, ?_⟩
      intro n hn m hm
      exact List.mem_singleton.1 hm ▸ h.built n hn

theorem Shelved.turn (h : Shelved c) (hi : c.callers[i]? = some caller) :
    Shelved (c.turn i caller) := by
  have hcome := h.stores caller (List.mem_of_getElem? hi)
  have hturns := turn_turns c i caller
  generalize c.turn i caller = later at hturns
  cases hturns with
  | waits => exact h
  | enters hfree => exact h.moved hi
  | goesOn hstart hstopped => exact h.moved hi
  | looks hfits => exact h.settle_none hi _
  | builds hmake => exact h.settle_some hi (maker_builds hmake hcome _) _
  | leaves => exact h.moved hi

/-! ## Requests -/

variable {request : Request} {front : Session.Front} {store : Store}

/-- A request finds its service, and the store behind it. -/
theorem Shelved.work_eq (h : Shelved c) (hk : c.requests[k]? = some request) :
    ∃ front store, c.session.services.get? request.service = some front ∧
      c.session.stores.get? front.store = some store ∧
      c.work k request =
        let outcome := Request.step request front store c.session.world
        { c with
          session := { c.session with
            world := outcome.2.2.2
            stores := c.session.stores.set front.store outcome.2.2.1
            services := c.session.services.set request.service
              { front with service := outcome.2.1 } }
          requests := c.requests.set k { request with caller.place := outcome.1 } } := by
  have hservice := h.requests request (List.mem_of_getElem? hk)
  obtain ⟨front, hfront⟩ : ∃ front, c.session.services.get? request.service = some front :=
    ⟨_, List.getElem?_eq_getElem hservice⟩
  have hbehind := h.fronts front (List.mem_of_getElem? hfront)
  obtain ⟨store, hstore⟩ : ∃ store, c.session.stores.get? front.store = some store :=
    ⟨_, List.getElem?_eq_getElem hbehind⟩
  refine ⟨front, store, hfront, hstore, ?_⟩
  simp only [work, hfront, hstore]
  rfl

theorem Shelved.work (h : Shelved c) (hk : c.requests[k]? = some request) :
    Shelved (c.work k request) := by
  obtain ⟨front, store, hfront, -, hwork⟩ := h.work_eq hk
  rw [hwork]
  generalize request.step front store c.session.world = outcome
  have hstores : (c.session.stores.set front.store outcome.2.2.1).things.length =
      c.session.stores.things.length := List.length_set
  have hservices : (c.session.services.set request.service
      { front with service := outcome.2.1 }).things.length =
      c.session.services.things.length := List.length_set
  refine ⟨?_, ?_, ?_, ?_, h.ordered⟩
  · intro caller hm
    exact canCome_mono (h.stores caller hm) (Nat.le_of_eq hstores.symm)
  · intro other hm
    dsimp only
    rw [hstores]
    rcases List.mem_or_eq_of_mem_set hm with hm | rfl
    · exact h.fronts other hm
    · exact h.fronts front (List.mem_of_getElem? hfront)
  · intro other hm
    dsimp only
    rw [hservices]
    rcases List.mem_or_eq_of_mem_set hm with hm | rfl
    · exact h.requests other hm
    · exact h.requests request (List.mem_of_getElem? hk)
  · intro n hn
    dsimp only
    rw [hservices]
    exact h.built n hn

/-! ## Events -/

theorem Inv.next (h : Inv settings c) (event : Event) : Inv settings (c.next event) := by
  cases event with
  | come call =>
    unfold Crowd.next
    dsimp only
    split
    · exact h.come call
    · exact h
  | turn i =>
    unfold Crowd.next
    dsimp only
    split
    · next caller hi => exact h.turn hi
    · exact h
  | ask service address =>
    unfold Crowd.next
    dsimp only
    split
    · exact h.elsewhere _ _
    · exact h
  | work k =>
    unfold Crowd.next Crowd.work
    dsimp only
    split
    · split
      · exact h
      · split
        · exact h
        · exact h.elsewhere _ _
    · exact h
  | outside change => exact h.elsewhere _ _

theorem Shelved.next (h : Shelved c) (event : Event) : Shelved (c.next event) := by
  cases event with
  | come call =>
    unfold Crowd.next
    dsimp only
    split
    · next hc =>
      refine ⟨?_, h.fronts, h.requests, h.built, h.ordered⟩
      intro caller hm
      rcases List.mem_append.1 hm with hm | hm
      · exact h.stores caller hm
      · obtain rfl := List.mem_singleton.1 hm
        exact hc
    · exact h
  | turn i =>
    unfold Crowd.next
    dsimp only
    split
    · next caller hi => exact h.turn hi
    · exact h
  | ask service address =>
    unfold Crowd.next
    dsimp only
    split
    · next hservice =>
      refine ⟨h.stores, h.fronts, ?_, h.built, h.ordered⟩
      intro request hm
      rcases List.mem_append.1 hm with hm | hm
      · exact h.requests request hm
      · obtain rfl := List.mem_singleton.1 hm
        simpa [Session.Shelf.get?] using hservice
    · exact h
  | work k =>
    unfold Crowd.next
    dsimp only
    split
    · next request hk => exact h.work hk
    · exact h
  | outside change => exact ⟨h.stores, h.fronts, h.requests, h.built, h.ordered⟩

theorem Inv.run (h : Inv settings c) (events : List Event) : Inv settings (c.run events) := by
  induction events generalizing c with
  | nil => exact h
  | cons event events ih => exact ih (h.next event)

theorem Shelved.run (h : Shelved c) (events : List Event) : Shelved (c.run events) := by
  induction events generalizing c with
  | nil => exact h
  | cons event events ih => exact ih (h.next event)

end Crowd

end Gazetteer.Pipeline
