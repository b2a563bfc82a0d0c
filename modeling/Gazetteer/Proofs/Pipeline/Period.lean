/-
Gazetteer.Proofs.Pipeline.Period — one instance for each period, whoever calls.

An instance that is built is new, and what becomes of it then is the business of its
own requests: neither callers nor the world lay a hand on a service. With what the
log says about periods this is all that a pipeline promises.
-/
import Gazetteer.Proofs.Pipeline.Crowd

namespace Gazetteer.Pipeline

open Members

variable {c later : Crowd} {i j k n : Nat} {caller : Caller} {call : Call} {settings : Settings}
  {event : Event} {request : Request} {front : Session.Front}

/-- The event is a turn of the caller of a number. -/
def Event.isTurn (i : Nat) : Event → Bool
  | turn j => j == i
  | come _ | ask .. | work _ | outside _ => false

/-- The event is a step of the request of a number. -/
def Event.isWork (k : Nat) : Event → Bool
  | work j => j == k
  | come _ | turn _ | ask .. | outside _ => false

/-- After how many of its own turns at the most a caller is through, if it gets into the lock. -/
def Place.left : Place → Nat
  | coming => 4
  | looking => 3
  | building => 2
  | leaving _ => 1
  | returned _ => 0

namespace Crowd

/-! ## What an event does to the services -/

/-- An event adds at most one entry to the log. A build is tried with the settings and with things as
they are; if it succeeds there is a new service, which has answered nothing yet. The services that
are there stay as they are, but for the one whose request takes a step. -/
structure Follows (settings : Settings) (c : Crowd) (event : Event) (later : Crowd) : Prop where
  log : later.log = c.log ∨ ∃ e, later.log = c.log ++ [e]
  tried : ∀ {e : Entry} {result : Except ConfigError Nat}, later.log = c.log ++ [e] →
    e.attempt = some result →
    ∃ make, maker? e.call = some make ∧ result = (make settings c.session).1
  fresh : ∀ {e : Entry} {n : Nat}, later.log = c.log ++ [e] → e.built? = some n →
    c.session.services.get? n = none ∧
      ∃ store, later.session.services.get? n = some ⟨settings.newService, store⟩
  kept : ∀ {n : Nat} {front : Session.Front}, c.session.services.get? n = some front →
    later.session.services.get? n = some front ∨
      ∃ k request store, event = .work k ∧ c.requests[k]? = some request ∧ request.service = n ∧
        c.session.stores.get? front.store = some store ∧
        later.session.services.get? n =
          some { front with service := (request.step front store c.session.world).2.1 } ∧
        later.requests[k]? = some { request with
          caller.place := (request.step front store c.session.world).1 }

/-- An event that writes nothing down. -/
theorem Follows.of_quiet (hlog : later.log = c.log)
    (hkept : ∀ {n : Nat} {front : Session.Front}, c.session.services.get? n = some front →
      later.session.services.get? n = some front) :
    Follows settings c event later := by
  have hnot : ∀ {e : Entry}, later.log ≠ c.log ++ [e] := by
    intro e he
    simpa using congrArg List.length (hlog.symm.trans he)
  exact ⟨.inl hlog, fun he => absurd he hnot, fun he => absurd he hnot, fun h => .inl (hkept h)⟩

theorem follows_turn (h : Shelved c) (hi : c.callers[i]? = some caller) :
    Follows c.pipeline.settings c event (c.turn i caller) := by
  have hcome := h.stores caller (List.mem_of_getElem? hi)
  have hturns := turn_turns c i caller
  generalize c.turn i caller = later at hturns
  cases hturns with
  | waits => exact .of_quiet rfl id
  | enters hfree => exact .of_quiet rfl id
  | goesOn hstart hstopped => exact .of_quiet rfl id
  | leaves => exact .of_quiet rfl id
  | looks hfits =>
    refine ⟨.inr ⟨_, rfl⟩, ?_, ?_, fun hn => .inl hn⟩
    · intro e result he hattempt
      obtain rfl := List.singleton_inj.1 (List.append_cancel_left he)
      cases hattempt
    · intro e n he hbuilt
      obtain rfl := List.singleton_inj.1 (List.append_cancel_left he)
      cases hbuilt
  | @builds call make hmake =>
    have hbuilds := maker_builds hmake hcome c.pipeline.settings
    refine ⟨.inr ⟨_, rfl⟩, ?_, ?_, ?_⟩
    · intro e result he hattempt
      obtain rfl := List.singleton_inj.1 (List.append_cancel_left he)
      exact ⟨_, hmake, (Option.some.inj hattempt).symm⟩
    · intro e n he hbuilt
      obtain rfl := List.singleton_inj.1 (List.append_cancel_left he)
      have hok : (make c.pipeline.settings c.session).1 = .ok n :=
        Option.some.inj (Entry.built?_eq_some.1 hbuilt)
      rw [hok] at hbuilds
      exact hbuilds.get?_built
    · intro n front hn
      exact .inl (hbuilds.get?_services hn)

theorem next_work (hk : c.requests[k]? = some request) : c.next (.work k) = c.work k request := by
  simp only [next, hk]

theorem Shelved.follows (h : Shelved c) (event : Event) :
    Follows c.pipeline.settings c event (c.next event) := by
  cases event with
  | come call =>
    unfold Crowd.next
    dsimp only
    split <;> exact .of_quiet rfl id
  | turn i =>
    unfold Crowd.next
    dsimp only
    split
    · next caller hi => exact follows_turn h hi
    · exact .of_quiet rfl id
  | ask service address =>
    unfold Crowd.next
    dsimp only
    split <;> exact .of_quiet rfl id
  | outside change => exact .of_quiet rfl id
  | work k =>
    cases hk : c.requests[k]? with
    | none =>
      have hnext : c.next (.work k) = c := by simp only [Crowd.next, hk]
      rw [hnext]
      exact .of_quiet rfl id
    | some request =>
      obtain ⟨front, store, hfront, hstore, hwork⟩ := h.work_eq hk
      rw [next_work hk, hwork]
      obtain ⟨hlt, -⟩ := List.getElem?_eq_some_iff.1 hk
      obtain ⟨hservice, -⟩ := List.getElem?_eq_some_iff.1 hfront
      refine ⟨.inl rfl, ?_, ?_, ?_⟩
      · intro e result he
        simp at he
      · intro e n he
        simp at he
      · intro n other hn
        by_cases hne : request.service = n
        · subst hne
          obtain rfl := Option.some.inj (hfront.symm.trans hn)
          exact .inr ⟨k, request, store, rfl, hk, rfl, hstore, List.getElem?_set_self hservice,
            List.getElem?_set_self hlt⟩
        · exact .inl ((List.getElem?_set_ne hne).trans hn)

/-! ## How far callers and requests are -/

/-- A turn of a caller is all the same to the requests. -/
theorem turn_requests (c : Crowd) (i : Nat) (caller : Caller) :
    (c.turn i caller).requests = c.requests := by
  have hturns := turn_turns c i caller
  generalize c.turn i caller = later at hturns
  cases hturns <;> rfl

theorem turn_callers_of_ne (hne : j ≠ i) (c : Crowd) (caller : Caller) :
    (c.turn j caller).callers[i]? = c.callers[i]? := by
  have hturns := turn_turns c j caller
  generalize c.turn j caller = later at hturns
  cases hturns with
  | waits => rfl
  | _ => exact List.getElem?_set_ne hne

/-- Whatever else happens, a request stays where it is. -/
theorem Shelved.next_request_idle (h : Shelved c) (hk : c.requests[k]? = some request)
    (hidle : event.isWork k = false) : (c.next event).requests[k]? = some request := by
  cases event with
  | come call =>
    unfold Crowd.next
    dsimp only
    split <;> exact hk
  | turn i =>
    unfold Crowd.next
    dsimp only
    split
    · next caller hi => rw [turn_requests, hk]
    · exact hk
  | ask service address =>
    unfold Crowd.next
    dsimp only
    split
    · obtain ⟨hlt, -⟩ := List.getElem?_eq_some_iff.1 hk
      exact (List.getElem?_append_left hlt).trans hk
    · exact hk
  | outside change => exact hk
  | work j =>
    have hne : j ≠ k := by simpa [Event.isWork] using hidle
    cases hj : c.requests[j]? with
    | none =>
      have hnext : c.next (.work j) = c := by simp only [Crowd.next, hj]
      rw [hnext, hk]
    | some other =>
      obtain ⟨front, store, -, -, hwork⟩ := h.work_eq hj
      rw [next_work hj, hwork]
      exact (List.getElem?_set_ne hne).trans hk

/-- A request goes on with its own steps only, which bring it nearer to the end. -/
theorem Shelved.next_request (h : Shelved c) (hk : c.requests[k]? = some request) (event : Event) :
    ∃ place, (c.next event).requests[k]? = some { request with caller.place := place } ∧
      place.left ≤ request.caller.place.left - (event.isWork k).toNat := by
  cases hwork : event.isWork k with
  | false => exact ⟨_, h.next_request_idle hk hwork, Nat.le_refl _⟩
  | true =>
    obtain rfl : event = .work k := by
      cases event <;> simp_all [Event.isWork]
    obtain ⟨front, store, -, -, heq⟩ := h.work_eq hk
    obtain ⟨hlt, -⟩ := List.getElem?_eq_some_iff.1 hk
    rw [next_work hk, heq]
    exact ⟨_, List.getElem?_set_self hlt, Service.left_step request.caller.place Store.ask
      request.caller.address front.service (store, c.session.world)⟩

theorem Shelved.run_request (h : Shelved c) (hk : c.requests[k]? = some request)
    (events : List Event) :
    ∃ place, (c.run events).requests[k]? = some { request with caller.place := place } ∧
      place.left ≤ request.caller.place.left - events.countP (·.isWork k) := by
  induction events generalizing c request with
  | nil => exact ⟨_, hk, Nat.le_refl _⟩
  | cons event events ih =>
    obtain ⟨place, hplace, hleft⟩ := h.next_request hk event
    obtain ⟨later, hlater, hless⟩ := ih (h.next event) hplace
    refine ⟨later, hlater, ?_⟩
    rw [countP_cons]
    dsimp only at hless
    omega

theorem lookForInstance_caller (hlt : i < c.callers.length) (call : Call) :
    ∃ place, (c.lookForInstance i call).callers[i]? = some ⟨call, place⟩ ∧ place.left ≤ 2 := by
  unfold lookForInstance
  split
  · exact ⟨_, settle_callers hlt, Nat.le_succ 1⟩
  · have hbuilding : (c.moved c.holder i ⟨call, .building⟩).callers[i]? = some ⟨call, .building⟩ :=
      moved_callers hlt
    exact ⟨.building, hbuilding, Nat.le_refl 2⟩

theorem look_caller (hlt : i < c.callers.length) (call : Call) :
    ∃ place, (c.look i call).callers[i]? = some ⟨call, place⟩ ∧ place.left ≤ 2 := by
  cases call with
  | start => exact lookForInstance_caller hlt .start
  | startInFront store => exact lookForInstance_caller hlt (.startInFront store)
  | _ => exact ⟨_, settle_callers hlt, Nat.le_succ 1⟩

/-- Whoever is in the lock gets on with every turn of its own. -/
theorem Inv.turn_caller (h : Inv settings c) (hi : c.callers[i]? = some caller)
    (hin : caller.place.left ≤ 3) :
    ∃ place, (c.turn i caller).callers[i]? = some ⟨caller.call, place⟩ ∧
      place.left ≤ caller.place.left - 1 := by
  obtain ⟨hlt, -⟩ := List.getElem?_eq_some_iff.1 hi
  obtain ⟨call, place⟩ := caller
  cases place with
  | coming => exact absurd hin (Nat.not_succ_le_self 3)
  | looking => exact look_caller hlt call
  | building =>
    obtain ⟨-, hstart⟩ := h.building hi
    obtain ⟨make, hmake⟩ : ∃ make, maker? call = some make := by
      cases call <;> first | exact ⟨_, rfl⟩ | cases hstart
    have hturn : c.turn i ⟨call, .building⟩ = c.build i call make := by
      simp only [Crowd.turn, hmake]
    rw [hturn]
    exact ⟨_, settle_callers hlt, Nat.le_refl _⟩
  | leaving reply => exact ⟨.returned reply, moved_callers hlt, Nat.le_refl _⟩
  | returned reply => exact ⟨_, hi, Nat.le_refl _⟩

/-- Whatever else happens, a caller stays where it is. -/
theorem next_caller_idle (hi : c.callers[i]? = some caller) (hidle : event.isTurn i = false) :
    (c.next event).callers[i]? = some caller := by
  cases event with
  | come call =>
    unfold next
    dsimp only
    split
    · obtain ⟨hlt, -⟩ := List.getElem?_eq_some_iff.1 hi
      exact (List.getElem?_append_left hlt).trans hi
    · exact hi
  | turn j =>
    have hne : j ≠ i := by simpa [Event.isTurn] using hidle
    unfold next
    dsimp only
    split
    · next other hj => rw [turn_callers_of_ne hne, hi]
    · exact hi
  | ask service address =>
    unfold next
    dsimp only
    split <;> exact hi
  | work k =>
    unfold next work
    dsimp only
    split
    · split
      · exact hi
      · split <;> exact hi
    · exact hi
  | outside change => exact hi

theorem Inv.next_caller (h : Inv settings c) (hi : c.callers[i]? = some caller)
    (hin : caller.place.left ≤ 3) (event : Event) :
    ∃ place, (c.next event).callers[i]? = some ⟨caller.call, place⟩ ∧
      place.left ≤ caller.place.left - (event.isTurn i).toNat := by
  cases hturn : event.isTurn i with
  | false => exact ⟨_, next_caller_idle hi hturn, Nat.le_refl _⟩
  | true =>
    obtain rfl : event = .turn i := by
      cases event <;> simp_all [Event.isTurn]
    rw [next_turn hi]
    exact h.turn_caller hi hin

theorem Inv.run_caller (h : Inv settings c) (hi : c.callers[i]? = some caller)
    (hin : caller.place.left ≤ 3) (events : List Event) :
    ∃ place, (c.run events).callers[i]? = some ⟨caller.call, place⟩ ∧
      place.left ≤ caller.place.left - events.countP (·.isTurn i) := by
  induction events generalizing c caller with
  | nil => exact ⟨_, hi, Nat.le_refl _⟩
  | cons event events ih =>
    obtain ⟨place, hplace, hleft⟩ := h.next_caller hi hin event
    obtain ⟨later, hlater, hless⟩ := ih (h.next event) hplace (by dsimp only; omega)
    refine ⟨later, hlater, ?_⟩
    rw [countP_cons]
    dsimp only at hless
    omega

/-! ## Runs -/

/-- What is written down stays written down. -/
theorem Shelved.log_run (h : Shelved c) (events : List Event) : c.log <+: (c.run events).log := by
  induction events generalizing c with
  | nil => exact List.prefix_rfl
  | cons event events ih =>
    refine List.IsPrefix.trans ?_ (ih (h.next event))
    rcases (h.follows event).log with hlog | ⟨e, hlog⟩
    · rw [hlog]
    · rw [hlog]
      exact List.prefix_append _ _

/-- Whoever is in the lock is out of it after three turns of its own. -/
theorem Inv.returned_of_three (h : Inv settings c) (hi : c.callers[i]? = some caller)
    (hin : caller.place.isInside = true) (events : List Event)
    (hthree : 3 ≤ events.countP (·.isTurn i)) :
    ∃ reply, (c.run events).callers[i]? = some ⟨caller.call, .returned reply⟩ := by
  have hleft : caller.place.left ≤ 3 := by
    cases hplace : caller.place <;> simp_all [Place.isInside, Place.left]
  obtain ⟨place, hplace, hless⟩ := h.run_caller hi hleft events
  have hthrough : place.left = 0 := by omega
  cases place with
  | returned reply => exact ⟨reply, hplace⟩
  | _ => cases hthrough

/-- Whoever asks a service that is there is answered after six steps of the request. -/
theorem Shelved.answered_of_six (h : Shelved c) (hn : (c.session.services.get? n).isSome = true)
    (address : String) (events : List Event)
    (hsix : 6 ≤ events.countP (·.isWork c.requests.length)) :
    ∃ location, ((c.next (.ask n address)).run events).requests[c.requests.length]? =
      some ⟨n, ⟨address, .returned location⟩⟩ := by
  have hasked : (c.next (.ask n address)).requests[c.requests.length]? =
      some ⟨n, ⟨address, .consulting⟩⟩ := by
    simp only [Crowd.next, hn, if_true]
    exact List.getElem?_concat_length
  obtain ⟨place, hplace, hleft⟩ := (h.next (.ask n address)).run_request hasked events
  have hthrough : place.left = 0 :=
    Nat.le_zero.1 (Nat.le_trans hleft (Nat.le_of_eq (Nat.sub_eq_zero_of_le hsix)))
  cases place with
  | returned location => exact ⟨location, hplace⟩
  | _ => cases hthrough

/-- What anybody was given is there. -/
theorem Shelved.get?_given (h : Shelved c) (hlawful : IsLawful none c.log) {e : Entry}
    (he : e ∈ c.log) (hn : e.given? = some n) : (c.session.services.get? n).isSome = true := by
  rcases given_mem_built hlawful he hn with hnone | hm
  · cases hnone
  · simpa [Session.Shelf.get?] using h.built n hm

/-- Callers of a pipeline, services that have been given out and the world may act in any order. The
pipeline is running exactly if an instance has been built since it was stopped last; builds are tried
only while it is not, a failure is told and leaves it as it was, a start of a running pipeline never
fails. In each period there is at most one instance, and exactly one if the period was ended by a
stop; it is the only one that anybody is given. Instances of different periods are different, and new
at first; nothing but its own requests touches a service, and whoever has been given one can ask it
ever after. Each caller is told what is written down for it, and none stays in the lock. -/
theorem one_instance_per_period (world : World) (stores : List Store) (settings : Settings)
    (events : List Event) :
    let now := (start world stores settings).run events
    (now.pipeline.isRunning = true ↔ BuiltSinceStop now.log) ∧
    (∀ before e after, now.log = before ++ e :: after → e.IsRight before) ∧
    (∀ before period after, now.log = before ++ (period ++ after) → BeginsPeriod before →
      (∀ e ∈ period, ¬ e.EndsPeriod) →
      (period.filterMap Entry.built?).length ≤ 1 ∧
      (∀ e ∈ period, ∀ n, e.given? = some n → period.filterMap Entry.built? = [n]) ∧
      (∀ e later, after = e :: later → e.EndsPeriod →
        ∃ n, period.filterMap Entry.built? = [n])) ∧
    (now.log.filterMap Entry.built?).Pairwise (· < ·) ∧
    (∀ i caller, now.callers[i]? = some caller →
      (now.log.filter (·.caller == i)).map (fun e => (e.call, e.reply)) =
        (caller.place.reply?.map (caller.call, ·)).toList) ∧
    (∀ i, now.holder = some i ↔
      ∃ caller, now.callers[i]? = some caller ∧ caller.place.isInside = true) ∧
    (∀ event, Follows settings now event (now.next event)) ∧
    (∀ later, now.log <+: (now.run later).log ∧
      (∀ i caller, now.callers[i]? = some caller → caller.place.isInside = true →
        3 ≤ later.countP (·.isTurn i) →
        ∃ reply, (now.run later).callers[i]? = some ⟨caller.call, .returned reply⟩) ∧
      (∀ e ∈ now.log, ∀ n address, e.given? = some n →
        6 ≤ later.countP (·.isWork now.requests.length) →
        ∃ location, ((now.next (.ask n address)).run later).requests[now.requests.length]? =
          some ⟨n, ⟨address, .returned location⟩⟩)) := by
  intro now
  have hnow : Inv settings now := (inv_start world stores settings).run events
  have hshelved : Shelved now := (shelved_start world stores settings).run events
  refine ⟨?_, ?_, ?_, hshelved.ordered, ?_, ?_, ?_, ?_⟩
  · rw [Pipeline.isRunning, ← hnow.running]
    exact runningAfter_none_isSome hnow.lawful
  · intro before e after hlog
    exact isRight_of_isLawful (hlog ▸ hnow.lawful)
  · intro before mid after hlog hbegins hmid
    exact period_of_isLawful (hlog ▸ hnow.lawful) hbegins hmid
  · intro i caller hi
    exact hnow.replies hi
  · intro i
    constructor
    · intro hheld
      obtain ⟨caller, hi⟩ : ∃ caller, now.callers[i]? = some caller :=
        ⟨_, List.getElem?_eq_getElem (hnow.held hheld)⟩
      exact ⟨caller, hi, (hnow.inside hi).2 hheld⟩
    · rintro ⟨caller, hi, hin⟩
      exact (hnow.inside hi).1 hin
  · intro event
    exact hnow.asks ▸ hshelved.follows event
  · intro later
    refine ⟨hshelved.log_run later, ?_, ?_⟩
    · intro i caller hi hin hthree
      exact hnow.returned_of_three hi hin later hthree
    · intro e he n address hn hsix
      exact hshelved.answered_of_six (hshelved.get?_given hnow.lawful he hn) address later hsix

end Crowd

end Gazetteer.Pipeline
