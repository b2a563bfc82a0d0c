/-
Gazetteer.Proofs.Pipeline.Turn — what a caller of a pipeline does when it is its turn.

To build an instance leaves the stores and services of a session where they are and,
if it succeeds, adds one service that has answered nothing yet. A turn of a caller is
one of a few things, which are listed once. Where nobody else calls, the turns of a
caller come to what the pipeline does when it is started.
-/
import Gazetteer.Proofs.Pipeline.Log
import Gazetteer.Proofs.Service.Crowd

namespace Gazetteer

/-! ## Building -/

/-- A new service as settings ask for. -/
def Settings.newService (settings : Settings) : Service :=
  ⟨if settings.cacheEnabled then some (.empty settings.cacheSize) else none, {}⟩

/-- What building leaves of a session: stores and services stay, and one more service if it
succeeds. -/
inductive Session.Builds (settings : Settings) (s : Session) :
    Except ConfigError Nat → Session → Prop where
  | failed {cause : ConfigError} {later : Session} (hservices : later.services = s.services)
      (hstores : s.stores.things.length ≤ later.stores.things.length) :
      Builds settings s (.error cause) later
  | built {store : Nat} {later : Session}
      (hservices : later.services.things = s.services.things ++ [⟨settings.newService, store⟩])
      (hstore : store < later.stores.things.length)
      (hstores : s.stores.things.length ≤ later.stores.things.length) :
      Builds settings s (.ok s.services.things.length) later

theorem Session.buildInFront_builds {store : Nat} {s : Session}
    (h : store < s.stores.things.length) (settings : Settings) :
    Builds settings s (buildInFront store settings s).1 (buildInFront store settings s).2 := by
  unfold buildInFront
  split
  · exact .failed rfl (Nat.le_refl _)
  · next service hcreate =>
    obtain rfl := Service.create_eq hcreate
    exact .built rfl h (Nat.le_refl _)

/-- It makes no difference if a store has been put on the shelf before. -/
theorem Session.Builds.of_stores {settings : Settings} {s later : Session} {world : World}
    {stores : Shelf Store} {result : Except ConfigError Nat}
    (h : Builds settings { s with world, stores } result later)
    (hstores : s.stores.things.length ≤ stores.things.length) : Builds settings s result later := by
  cases h with
  | failed hservices hlater => exact .failed hservices (Nat.le_trans hstores hlater)
  | built hservices hstore hlater => exact .built hservices hstore (Nat.le_trans hstores hlater)

theorem Session.build_builds (settings : Settings) (s : Session) :
    Builds settings s (build settings s).1 (build settings s).2 := by
  unfold build
  split
  · exact .failed rfl (Nat.le_refl _)
  · next store world hstore =>
    have hnew : s.stores.things.length < (s.stores.add store).2.things.length := by
      simp [Shelf.add]
    exact .of_stores (buildInFront_builds hnew settings) (Nat.le_of_lt hnew)

theorem Session.Builds.get?_services {settings : Settings} {s later : Session}
    {result : Except ConfigError Nat} {n : Nat} {front : Front}
    (h : Builds settings s result later) (hn : s.services.get? n = some front) :
    later.services.get? n = some front := by
  cases h with
  | failed hservices _ => rwa [hservices]
  | built hservices _ _ =>
    obtain ⟨hlt, -⟩ := List.getElem?_eq_some_iff.1 hn
    rwa [Shelf.get?, hservices, List.getElem?_append_left hlt]

/-- What has been built was not there before, and is new. -/
theorem Session.Builds.get?_built {settings : Settings} {s later : Session} {n : Nat}
    (h : Builds settings s (.ok n) later) :
    s.services.get? n = none ∧
      ∃ store, later.services.get? n = some ⟨settings.newService, store⟩ := by
  cases h with
  | @built store _ hservices _ _ =>
    refine ⟨List.getElem?_eq_none (Nat.le_refl _), store, ?_⟩
    rw [Shelf.get?, hservices]
    exact List.getElem?_concat_length

namespace Pipeline

variable {c : Crowd} {i : Nat} {call : Call} {reply : Reply}
  {make : Settings → Session → Except ConfigError Nat × Session}

/-- The caller is in the lock. -/
def Place.isInside : Place → Bool
  | looking | building | leaving _ => true
  | coming | returned _ => false

/-- The reply, once the caller knows it. -/
def Place.reply? : Place → Option Reply
  | leaving reply | returned reply => some reply
  | coming | looking | building => none

namespace Crowd

theorem isStart_of_maker? (h : maker? call = some make) : call.isStart = true := by
  cases call <;> first | rfl | cases h

theorem maker_builds (h : maker? call = some make) (hc : c.canCome call = true)
    (settings : Settings) :
    Session.Builds settings c.session (make settings c.session).1
      (make settings c.session).2 := by
  cases call with
  | start =>
    obtain rfl := Option.some.inj h
    exact Session.build_builds settings c.session
  | startInFront store =>
    obtain rfl := Option.some.inj h
    refine Session.buildInFront_builds ?_ settings
    simpa [canCome, Session.Shelf.get?] using hc
  | _ => cases h

/-! ## What a step of a caller does -/

/-- The crowd with another caller in the place of one, and somebody in the lock. -/
def moved (c : Crowd) (holder : Option Nat) (i : Nat) (caller : Caller) : Crowd :=
  { c with holder, callers := c.callers.set i caller }

/-- What a step of a caller can do. -/
inductive Turns (c : Crowd) (i : Nat) : Caller → Crowd → Prop where
  | waits {caller : Caller} : Turns c i caller c
  | enters {call : Call} (hfree : c.holder = none) :
      Turns c i ⟨call, .coming⟩ (c.moved (some i) i ⟨call, .looking⟩)
  | goesOn {call : Call} (hstart : call.isStart = true) (hstopped : c.pipeline.running = none) :
      Turns c i ⟨call, .looking⟩ (c.moved c.holder i ⟨call, .building⟩)
  | looks {call : Call} {reply : Reply}
      (hfits : Entry.Fits c.pipeline.running ⟨i, call, none, reply⟩) :
      Turns c i ⟨call, .looking⟩
        ({ c with pipeline := { c.pipeline with
            running := Entry.leaves c.pipeline.running ⟨i, call, none, reply⟩ } }.settle i call none
          reply)
  | builds {call : Call} {make : Settings → Session → Except ConfigError Nat × Session}
      (hmake : maker? call = some make) :
      Turns c i ⟨call, .building⟩
        ({ c with
          session := (make c.pipeline.settings c.session).2
          pipeline := { c.pipeline with
            running := Entry.leaves c.pipeline.running
              ⟨i, call, some (make c.pipeline.settings c.session).1,
                .started (make c.pipeline.settings c.session).1⟩ } }.settle i call
                  (some (make c.pipeline.settings c.session).1)
                  (.started (make c.pipeline.settings c.session).1))
  | leaves {call : Call} {reply : Reply} :
      Turns c i ⟨call, .leaving reply⟩ (c.moved none i ⟨call, .returned reply⟩)

theorem fits_attempt {result : Except ConfigError Nat} (h : call.isStart = true) :
    Entry.Fits none ⟨i, call, some result, .started result⟩ := by
  cases call with
  | start => exact ⟨result, rfl, rfl⟩
  | startInFront store => exact ⟨result, rfl, rfl⟩
  | _ => cases h

theorem leaves_attempt_none (running : Option Nat) (hc : call ≠ .stop) :
    Entry.leaves running ⟨i, call, none, reply⟩ = running := by
  simp [Entry.leaves, Entry.built?, hc]

theorem lookForInstance_turns (h : call.isStart = true) :
    Turns c i ⟨call, .looking⟩ (c.lookForInstance i call) := by
  have hstop : call ≠ .stop := by
    rintro rfl
    cases h
  unfold lookForInstance
  split
  · next n hn =>
    have hfits : Entry.Fits c.pipeline.running ⟨i, call, none, .started (.ok n)⟩ := by
      rw [hn]
      cases call <;> first | exact ⟨rfl, rfl⟩ | cases h
    have hlooks := Turns.looks hfits
    rwa [leaves_attempt_none _ hstop] at hlooks
  · next hn => exact .goesOn h hn

theorem look_turns (c : Crowd) (i : Nat) (call : Call) :
    Turns c i ⟨call, .looking⟩ (c.look i call) := by
  cases call with
  | start => exact lookForInstance_turns rfl
  | startInFront store => exact lookForInstance_turns rfl
  | resolver =>
    have hfits : Entry.Fits c.pipeline.running
        ⟨i, .resolver, none, .resolver c.pipeline.running⟩ := ⟨rfl, rfl⟩
    have hlooks := Turns.looks hfits
    rwa [leaves_attempt_none _ (by decide)] at hlooks
  | isRunning =>
    have hfits : Entry.Fits c.pipeline.running
        ⟨i, .isRunning, none, .flag c.pipeline.isRunning⟩ := ⟨rfl, rfl⟩
    have hlooks := Turns.looks hfits
    rwa [leaves_attempt_none _ (by decide)] at hlooks
  | stop =>
    have hfits : Entry.Fits c.pipeline.running ⟨i, .stop, none, .flag c.pipeline.isRunning⟩ :=
      ⟨rfl, rfl⟩
    exact .looks hfits

theorem build_turns (hmake : maker? call = some make) :
    Turns c i ⟨call, .building⟩ (c.build i call make) := by
  have hstop : call ≠ .stop := by
    rintro rfl
    cases hmake
  have hturns := Turns.builds (c := c) (i := i) hmake
  unfold build
  generalize make c.pipeline.settings c.session = outcome at hturns
  rcases outcome with ⟨_ | n, session⟩ <;>
    simpa [Entry.leaves, Entry.built?, hstop] using hturns

theorem turn_turns (c : Crowd) (i : Nat) (caller : Caller) :
    Turns c i caller (c.turn i caller) := by
  obtain ⟨call, place⟩ := caller
  cases place with
  | coming =>
    show Turns c i _ (if c.holder.isSome then c else _)
    split
    · exact .waits
    · next h => exact .enters (by simpa using h)
  | looking => exact look_turns c i call
  | building =>
    unfold turn
    dsimp only
    split
    · next make hmake => exact build_turns hmake
    · exact .waits
  | leaving reply => exact .leaves
  | returned reply => exact .waits

/-! ## A caller alone -/

theorem next_turn {caller : Caller} (hi : c.callers[i]? = some caller) :
    c.next (.turn i) = c.turn i caller := by
  simp only [next, hi]

theorem moved_callers {holder : Option Nat} {caller : Caller} (hlt : i < c.callers.length) :
    (c.moved holder i caller).callers[i]? = some caller :=
  List.getElem?_set_self hlt

theorem settle_callers {attempt : Option (Except ConfigError Nat)} (hlt : i < c.callers.length) :
    (c.settle i call attempt reply).callers[i]? = some ⟨call, .leaving reply⟩ :=
  List.getElem?_set_self hlt

/-- A caller has been told something, and the pipeline and what is around it are as given. -/
structure IsTold (i : Nat) (caller : Caller) (pipeline : Pipeline Nat) (session : Session)
    (c : Crowd) : Prop where
  caller : c.callers[i]? = some caller
  pipeline : c.pipeline = pipeline
  session : c.session = session

variable {pipeline : Pipeline Nat} {session : Session}

theorem IsTold.next_leaving (h : IsTold i ⟨call, .leaving reply⟩ pipeline session c) :
    IsTold i ⟨call, .returned reply⟩ pipeline session (c.next (.turn i)) := by
  obtain ⟨hlt, -⟩ := List.getElem?_eq_some_iff.1 h.caller
  rw [next_turn h.caller]
  exact ⟨moved_callers hlt, h.pipeline, h.session⟩

theorem IsTold.next_returned (h : IsTold i ⟨call, .returned reply⟩ pipeline session c) :
    IsTold i ⟨call, .returned reply⟩ pipeline session (c.next (.turn i)) := by
  rw [next_turn h.caller]
  exact h

/-- In the lock, three turns of a caller who starts come to a start of the pipeline. -/
theorem run_looking (hi : c.callers[i]? = some ⟨call, .looking⟩) (hmake : maker? call = some make) :
    IsTold i ⟨call, .returned (.started (c.pipeline.start make c.session).1)⟩
      (c.pipeline.start make c.session).2.1 (c.pipeline.start make c.session).2.2
      (((c.next (.turn i)).next (.turn i)).next (.turn i)) := by
  obtain ⟨hlt, -⟩ := List.getElem?_eq_some_iff.1 hi
  have hlook : c.next (.turn i) = c.lookForInstance i call := by
    rw [next_turn hi]
    cases call <;> first | rfl | cases hmake
  rw [hlook]
  unfold lookForInstance
  cases hrunning : c.pipeline.running with
  | some n =>
    have hstart : c.pipeline.start make c.session = (.ok n, c.pipeline, c.session) := by
      simp only [Pipeline.start, hrunning]
    rw [hstart]
    have htold : IsTold i ⟨call, .leaving (.started (.ok n))⟩ c.pipeline c.session
        (c.settle i call none (.started (.ok n))) := ⟨settle_callers hlt, rfl, rfl⟩
    exact htold.next_leaving.next_returned
  | none =>
    have hbuild : (c.moved c.holder i ⟨call, .building⟩).next (.turn i) =
        (c.moved c.holder i ⟨call, .building⟩).build i call make := by
      rw [next_turn (moved_callers hlt)]
      simp only [turn, hmake]
    show IsTold _ _ _ _ (((c.moved c.holder i ⟨call, .building⟩).next (.turn i)).next (.turn i))
    rw [hbuild]
    refine IsTold.next_leaving ?_
    have hlt : i < (c.moved c.holder i ⟨call, .building⟩).callers.length := by
      simpa [moved] using hlt
    rcases hmade : make c.pipeline.settings c.session with ⟨cause | n, session⟩
    · have hstart : c.pipeline.start make c.session = (.error cause, c.pipeline, session) := by
        simp only [Pipeline.start, hrunning, hmade]
      have hfailed : (c.moved c.holder i ⟨call, .building⟩).build i call make =
          ({ (c.moved c.holder i ⟨call, .building⟩) with session }.settle i call
            (some (.error cause)) (.started (.error cause))) := by
        simp only [build, moved, hmade]
      rw [hstart, hfailed]
      exact ⟨settle_callers hlt, rfl, rfl⟩
    · have hstart : c.pipeline.start make c.session =
          (.ok n, { c.pipeline with running := some n }, session) := by
        simp only [Pipeline.start, hrunning, hmade]
      have hbuilt : (c.moved c.holder i ⟨call, .building⟩).build i call make =
          ({ (c.moved c.holder i ⟨call, .building⟩) with
            session
            pipeline := { c.pipeline with running := some n } }.settle i call (some (.ok n))
              (.started (.ok n))) := by
        simp only [build, moved, hmade]
      rw [hstart, hbuilt]
      exact ⟨settle_callers hlt, rfl, rfl⟩

/-- Where nobody is in the lock, four turns of a caller who starts come to a start of the
pipeline. -/
theorem run_alone (hfree : c.holder = none) (hi : c.callers[i]? = some ⟨call, .coming⟩)
    (hmake : maker? call = some make) :
    IsTold i ⟨call, .returned (.started (c.pipeline.start make c.session).1)⟩
      (c.pipeline.start make c.session).2.1 (c.pipeline.start make c.session).2.2
      (c.run (List.replicate 4 (.turn i))) := by
  obtain ⟨hlt, -⟩ := List.getElem?_eq_some_iff.1 hi
  have henter : c.next (.turn i) = c.moved (some i) i ⟨call, .looking⟩ := by
    rw [next_turn hi]
    simp [turn, hfree, moved]
  show IsTold _ _ _ _ ((((c.next (.turn i)).next (.turn i)).next (.turn i)).next (.turn i))
  rw [henter]
  exact run_looking (c := c.moved (some i) i ⟨call, .looking⟩) (moved_callers hlt) hmake

end Crowd

end Pipeline

end Gazetteer
