/-
Gazetteer.Proofs.Pipeline.Log — what the log of a pipeline says about its periods.

A log is lawful if each entry fits the instance that the entries before it have left
running: whoever starts gets that instance, or tries to build one if there is none,
and whoever asks or stops is told whether there is one. From stop to stop, then, one
instance is built at the most, and it is the only one that anybody is given.
-/
import Gazetteer.Pipeline.Crowd

namespace Gazetteer.Pipeline

variable {running : Option Nat} {log more before : List Entry} {e : Entry} {n : Nat}

/-- A call that wants the pipeline to run. -/
def Call.isStart : Call → Bool
  | start | startInFront _ => true
  | resolver | isRunning | stop => false

namespace Entry

/-- The instance that was built. -/
def built? (e : Entry) : Option Nat :=
  match e.attempt with
  | some (.ok n) => some n
  | _ => none

/-- The instance that the caller was given. -/
def given? (e : Entry) : Option Nat :=
  match e.reply with
  | .started (.ok n) => some n
  | .resolver instance? => instance?
  | _ => none

/-- The pipeline was running, and was stopped. -/
def EndsPeriod (e : Entry) : Prop := e.call = .stop ∧ e.reply = .flag true

/-- The instance that is running after an entry. -/
def leaves (running : Option Nat) (e : Entry) : Option Nat :=
  if e.call = .stop then none else e.built?.or running

/-- What was done for a caller fits the running instance. -/
def Fits (running : Option Nat) (e : Entry) : Prop :=
  match e.call with
  | .start | .startInFront _ =>
    match running with
    | some n => e.attempt = none ∧ e.reply = .started (.ok n)
    | none => ∃ result, e.attempt = some result ∧ e.reply = .started result
  | .resolver => e.attempt = none ∧ e.reply = .resolver running
  | .isRunning | .stop => e.attempt = none ∧ e.reply = .flag running.isSome

end Entry

/-- The instance that is running after some entries. -/
def runningAfter (running : Option Nat) (log : List Entry) : Option Nat :=
  log.foldl Entry.leaves running

/-- Each entry fits the instance that those before it have left running. -/
def IsLawful (running : Option Nat) : List Entry → Prop
  | [] => True
  | e :: log => e.Fits running ∧ IsLawful (e.leaves running) log

/-- An instance has been built and the pipeline has not been stopped since. -/
def BuiltSinceStop (log : List Entry) : Prop :=
  ∃ before e later n, log = before ++ e :: later ∧ e.built? = some n ∧
    ∀ other ∈ later, other.call ≠ .stop

@[simp] theorem runningAfter_nil : runningAfter running [] = running := rfl

@[simp] theorem runningAfter_cons :
    runningAfter running (e :: log) = runningAfter (e.leaves running) log := rfl

@[simp] theorem runningAfter_append :
    runningAfter running (log ++ more) = runningAfter (runningAfter running log) more :=
  List.foldl_append

theorem isLawful_append : IsLawful running (log ++ more) ↔
    IsLawful running log ∧ IsLawful (runningAfter running log) more := by
  induction log generalizing running with
  | nil => simp [IsLawful]
  | cons e log ih => simp [IsLawful, ih, and_assoc]

/-! ## One entry -/

theorem Entry.Fits.start_running (h : e.Fits (some n)) (hc : e.call.isStart = true) :
    e.attempt = none ∧ e.reply = .started (.ok n) := by
  unfold Fits at h
  split at h
  · exact h
  · exact h
  all_goals simp_all [Call.isStart]

theorem Entry.Fits.start_stopped (h : e.Fits none) (hc : e.call.isStart = true) :
    ∃ result, e.attempt = some result ∧ e.reply = .started result := by
  unfold Fits at h
  split at h
  · exact h
  · exact h
  all_goals simp_all [Call.isStart]

theorem Entry.Fits.attempt_of_not_start (h : e.Fits running) (hc : e.call.isStart = false) :
    e.attempt = none := by
  unfold Fits at h
  split at h
  · simp_all [Call.isStart]
  · simp_all [Call.isStart]
  · exact h.1
  · exact h.1
  · exact h.1

/-- An instance is built only while none is running, and the caller is told what came of it. -/
theorem Entry.Fits.of_attempt {result : Except ConfigError Nat} (h : e.Fits running)
    (ha : e.attempt = some result) : running = none ∧ e.reply = .started result := by
  cases hc : e.call.isStart with
  | false => cases ha.symm.trans (h.attempt_of_not_start hc)
  | true =>
    cases running with
    | none =>
      obtain ⟨_, hattempt, hreply⟩ := h.start_stopped hc
      obtain rfl := Option.some.inj (ha.symm.trans hattempt)
      exact ⟨rfl, hreply⟩
    | some n => cases ha.symm.trans (h.start_running hc).1

theorem Entry.Fits.flag (h : e.Fits running) (hc : e.call = .isRunning ∨ e.call = .stop) :
    e.reply = .flag running.isSome := by
  unfold Fits at h
  rcases hc with hc | hc <;> rw [hc] at h <;> exact h.2

theorem Entry.Fits.resolver (h : e.Fits running) (hc : e.call = .resolver) :
    e.reply = .resolver running := by
  unfold Fits at h
  rw [hc] at h
  exact h.2

theorem Entry.built?_of_attempt (h : e.attempt = none) : e.built? = none := by
  simp [built?, h]

theorem Entry.built?_eq_some : e.built? = some n ↔ e.attempt = some (.ok n) := by
  unfold built?
  split <;> simp_all

/-- A stop has built nothing. -/
theorem Entry.Fits.built?_stop (h : e.Fits running) (hc : e.call = .stop) : e.built? = none :=
  built?_of_attempt (h.attempt_of_not_start (by rw [hc]; rfl))

/-- While an instance is running nothing is built, and only that instance is given. -/
theorem Entry.Fits.of_running (h : e.Fits (some n)) :
    e.built? = none ∧ ∀ m, e.given? = some m → m = n := by
  cases hc : e.call.isStart with
  | true =>
    obtain ⟨hattempt, hreply⟩ := h.start_running hc
    refine ⟨built?_of_attempt hattempt, ?_⟩
    intro m hm
    simpa [given?, hreply, eq_comm] using hm
  | false =>
    refine ⟨built?_of_attempt (h.attempt_of_not_start hc), ?_⟩
    intro m hm
    unfold Fits at h
    split at h
    · simp_all [Call.isStart]
    · simp_all [Call.isStart]
    all_goals simp_all [given?]

/-- While none is running, an instance is given only if it has been built. -/
theorem Entry.Fits.of_stopped (h : e.Fits none) : e.given? = e.built? := by
  cases hc : e.call.isStart with
  | true =>
    obtain ⟨result, hattempt, hreply⟩ := h.start_stopped hc
    cases result <;> simp [built?, given?, hattempt, hreply]
  | false =>
    have hattempt := h.attempt_of_not_start hc
    unfold Fits at h
    split at h
    · simp_all [Call.isStart]
    · simp_all [Call.isStart]
    all_goals simp_all [given?, built?]

/-! ## Since the last stop -/

/-- An instance is running exactly if one has been built since the last stop. -/
theorem runningAfter_isSome (h : IsLawful running log) :
    (runningAfter running log).isSome = true ↔
      BuiltSinceStop log ∨ (running.isSome = true ∧ ∀ e ∈ log, e.call ≠ .stop) := by
  induction log generalizing running with
  | nil => simp [BuiltSinceStop]
  | cons e log ih =>
    obtain ⟨hfits, hlater⟩ := h
    have hbuilt : BuiltSinceStop (e :: log) ↔ BuiltSinceStop log ∨
        (e.built?.isSome = true ∧ ∀ other ∈ log, other.call ≠ .stop) := by
      constructor
      · rintro ⟨before, entry, later, n, heq, hn, hstop⟩
        cases before with
        | nil =>
          obtain ⟨rfl, rfl⟩ := List.cons.inj heq
          exact .inr ⟨by simp [hn], hstop⟩
        | cons first before =>
          obtain ⟨rfl, rfl⟩ := List.cons.inj heq
          exact .inl ⟨before, entry, later, n, rfl, hn, hstop⟩
      · rintro (⟨before, entry, later, n, rfl, hn, hstop⟩ | ⟨hn, hstop⟩)
        · exact ⟨e :: before, entry, later, n, rfl, hn, hstop⟩
        · obtain ⟨n, hn⟩ := Option.isSome_iff_exists.1 hn
          exact ⟨[], e, log, n, rfl, hn, hstop⟩
    rw [runningAfter_cons, ih hlater, hbuilt]
    by_cases hc : e.call = .stop
    · simp [Entry.leaves, hc, hfits.built?_stop hc]
    · simp only [Entry.leaves, if_neg hc, Option.isSome_or, Bool.or_eq_true, List.forall_mem_cons]
      constructor
      · rintro (h | ⟨h | h, hstop⟩)
        · exact .inl (.inl h)
        · exact .inl (.inr ⟨h, hstop⟩)
        · exact .inr ⟨h, hc, hstop⟩
      · rintro ((h | ⟨h, hstop⟩) | ⟨h, -, hstop⟩)
        · exact .inl h
        · exact .inr ⟨.inl h, hstop⟩
        · exact .inr ⟨.inr h, hstop⟩

theorem runningAfter_none_isSome (h : IsLawful none log) :
    (runningAfter none log).isSome = true ↔ BuiltSinceStop log := by
  simpa using runningAfter_isSome h

/-- What was done for a caller is right, after all that was done before. -/
structure Entry.IsRight (before : List Entry) (e : Entry) : Prop where
  /-- An instance is built for a caller who starts while none is running, and for no other. -/
  attempt_iff : e.attempt ≠ none ↔ e.call.isStart = true ∧ ¬ BuiltSinceStop before
  told : ∀ result, e.attempt = some result → e.reply = .started result
  started : e.call.isStart = true → BuiltSinceStop before → ∃ n, e.reply = .started (.ok n)
  failed : ∀ cause, e.attempt = some (.error cause) → ¬ BuiltSinceStop (before ++ [e])
  flag : e.call = .isRunning ∨ e.call = .stop →
    ∃ value, e.reply = .flag value ∧ (value = true ↔ BuiltSinceStop before)
  resolver : e.call = .resolver →
    ∃ instance?, e.reply = .resolver instance? ∧ (instance?.isSome = true ↔ BuiltSinceStop before)

theorem isRight_of_isLawful (h : IsLawful none (before ++ e :: log)) : e.IsRight before := by
  obtain ⟨hbefore, hfits, -⟩ := isLawful_append.1 h
  have hsince := runningAfter_none_isSome hbefore
  refine ⟨?_, ?_, ?_, ?_, ?_, ?_⟩
  · rw [← hsince]
    cases hc : e.call.isStart with
    | true =>
      cases hrunning : runningAfter none before with
      | none =>
        obtain ⟨result, hattempt, -⟩ := (hrunning ▸ hfits).start_stopped hc
        simp [hattempt]
      | some n => simp [((hrunning ▸ hfits).start_running hc).1]
    | false => simp [hfits.attempt_of_not_start hc]
  · intro result hattempt
    exact (hfits.of_attempt hattempt).2
  · intro hc hbuilt
    obtain ⟨n, hn⟩ := Option.isSome_iff_exists.1 (hsince.2 hbuilt)
    exact ⟨n, ((hn ▸ hfits).start_running hc).2⟩
  · intro cause hattempt hbuilt
    have hlater : IsLawful none (before ++ [e]) := isLawful_append.2 ⟨hbefore, hfits, trivial⟩
    have hnone := (hfits.of_attempt hattempt).1
    rw [← runningAfter_none_isSome hlater] at hbuilt
    simp [hnone, Entry.leaves, Entry.built?, hattempt] at hbuilt
  · intro hc
    exact ⟨_, hfits.flag hc, hsince⟩
  · intro hc
    exact ⟨_, hfits.resolver hc, hsince⟩

/-! ## Periods -/

/-- The pipeline has just been made, or a running instance has just been stopped. -/
def BeginsPeriod (before : List Entry) : Prop :=
  before = [] ∨ ∃ earlier e, before = earlier ++ [e] ∧ e.EndsPeriod

theorem BeginsPeriod.runningAfter_eq (h : BeginsPeriod before) : runningAfter none before = none := by
  rcases h with rfl | ⟨earlier, e, rfl, hstop, -⟩
  · rfl
  · simp [Entry.leaves, hstop]

/-- While an instance runs and is not stopped, it stays the only one. -/
theorem period_running (h : IsLawful (some n) log) (hp : ∀ e ∈ log, ¬ e.EndsPeriod) :
    log.filterMap Entry.built? = [] ∧ (∀ e ∈ log, ∀ m, e.given? = some m → m = n) ∧
      runningAfter (some n) log = some n := by
  induction log with
  | nil => simp
  | cons e log ih =>
    obtain ⟨hfits, hlater⟩ := h
    obtain ⟨hbuilt, hgiven⟩ := hfits.of_running
    have hc : e.call ≠ .stop := by
      intro hc
      exact hp e (by simp) ⟨hc, hfits.flag (.inr hc)⟩
    have hleaves : e.leaves (some n) = some n := by
      simp [Entry.leaves, hc, hbuilt]
    rw [hleaves] at hlater
    obtain ⟨hnone, hsame, hend⟩ := ih hlater fun other hm => hp other (by simp [hm])
    refine ⟨?_, ?_, ?_⟩
    · rw [List.filterMap_cons_none hbuilt, hnone]
    · simpa using ⟨hgiven, hsame⟩
    · rw [runningAfter_cons, hleaves, hend]

/-- In a period nothing is given until an instance is built, and from then on nothing else. -/
theorem period (h : IsLawful none log) (hp : ∀ e ∈ log, ¬ e.EndsPeriod) :
    (∀ e ∈ log, ∀ m, e.given? = some m → runningAfter none log = some m) ∧
      log.filterMap Entry.built? = (runningAfter none log).toList := by
  induction log with
  | nil => simp
  | cons e log ih =>
    obtain ⟨hfits, hlater⟩ := h
    have hgiven := hfits.of_stopped
    have hrest : ∀ other ∈ log, ¬ other.EndsPeriod := fun other hm => hp other (by simp [hm])
    cases hbuilt : e.built? with
    | none =>
      have hleaves : e.leaves none = none := by
        simp [Entry.leaves, hbuilt]
      rw [hleaves] at hlater
      obtain ⟨hsame, hone⟩ := ih hlater hrest
      rw [runningAfter_cons, hleaves, List.filterMap_cons_none hbuilt]
      refine ⟨?_, hone⟩
      simpa [hgiven, hbuilt] using hsame
    | some n =>
      have hc : e.call ≠ .stop := by
        intro hc
        simp [hfits.built?_stop hc] at hbuilt
      have hleaves : e.leaves none = some n := by
        simp [Entry.leaves, hc, hbuilt]
      rw [hleaves] at hlater
      obtain ⟨hnone, hsame, hend⟩ := period_running hlater hrest
      rw [runningAfter_cons, hleaves, hend, List.filterMap_cons_some hbuilt, hnone]
      refine ⟨?_, rfl⟩
      intro other hm m hm'
      rcases List.mem_cons.1 hm with rfl | hm
      · simpa [hgiven, hbuilt] using hm'
      · rw [hsame other hm m hm']

/-- In a period one instance is built at the most, and one exactly if the period has ended. -/
theorem period_of_isLawful {mid after : List Entry} (h : IsLawful none (before ++ (mid ++ after)))
    (hb : BeginsPeriod before) (hp : ∀ e ∈ mid, ¬ e.EndsPeriod) :
    (mid.filterMap Entry.built?).length ≤ 1 ∧
      (∀ e ∈ mid, ∀ n, e.given? = some n → mid.filterMap Entry.built? = [n]) ∧
      (∀ e later, after = e :: later → e.EndsPeriod →
        ∃ n, mid.filterMap Entry.built? = [n]) := by
  obtain ⟨-, hrest⟩ := isLawful_append.1 h
  rw [hb.runningAfter_eq] at hrest
  obtain ⟨hmid, hafter⟩ := isLawful_append.1 hrest
  obtain ⟨hgiven, hone⟩ := period hmid hp
  rw [hone]
  refine ⟨?_, ?_, ?_⟩
  · cases runningAfter none mid <;> simp
  · intro e he n hn
    rw [hgiven e he n hn]
    rfl
  · intro e later hlater hend
    subst hlater
    -- the stop was told that an instance is running
    have hflag := hafter.1.flag (.inr hend.1)
    rw [hend.2] at hflag
    obtain ⟨n, hn⟩ := Option.isSome_iff_exists.1 (Reply.flag.inj hflag).symm
    exact ⟨n, by rw [hn]; rfl⟩

/-- Nothing is given but what has been built. -/
theorem given_mem_built (h : IsLawful running log) (he : e ∈ log) (hn : e.given? = some n) :
    running = some n ∨ n ∈ log.filterMap Entry.built? := by
  induction log generalizing running with
  | nil => cases he
  | cons first log ih =>
    obtain ⟨hfits, hlater⟩ := h
    have hfirst : ∀ m, first.built? = some m → m ∈ (first :: log).filterMap Entry.built? :=
      fun m hm => List.mem_filterMap.2 ⟨first, List.mem_cons_self, hm⟩
    rcases List.mem_cons.1 he with rfl | he
    · cases running with
      | none => exact .inr (hfirst n (hfits.of_stopped ▸ hn))
      | some m => exact .inl (congrArg some (hfits.of_running.2 n hn).symm)
    · rcases ih hlater he with hleaves | hm
      · unfold Entry.leaves at hleaves
        split at hleaves
        · cases hleaves
        · rcases Option.or_eq_some_iff.1 hleaves with hb | ⟨-, hr⟩
          · exact .inr (hfirst n hb)
          · exact .inl hr
      · obtain ⟨other, hother, hb⟩ := List.mem_filterMap.1 hm
        exact .inr (List.mem_filterMap.2 ⟨other, List.mem_cons_of_mem _ hother, hb⟩)

end Gazetteer.Pipeline
