/-
Gazetteer.Proofs.Store.Team — many operations at once give their connections back.

To the pool the callers of a store are borrowers like any others, so no place of it
is lost. What each of them has left to say ends outside any transaction, from wherever
its connection stands; for nobody else has a hand in the transaction of a connection.
So who comes to the end gives back a connection that is outside any transaction.
-/
import Gazetteer.Proofs.Pool.Rest
import Gazetteer.Proofs.Store.Report

namespace Gazetteer

open Members

/-- The borrower has a connection that is inside a transaction. -/
def Pool.Borrower.isInside : Pool.Borrower → Bool
  | holding slot => slot.connection.isInTransaction
  | arriving _ | waiting _ | opening | gone => false

namespace Store.Team

variable {t : Team} {limits : Pool.Limits} {i n : Nat} {caller : Caller} {slot : Pool.Slot}
  {event : Event}

/-- The callers as borrowers of the pool. -/
def crowd (t : Team) : Pool.Crowd := ⟨t.pool, t.now, t.callers.map (·.borrower), t.closed⟩

theorem getElem?_crowd (hi : t.callers[i]? = some caller) :
    t.crowd.borrowers[i]? = some caller.borrower := by
  show (t.callers.map _)[i]? = _
  rw [List.getElem?_map, hi]
  rfl

/-- What a caller does in the pool is a move of a borrower. -/
theorem crowd_move (hi : t.callers[i]? = some caller) (move : Pool.Move)
    (rest : Pool.Borrower → Script (Except StoreError Answer)) :
    (t.move i caller.borrower move rest).crowd = t.crowd.next (.move i move) := by
  rw [Pool.Crowd.next_of_some (getElem?_crowd hi)]
  simp only [crowd, Team.move, List.map_set]

/-- A move of a caller who has no connection gets it one outside any transaction, or none. -/
theorem isInside_step {pool : Pool} {borrower : Pool.Borrower}
    (hfree : ∀ slot ∈ pool.idle, slot.connection.isInTransaction = false)
    (hseeks : borrower.isHolding = false) (now : Time) (move : Pool.Move) :
    (borrower.step pool now move).1.isInside = false := by
  have hturn (deadline : Time) :
      (Pool.Borrower.request pool now deadline).1.isInside = false := by
    rcases hturn : pool.turn now with ⟨turn, served⟩
    obtain ⟨-, -, hreuse⟩ := Pool.turn_cases hturn
    unfold Pool.Borrower.request
    rw [hturn]
    cases turn with
    | reuse slot =>
      obtain ⟨idle, hm, heq⟩ := hreuse slot rfl
      show slot.connection.isInTransaction = false
      rw [heq]
      exact hfree idle hm
    | mayOpen => rfl
    | mustWait => rfl
  cases borrower with
  | holding slot => cases hseeks
  | arriving deadline =>
    cases move with
    | request => exact hturn deadline
    | _ => rfl
  | waiting deadline =>
    cases move with
    | request => exact hturn deadline
    | giveUp =>
      rw [Pool.Borrower.step]
      split <;> rfl
    | _ => rfl
  | opening => cases move <;> rfl
  | gone => cases move <;> rfl

/-! ## What every event keeps -/

/-- The pool counts what there is, and everybody comes to an end outside any transaction. -/
structure Inv (limits : Pool.Limits) (t : Team) : Prop where
  pool : Pool.Crowd.Inv limits t.crowd
  settles : ∀ caller ∈ t.callers, ∃ n, caller.rest.Settles n caller.borrower.isInside
  quiet : .leakedTransaction ∉ t.notices

theorem Inv.move {rest : Pool.Borrower → Script (Except StoreError Answer)} (h : Inv limits t)
    (hi : t.callers[i]? = some caller) (move : Pool.Move)
    (hrest : ∀ later, (caller.borrower.step t.pool t.now move).1 = later →
      ∃ n, (rest later).Settles n later.isInside) :
    Inv limits (t.move i caller.borrower move rest) := by
  refine ⟨?_, ?_, h.quiet⟩
  · rw [crowd_move hi]
    exact h.pool.next _
  · intro other hm
    rcases List.mem_or_eq_of_mem_set hm with hm | rfl
    · exact h.settles other hm
    · exact hrest _ rfl

theorem Inv.seek (h : Inv limits t) (hi : t.callers[i]? = some caller) (move : Pool.Move) :
    Inv limits (t.seek i caller move) := by
  obtain ⟨n, hn⟩ := h.settles caller (List.mem_of_getElem? hi)
  have hseeks (hh : caller.borrower.isHolding = false) (hn : caller.rest.Settles n false) :
      Inv limits (t.move i caller.borrower move (remaining caller.rest move)) := by
    refine h.move hi move ?_
    rintro later rfl
    have hinside : (caller.borrower.step t.pool t.now move).1.isInside = false :=
      isInside_step h.pool.free hh t.now move
    rw [hinside]
    generalize (caller.borrower.step t.pool t.now move).1 = later
    cases later with
    | gone => exact ⟨0, rfl⟩
    | _ => exact ⟨n, hn⟩
  unfold Team.seek
  split
  · exact h
  · exact h
  · next heq => exact hseeks (by rw [heq]; rfl) (by rwa [heq] at hn)
  · next heq => exact hseeks (by rw [heq]; rfl) (by rwa [heq] at hn)
  · next heq => exact hseeks (by rw [heq]; rfl) (by rwa [heq] at hn)

theorem Inv.speak (h : Inv limits t) (hi : t.callers[i]? = some caller) (found : Desk)
    (handle : Handle) : Inv limits (t.speak i caller found handle) := by
  obtain ⟨n, hn⟩ := h.settles caller (List.mem_of_getElem? hi)
  unfold Team.speak
  split
  · next slot heq =>
    rw [heq] at hn
    refine ⟨?_, ?_, h.quiet⟩
    · have hheld := getElem?_crowd hi
      rw [heq] at hheld
      show Pool.Crowd.Inv limits ⟨t.pool, t.now, (t.callers.set i _).map _, t.closed⟩
      rw [List.map_set]
      exact h.pool.rework hheld rfl
    · intro other hm
      rcases List.mem_or_eq_of_mem_set hm with hm | rfl
      · exact h.settles other hm
      · have hn : caller.rest.Settles n
            (Desk.draft { found with draft := slot.connection.draft }).isSome := hn
        exact ⟨_, hn.step.1⟩
  all_goals exact h

theorem Inv.part (h : Inv limits t) (hi : t.callers[i]? = some caller) :
    Inv limits (t.part i caller) := by
  obtain ⟨n, hn⟩ := h.settles caller (List.mem_of_getElem? hi)
  unfold Team.part
  split
  · next slot result hborrower hrest =>
    rw [hborrower, hrest] at hn
    have houtside : slot.connection.isInTransaction = false := Script.settles_done.1 hn
    have hgone (move : Pool.Move) (hm : (Pool.Borrower.step t.pool t.now (.holding slot) move).1 =
        .gone) : Inv limits (t.move i caller.borrower move fun _ => caller.rest) := by
      refine h.move hi move ?_
      rintro later rfl
      rw [hborrower, hm, hrest]
      exact ⟨0, rfl⟩
    split
    · exact hgone .discard rfl
    · obtain ⟨hpool, hsettles, hquiet⟩ := hgone .release rfl
      refine ⟨hpool, hsettles, ?_⟩
      rw [Pool.release_notices houtside, List.append_nil]
      exact hquiet
  · exact h

theorem Inv.next (h : Inv limits t) (event : Event) : Inv limits (t.next event) := by
  cases event with
  | come operation =>
    unfold Team.next
    dsimp only
    split
    · next script hscript =>
      refine ⟨?_, ?_, h.quiet⟩
      · show Pool.Crowd.Inv limits ⟨t.pool, t.now, (t.callers ++ [_]).map _, t.closed⟩
        rw [List.map_append]
        exact h.pool.next .come
      · intro caller hm
        rcases List.mem_append.1 hm with hm | hm
        · exact h.settles caller hm
        · obtain rfl := List.mem_singleton.1 hm
          exact operation.settles hscript
    · next cause hscript =>
      refine ⟨?_, ?_, h.quiet⟩
      · show Pool.Crowd.Inv limits ⟨t.pool, t.now, (t.callers ++ [_]).map _, t.closed⟩
        rw [List.map_append]
        exact h.pool.append_gone
      · intro caller hm
        rcases List.mem_append.1 hm with hm | hm
        · exact h.settles caller hm
        · obtain rfl := List.mem_singleton.1 hm
          exact ⟨0, rfl⟩
  | seek number move =>
    cases hi : t.callers[number]? with
    | none => simpa [Team.next, hi] using h
    | some caller => simpa [Team.next, hi] using h.seek hi move
  | speak number found handle =>
    cases hi : t.callers[number]? with
    | none => simpa [Team.next, hi] using h
    | some caller => simpa [Team.next, hi] using h.speak hi found handle
  | part number =>
    cases hi : t.callers[number]? with
    | none => simpa [Team.next, hi] using h
    | some caller => simpa [Team.next, hi] using h.part hi
  | wait span => exact ⟨h.pool.at_time _, h.settles, h.quiet⟩

theorem Inv.run (h : Inv limits t) (events : List Event) : Inv limits (t.run events) := by
  induction events generalizing t with
  | nil => exact h
  | cons event events ih => exact ih (h.next event)

/-! ## Giving back -/

/-- As many connections are in use as callers hold or open one. -/
theorem Inv.inUse (h : Inv limits t) : t.pool.stats.inUse =
    t.callers.countP (·.borrower.isHolding) + t.callers.countP (·.borrower.isOpening) := by
  have hcount : t.pool.openCount =
      t.pool.idle.length + t.crowd.held + t.crowd.opening := h.pool.count
  have hheld : t.crowd.held = t.callers.countP (·.borrower.isHolding) := List.countP_map
  have hopening : t.crowd.opening = t.callers.countP (·.borrower.isOpening) := List.countP_map
  show t.pool.openCount - t.pool.idle.length = _
  omega

/-- What a caller leaves behind at its end. -/
structure Parted (t : Team) (i : Nat) (slot : Pool.Slot) (result : Except StoreError Answer)
    (after : Team) : Prop where
  outside : slot.connection.isInTransaction = false
  caller : after.callers[i]? = some ⟨.gone, .done result⟩
  inUse : after.pool.stats.inUse + 1 = t.pool.stats.inUse
  notices : after.notices = t.notices
  place : (∃ kept ∈ after.pool.idle, kept.connection = slot.connection) ∨ slot ∈ after.closed
  closed : result.toOption.any (·.closes) = true → slot ∈ after.closed

theorem next_part (hi : t.callers[i]? = some caller) : t.next (.part i) = t.part i caller := by
  simp only [next, hi, Option.elim_some]

/-- Who has nothing left to say gives back a connection that is outside any transaction; it is idle
then or closed, and closed if a location was not written back. -/
theorem Inv.parted {result : Except StoreError Answer} (h : Inv limits t)
    (hi : t.callers[i]? = some ⟨.holding slot, .done result⟩) :
    Parted t i slot result (t.next (.part i)) := by
  obtain ⟨n, hn⟩ := h.settles _ (List.mem_of_getElem? hi)
  have houtside : slot.connection.isInTransaction = false := Script.settles_done.1 hn
  obtain ⟨hlt, -⟩ := List.getElem?_eq_some_iff.1 hi
  have hafter := h.next (.part i)
  rw [next_part hi] at hafter ⊢
  have hinUse (hcallers : (t.part i ⟨.holding slot, .done result⟩).callers =
      t.callers.set i ⟨.gone, .done result⟩) :
      (t.part i ⟨.holding slot, .done result⟩).pool.stats.inUse + 1 = t.pool.stats.inUse := by
    have hheld := countP_set (·.borrower.isHolding) (⟨.gone, .done result⟩ : Caller) hi
    have hopening := countP_set (·.borrower.isOpening) (⟨.gone, .done result⟩ : Caller) hi
    change _ + 1 = _ + 0 at hheld
    change _ + 0 = _ + 0 at hopening
    rw [hafter.inUse, h.inUse, hcallers]
    omega
  by_cases hc : result.toOption.any (·.closes) = true
  · have hpart : t.part i ⟨.holding slot, .done result⟩ =
        t.move i (.holding slot) .discard fun _ => .done result := by
      simp only [Team.part, if_pos hc]
    have hclosed : slot ∈ (t.part i ⟨.holding slot, .done result⟩).closed := by
      rw [hpart]
      exact List.mem_append_right _ (List.mem_singleton_self slot)
    refine ⟨houtside, ?_, hinUse (by rw [hpart]; rfl), ?_, .inr hclosed, fun _ => hclosed⟩
    · rw [hpart]
      exact List.getElem?_set_self hlt
    · rw [hpart]
      rfl
  · have hpart : t.part i ⟨.holding slot, .done result⟩ =
        { t.move i (.holding slot) .release fun _ => .done result with
          notices := t.notices ++ (t.pool.release slot t.now).1 } := by
      simp only [Team.part, if_neg hc]
    refine ⟨houtside, ?_, hinUse (by rw [hpart]; rfl), ?_, ?_, fun hclose => absurd hclose hc⟩
    · rw [hpart]
      exact List.getElem?_set_self hlt
    · rw [hpart]
      show t.notices ++ _ = _
      rw [Pool.release_notices houtside, List.append_nil]
    · rw [hpart]
      cases hk : t.pool.keeps slot t.now with
      | true => exact .inl ⟨_, Pool.mem_idle_release hk, rfl⟩
      | false =>
        refine .inr (List.mem_append_right _ ?_)
        simp [hk]

/-- What is closed stays closed. -/
theorem closed_next (t : Team) (event : Event) : t.closed <+: (t.next event).closed := by
  have hmove (number : Nat) (borrower : Pool.Borrower) (move : Pool.Move)
      (rest : Pool.Borrower → Script (Except StoreError Answer)) :
      t.closed <+: (t.move number borrower move rest).closed := List.prefix_append _ _
  cases event with
  | come operation => exact List.prefix_rfl
  | seek number move =>
    cases hi : t.callers[number]? with
    | none => simp [next, hi]
    | some caller =>
      simp only [next, hi, Option.elim_some, seek]
      split
      · exact List.prefix_rfl
      · exact List.prefix_rfl
      all_goals exact hmove _ _ _ _
  | speak number found handle =>
    cases hi : t.callers[number]? with
    | none => simp [next, hi]
    | some caller =>
      simp only [next, hi, Option.elim_some, speak]
      split <;> exact List.prefix_rfl
  | part number =>
    cases hi : t.callers[number]? with
    | none => simp [next, hi]
    | some caller =>
      simp only [next, hi, Option.elim_some, part]
      split
      · split
        · exact hmove _ _ _ _
        · exact List.prefix_append _ _
      · exact List.prefix_rfl
  | wait span => exact List.prefix_rfl

theorem closed_run (t : Team) (events : List Event) : t.closed <+: (t.run events).closed := by
  induction events generalizing t with
  | nil => exact List.prefix_rfl
  | cons event events ih => exact (t.closed_next event).trans (ih (t.next event))

/-- A closed connection is never idle again. -/
theorem Inv.not_idle_of_closed (h : Inv limits t) (hm : slot ∈ t.closed) (events : List Event) :
    ∀ idle ∈ (t.run events).pool.idle, idle.connection.serial ≠ slot.connection.serial :=
  ((h.run events).pool.closed ((t.closed_run events).subset hm)).1

/-! ## Coming to the end -/

/-- The event is a statement of a caller. -/
def Event.isSpeak (i : Nat) : Event → Bool
  | speak j _ _ => j == i
  | come _ | seek _ _ | part _ | wait _ => false

/-- The caller that an event is of. -/
def Event.maker? : Event → Option Nat
  | seek i _ | speak i _ _ | part i => some i
  | come _ | wait _ => none

theorem Event.isSpeak_of_ne (hne : event.maker? ≠ some i) : event.isSpeak i = false := by
  cases event with
  | speak j found handle => simpa [Event.isSpeak, Event.maker?] using hne
  | _ => rfl

/-- What one caller does leaves the others alone. -/
theorem next_of_ne (hi : t.callers[i]? = some caller) (hne : event.maker? ≠ some i) :
    (t.next event).callers[i]? = some caller := by
  have hset {j : Nat} (hj : some j ≠ some i) (other : Caller) :
      (t.callers.set j other)[i]? = some caller :=
    (List.getElem?_set_ne fun heq => hj (congrArg some heq)).trans hi
  cases event with
  | come operation =>
    obtain ⟨hlt, -⟩ := List.getElem?_eq_some_iff.1 hi
    exact (List.getElem?_append_left hlt).trans hi
  | wait span => exact hi
  | seek j move =>
    cases hj : t.callers[j]? with
    | none => simpa [next, hj] using hi
    | some other =>
      simp only [next, hj, Option.elim_some, seek]
      split
      · exact hi
      · exact hi
      all_goals exact hset hne _
  | speak j found handle =>
    cases hj : t.callers[j]? with
    | none => simpa [next, hj] using hi
    | some other =>
      simp only [next, hj, Option.elim_some, speak]
      split
      · exact hset hne _
      all_goals exact hi
  | part j =>
    cases hj : t.callers[j]? with
    | none => simpa [next, hj] using hi
    | some other =>
      simp only [next, hj, Option.elim_some, part]
      split
      · split <;> exact hset hne _
      · exact hi

/-- The caller has its connection, or has been through with it. -/
def Caller.IsServed (caller : Caller) : Prop :=
  (∃ slot, caller.borrower = .holding slot) ∨
    (caller.borrower = .gone ∧ ∃ result, caller.rest = .done result)

theorem speak_served (hi : t.callers[i]? = some caller) (hs : caller.IsServed)
    (hn : caller.rest.Settles n caller.borrower.isInside) (found : Desk) (handle : Handle) :
    ∃ later, (t.speak i caller found handle).callers[i]? = some later ∧ later.IsServed ∧
      later.rest.Settles (n - 1) later.borrower.isInside := by
  obtain ⟨hlt, -⟩ := List.getElem?_eq_some_iff.1 hi
  obtain ⟨slot, hholding⟩ | ⟨hgone, result, hrest⟩ := hs
  · rw [hholding] at hn
    have hn : caller.rest.Settles n
        (Desk.draft { found with draft := slot.connection.draft }).isSome := hn
    simp only [speak, hholding]
    exact ⟨_, List.getElem?_set_self hlt, .inl ⟨_, rfl⟩, hn.step.1⟩
  · simp only [speak, hgone]
    refine ⟨caller, hi, .inr ⟨hgone, result, hrest⟩, ?_⟩
    rw [hrest] at hn ⊢
    exact Script.settles_done.2 (Script.settles_done.1 hn)

theorem part_served (hi : t.callers[i]? = some caller) (hs : caller.IsServed)
    (hn : caller.rest.Settles n caller.borrower.isInside) :
    ∃ later, (t.part i caller).callers[i]? = some later ∧ later.IsServed ∧
      later.rest.Settles n later.borrower.isInside := by
  obtain ⟨hlt, -⟩ := List.getElem?_eq_some_iff.1 hi
  obtain ⟨slot, hholding⟩ | ⟨hgone, result, hrest⟩ := hs
  · cases hrest : caller.rest with
    | done result =>
      refine ⟨⟨.gone, .done result⟩, ?_, .inr ⟨rfl, result, rfl⟩, Script.settles_done.2 rfl⟩
      simp only [part, hholding, hrest]
      split <;> exact List.getElem?_set_self hlt
    | _ =>
      refine ⟨caller, ?_, .inl ⟨slot, hholding⟩, hn⟩
      simp only [part, hholding, hrest, hi]
  · refine ⟨caller, ?_, .inr ⟨hgone, result, hrest⟩, hn⟩
    simp only [part, hgone, hi]

/-- A served caller goes on with its own statements, and no other event brings it back. -/
theorem next_served (hi : t.callers[i]? = some caller) (hs : caller.IsServed)
    (hn : caller.rest.Settles n caller.borrower.isInside) (event : Event) :
    ∃ later, (t.next event).callers[i]? = some later ∧ later.IsServed ∧
      later.rest.Settles (n - (event.isSpeak i).toNat) later.borrower.isInside := by
  by_cases hmaker : event.maker? = some i
  · cases event with
    | come operation => cases hmaker
    | wait span => cases hmaker
    | seek j move =>
      obtain rfl := Option.some.inj hmaker
      -- it does not need another connection
      refine ⟨caller, ?_, hs, hn⟩
      obtain ⟨slot, hholding⟩ | ⟨hgone, -⟩ := hs
      · simp [next, hi, seek, hholding]
      · simp [next, hi, seek, hgone]
    | speak j found handle =>
      obtain rfl := Option.some.inj hmaker
      have hspeak : (Event.speak j found handle).isSpeak j = true := beq_self_eq_true j
      simp only [next, hi, Option.elim_some, hspeak]
      exact speak_served hi hs hn found handle
    | part j =>
      obtain rfl := Option.some.inj hmaker
      rw [next_part hi]
      exact part_served hi hs hn
  · rw [Event.isSpeak_of_ne hmaker]
    exact ⟨caller, next_of_ne hi hmaker, hs, hn⟩

/-- Whoever has a connection has nothing left to say after some statements, whatever they come to and
whatever else happens. -/
theorem Inv.ended_of_speaks (h : Inv limits t) (hi : t.callers[i]? = some caller)
    (hheld : caller.borrower = .holding slot) :
    ∃ n, ∀ events : List Event, n ≤ events.countP (·.isSpeak i) →
      ∃ later result, (t.run events).callers[i]? = some later ∧ later.rest = .done result := by
  obtain ⟨n, hn⟩ := h.settles caller (List.mem_of_getElem? hi)
  refine ⟨n, fun events hcount => ?_⟩
  have hs : caller.IsServed := .inl ⟨slot, hheld⟩
  clear h hheld
  -- on the events: the statements of the caller use up what is left to it
  induction events generalizing t caller n with
  | nil =>
    obtain rfl := Nat.le_zero.1 hcount
    cases hrest : caller.rest with
    | done result => exact ⟨caller, result, hi, hrest⟩
    | _ =>
      rw [hrest] at hn
      cases hn
  | cons event events ih =>
    obtain ⟨later, hlater, hserved, hless⟩ := next_served hi hs hn event
    rw [countP_cons] at hcount
    exact ih hlater _ hless (by omega) hserved

end Store.Team

end Gazetteer
