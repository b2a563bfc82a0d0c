/-
Gazetteer.Proofs.Pool.WaitingRoom — no notification is lost.

Nobody falls asleep as long as a place is free. A place that becomes free is
announced by who has given it back, and a notification is passed on to one who
sleeps or is not needed. So as long as somebody sleeps, every place of the pool is
in use, or somebody has been told of it, or somebody still has to tell; it makes
no difference who gets into the lock first, and which of the idle connections are
closed there.
-/
import Gazetteer.Pool.WaitingRoom
import Gazetteer.Proofs.Pool.Crowd

namespace Gazetteer.Pool

open Members

variable {pool : Pool} {now : Time} {visitor : Visitor} {limits : Limits}

/-! ## One visitor -/

namespace Visitor

theorem borrower_ofBorrower {done : Visitor} (hd : done.borrower = .gone) (b : Borrower) :
    (ofBorrower done b).borrower = b := by
  cases b <;> first | rfl | exact hd

/-- To the pool an act is a move, or nothing. -/
theorem step_borrower (pool : Pool) (now : Time) (visitor : Visitor) (act : Act) :
    ((visitor.step pool now act).1.borrower = visitor.borrower ∧
        (visitor.step pool now act).2 = (pool, [])) ∨
      ∃ move, ((visitor.step pool now act).1.borrower, (visitor.step pool now act).2) =
        visitor.borrower.step pool now move := by
  have hmove (move : Move) {done : Visitor} (hd : done.borrower = .gone) :
      ((visitor.move pool now move done).1.borrower, (visitor.move pool now move done).2) =
        visitor.borrower.step pool now move :=
    Prod.ext (borrower_ofBorrower hd _) rfl
  unfold step
  split
  · exact .inr ⟨_, hmove .request rfl⟩
  · exact .inr ⟨_, hmove .request rfl⟩
  · exact .inr ⟨_, hmove .giveUp rfl⟩
  · exact .inl ⟨rfl, rfl⟩
  · exact .inr ⟨_, hmove (.opened _) rfl⟩
  · exact .inr ⟨_, hmove .failed rfl⟩
  · exact .inr ⟨_, hmove (.work _) rfl⟩
  · exact .inr ⟨_, hmove .release rfl⟩
  · exact .inr ⟨_, hmove .discard rfl⟩
  · exact .inl ⟨rfl, rfl⟩

/-- A visitor has a place, or has been told of one, or has to tell of one. -/
def concern (visitor : Visitor) : Nat :=
  visitor.borrower.isHolding.toNat + visitor.borrower.isOpening.toNat + visitor.isOwing.toNat +
    visitor.isNotified.toNat

theorem concern_le_one (visitor : Visitor) : visitor.concern ≤ 1 := by
  cases visitor <;> first | exact Nat.le_refl 1 | exact Nat.zero_le 1

/-- A turn in the lock ends with a place, or there is none. -/
theorem served_or_full (hw : visitor.borrower = .arriving deadline ∨
      visitor.borrower = .waiting deadline) :
    let after := visitor.move pool now .request gone
    (visitor.concern ≤ after.1.concern ∧ after.1.isWaiting.toNat ≤ visitor.isWaiting.toNat) ∨
      (after.2.1.idle = [] ∧ after.2.1.limits = pool.limits ∧
        pool.limits.maxConnections ≤ after.2.1.openCount) := by
  have hstep : visitor.borrower.step pool now .request = Borrower.request pool now deadline := by
    obtain hw | hw := hw <;> rw [hw] <;> rfl
  unfold move
  rw [hstep, Borrower.request]
  obtain ⟨slot, rest, -, heq⟩ | ⟨-, -, heq⟩ | ⟨-, hfull, heq⟩ := turn_eq pool now
  all_goals rw [heq]
  · exact .inl ⟨concern_le_one visitor, Nat.zero_le _⟩
  · exact .inl ⟨concern_le_one visitor, Nat.zero_le _⟩
  · exact .inr ⟨rfl, rfl, hfull⟩

/-- Nobody falls asleep, and nobody who is concerned with a place forgets it, but in a turn in the
lock that finds every place taken. -/
theorem step_cases (pool : Pool) (now : Time) (visitor : Visitor) (act : Act) :
    let after := visitor.step pool now act
    (visitor.concern ≤ after.1.concern ∧ after.1.isWaiting.toNat ≤ visitor.isWaiting.toNat) ∨
      (after.2.1.idle = [] ∧ after.2.1.limits = pool.limits ∧
        pool.limits.maxConnections ≤ after.2.1.openCount) := by
  unfold step
  split
  · next deadline =>
    exact served_or_full (.inl rfl)
  · next deadline =>
    exact served_or_full (.inr rfl)
  · exact .inl ⟨Nat.zero_le _, Bool.toNat_le _⟩
  · exact .inl ⟨Nat.le_refl _, Nat.le_refl _⟩
  · exact .inl ⟨Nat.le_refl _, Nat.le_refl _⟩
  · exact .inl ⟨Nat.le_refl _, Nat.le_refl _⟩
  · exact .inl ⟨Nat.le_refl _, Nat.le_refl _⟩
  · exact .inl ⟨Nat.le_refl _, Nat.le_refl _⟩
  · exact .inl ⟨Nat.le_refl _, Nat.le_refl _⟩
  · exact .inl ⟨Nat.le_refl _, Nat.le_refl _⟩

end Visitor

/-! ## The room -/

namespace WaitingRoom

variable {r : WaitingRoom}

/-- What the pool sees of the room. -/
def crowd (r : WaitingRoom) : Crowd := ⟨r.pool, r.now, r.visitors.map (·.borrower), r.closed⟩

/-- The pool counts what there is; and as long as somebody sleeps, as many as there are places are
concerned with one. -/
structure Inv (limits : Limits) (r : WaitingRoom) : Prop where
  crowd : Crowd.Inv limits r.crowd
  heeded : 0 < r.waiting →
    limits.maxConnections ≤ r.crowd.held + r.crowd.opening + r.owed + r.notified

theorem held_eq (r : WaitingRoom) :
    r.crowd.held = r.visitors.countP fun v => v.borrower.isHolding :=
  List.countP_map

theorem opening_eq (r : WaitingRoom) :
    r.crowd.opening = r.visitors.countP fun v => v.borrower.isOpening :=
  List.countP_map

theorem inv_start (path : String) (limits : Limits) : Inv limits (start path limits) :=
  ⟨Crowd.inv_start path limits, fun hw => absurd hw (Nat.lt_irrefl 0)⟩

theorem next_act {number : Nat} (hn : r.visitors[number]? = some visitor) (act : Act) :
    r.next (.act number act) =
      ⟨(visitor.step r.pool r.now act).2.1, r.now,
        r.visitors.set number (visitor.step r.pool r.now act).1,
        r.closed ++ (visitor.step r.pool r.now act).2.2⟩ := by
  simp only [next, hn]

/-- The act of a visitor is to the pool an event among its borrowers, or nothing. -/
theorem Inv.crowd_act (h : Inv limits r) {number : Nat}
    (hn : r.visitors[number]? = some visitor) (act : Act) :
    Crowd.Inv limits (r.next (.act number act)).crowd := by
  have hb : r.crowd.borrowers[number]? = some visitor.borrower := by
    show (r.visitors.map _)[number]? = _
    rw [List.getElem?_map, hn]
    rfl
  rw [next_act hn, WaitingRoom.crowd]
  dsimp only
  obtain ⟨hsame, hnothing⟩ | ⟨move, hmove⟩ := Visitor.step_borrower r.pool r.now visitor act
  · rw [map_set_of_eq hn hsame, hnothing, List.append_nil]
    exact h.crowd
  · obtain ⟨hborrower, hrest⟩ := Prod.mk.inj hmove
    have hnext := h.crowd.next (.move number move)
    rw [Crowd.next_of_some hb] at hnext
    rw [List.map_set, hborrower, hrest]
    exact hnext

/-- A visitor that acts falls asleep only if every place is taken, and forgets no place. -/
theorem Inv.act (h : Inv limits r) {number : Nat} (hn : r.visitors[number]? = some visitor)
    (act : Act) : Inv limits (r.next (.act number act)) := by
  have hcrowd := h.crowd_act hn act
  refine ⟨hcrowd, fun hwaits => ?_⟩
  have hlater := hcrowd.count
  rw [held_eq, opening_eq] at hlater ⊢
  unfold waiting at hwaits
  unfold owed notified
  rw [next_act hn] at hlater hwaits ⊢
  change (visitor.step r.pool r.now act).2.1.openCount =
    (visitor.step r.pool r.now act).2.1.idle.length + _ + _ at hlater
  dsimp only at hlater hwaits ⊢
  obtain ⟨hconcern, hsleep⟩ | ⟨hidle, -, hfull⟩ :=
    Visitor.step_cases r.pool r.now visitor act
  · -- the counts change by what this visitor was and is
    have hheeded := h.heeded
    rw [held_eq, opening_eq] at hheeded
    unfold waiting owed notified at hheeded
    unfold Visitor.concern at hconcern
    have hwaiting := countP_set (·.isWaiting) (visitor.step r.pool r.now act).1 hn
    have hheld := countP_set (·.borrower.isHolding) (visitor.step r.pool r.now act).1 hn
    have hopening := countP_set (·.borrower.isOpening) (visitor.step r.pool r.now act).1 hn
    have howing := countP_set (·.isOwing) (visitor.step r.pool r.now act).1 hn
    have hnotified := countP_set (·.isNotified) (visitor.step r.pool r.now act).1 hn
    omega
  · have hlimits : r.pool.limits = limits := h.crowd.limited
    rw [hidle, List.length_nil] at hlater
    rw [hlimits] at hfull
    omega

section Notify

variable {number woken : Nat} {deadline : Time} {visitors : List Visitor}

/-- Who owes a notification is not the one who sleeps. -/
theorem still_waiting (hn : visitors[number]? = some .owing)
    (hw : visitors[woken]? = some (.waiting deadline)) :
    (visitors.set number .gone)[woken]? = some (.waiting deadline) := by
  have hne : number ≠ woken := by
    rintro rfl
    rw [hn] at hw
    cases hw
  rw [List.getElem?_set_ne hne, hw]

/-- Two visitors change in a notification. -/
theorem countP_notify (p : Visitor → Bool) (hn : visitors[number]? = some .owing)
    (hw : visitors[woken]? = some (.waiting deadline)) :
    ((visitors.set number .gone).set woken (.notified deadline)).countP p +
        (p .owing).toNat + (p (.waiting deadline)).toNat =
      visitors.countP p + (p .gone).toNat + (p (.notified deadline)).toNat := by
  have hgone := countP_set p .gone hn
  have hnotified := countP_set p (.notified deadline) (still_waiting hn hw)
  omega

/-- A notification is nothing to the pool. -/
theorem crowd_notify (hn : r.visitors[number]? = some .owing) :
    (r.notify number woken).crowd = r.crowd := by
  have hgone : (r.visitors.set number .gone).map (·.borrower) = r.visitors.map (·.borrower) :=
    map_set_of_eq hn rfl
  unfold WaitingRoom.notify WaitingRoom.crowd
  dsimp only
  split
  · next deadline hw =>
    have hwoken : ((r.visitors.set number .gone).set woken (.notified deadline)).map (·.borrower) =
        (r.visitors.set number .gone).map (·.borrower) := map_set_of_eq (still_waiting hn hw) rfl
    rw [hwoken, hgone]
  · split
    · rw [hgone]
    · rfl

/-- A notification goes over from who owes it to one who sleeps, if there is any. -/
theorem Inv.notify (h : Inv limits r) (hn : r.visitors[number]? = some .owing) (woken : Nat) :
    Inv limits (r.notify number woken) := by
  refine ⟨crowd_notify hn ▸ h.crowd, ?_⟩
  rw [crowd_notify hn]
  unfold WaitingRoom.notify
  dsimp only
  split
  · next deadline hw =>
    intro _
    have hheeded := h.heeded (List.countP_pos_iff.2 ⟨_, List.mem_of_getElem? hw, rfl⟩)
    have howed : List.countP _ _ + 1 + 0 = r.owed + 0 + 0 := countP_notify (·.isOwing) hn hw
    have hnotified : List.countP _ _ + 0 + 0 = r.notified + 0 + 1 :=
      countP_notify (·.isNotified) hn hw
    simp only [owed, notified] at *
    omega
  · split
    · next hnone =>
      intro hwaits
      have hwaiting : List.countP _ _ + 0 = r.waiting + 0 := countP_set (·.isWaiting) .gone hn
      simp only [waiting] at *
      omega
    · exact h.heeded

end Notify

theorem Inv.next (h : Inv limits r) (event : Event) : Inv limits (r.next event) := by
  cases event with
  | come =>
    have hcome {p : Visitor → Bool} (hp : ∀ deadline, p (.arriving deadline) = false) :
        (r.next .come).visitors.countP p = r.visitors.countP p := by
      show (r.visitors ++ [_]).countP p = _
      rw [countP_append_one, hp]
      rfl
    have hcrowd : (r.next .come).crowd = r.crowd.next .come := by
      unfold WaitingRoom.crowd WaitingRoom.next
      rw [List.map_append]
      rfl
    refine ⟨hcrowd ▸ h.crowd.next .come, fun hwaits => ?_⟩
    unfold waiting at hwaits
    rw [hcome fun _ => rfl] at hwaits
    rw [held_eq, opening_eq, owed, notified, hcome fun _ => rfl, hcome fun _ => rfl,
      hcome fun _ => rfl, hcome fun _ => rfl, ← held_eq, ← opening_eq]
    exact h.heeded hwaits
  | wait span => exact ⟨h.crowd.next (.wait span), h.heeded⟩
  | act number act =>
    cases hn : r.visitors[number]? with
    | none => rwa [show r.next (.act number act) = r by simp only [WaitingRoom.next, hn]]
    | some visitor => exact h.act hn act
  | notify number woken =>
    unfold WaitingRoom.next
    dsimp only
    split
    · next hn => exact h.notify hn woken
    · exact h

theorem Inv.run (h : Inv limits r) (events : List Event) : Inv limits (r.run events) := by
  induction events generalizing r with
  | nil => exact h
  | cons event events ih => exact ih (h.next event)

/-! ## Free places -/

/-- The places that are free are those that nobody has. -/
theorem Inv.free_eq (h : Inv limits r) :
    r.free + (r.crowd.held + r.crowd.opening) = limits.maxConnections := by
  have hcount : r.pool.openCount = r.pool.idle.length + r.crowd.held + r.crowd.opening :=
    h.crowd.count
  have hbound : r.pool.openCount ≤ limits.maxConnections := h.crowd.bound
  have hlimits : r.pool.limits = limits := h.crowd.limited
  rw [free, hlimits]
  omega

/-- As long as a place is free, who gets into the lock gets one. -/
theorem Inv.served (h : Inv limits r) (hfree : 0 < r.free) {number : Nat} {deadline : Time}
    (hn : r.visitors[number]? = some (.notified deadline)) :
    (∃ slot, (r.next (.act number .enter)).visitors[number]? = some (.holding slot)) ∨
      (r.next (.act number .enter)).visitors[number]? = some .opening := by
  obtain ⟨hlt, -⟩ := List.getElem?_eq_some_iff.1 hn
  have hroom := h.free_eq
  have hturn : (r.pool.turn r.now).1 ≠ .mustWait :=
    h.crowd.turn_ne_mustWait (by omega) r.now
  have hstep : ((Visitor.notified deadline).step r.pool r.now .enter).1 =
      Visitor.ofBorrower .gone (.ofTurn deadline (r.pool.turn r.now).1) := rfl
  rw [next_act hn, hstep]
  dsimp only
  rw [List.getElem?_set_self hlt]
  cases hcase : (r.pool.turn r.now).1 with
  | reuse slot => exact .inl ⟨slot, rfl⟩
  | mayOpen => exact .inr rfl
  | mustWait => exact absurd hcase hturn

/-- As long as somebody sleeps whom nothing has woken, there are no more connections to be handed out
than notifications that are owed, or have been given to those who have not been in the lock since.
So where no notification is under way every place is taken; and where a place is free, somebody still
has to tell of it, or has been told and gets it with its next turn in the lock. -/
theorem no_wakeup_lost (path : String) (limits : Limits) (events : List Event) :
    let now := (start path limits).run events
    now.pool.openCount ≤ limits.maxConnections ∧
      (0 < now.waiting →
        now.pool.idle.length + (limits.maxConnections - now.pool.openCount) ≤
            now.owed + now.notified ∧
          (now.owed = 0 → now.notified = 0 →
            now.pool.idle = [] ∧ now.pool.openCount = limits.maxConnections) ∧
          (0 < now.pool.idle.length + (limits.maxConnections - now.pool.openCount) →
            .owing ∈ now.visitors ∨
              ∃ (number : Nat) (deadline : Time),
                now.visitors[number]? = some (.notified deadline) ∧
                ((∃ slot, (now.next (.act number .enter)).visitors[number]? =
                    some (.holding slot)) ∨
                  (now.next (.act number .enter)).visitors[number]? = some .opening))) := by
  intro now
  have h : Inv limits now := (inv_start path limits).run events
  have hbound : now.pool.openCount ≤ limits.maxConnections := h.crowd.bound
  have hlimits : now.pool.limits = limits := h.crowd.limited
  have hfree : now.free = now.pool.idle.length + (limits.maxConnections - now.pool.openCount) := by
    rw [free, hlimits]
  rw [← hfree]
  refine ⟨hbound, fun hwaits => ?_⟩
  have hheeded := h.heeded hwaits
  have hplaces := h.free_eq
  have htold : now.free ≤ now.owed + now.notified := by omega
  refine ⟨htold, ?_, ?_⟩
  · intro howed hnotified
    have hidle : now.pool.idle.length = 0 := by omega
    exact ⟨List.eq_nil_of_length_eq_zero hidle, by omega⟩
  · intro hroom
    by_cases howed : 0 < now.owed
    · obtain ⟨visitor, hm, howing⟩ := List.countP_pos_iff.1 howed
      cases visitor <;> first | exact .inl hm | cases howing
    · have hnotified : 0 < now.notified := by omega
      obtain ⟨visitor, hm, htold⟩ := List.countP_pos_iff.1 hnotified
      obtain ⟨number, hn⟩ := List.getElem?_of_mem hm
      cases visitor with
      | notified deadline => exact .inr ⟨number, deadline, hn, h.served hroom hn⟩
      | _ => cases htold

/-- Two have all there is and two more sleep. One connection is closed and one is given back; the first
notification has been given and the second is owed when a newcomer takes the idle connection. One
still sleeps, one place is free, and two are concerned with it. -/
theorem no_wakeup_lost_stolen :
    let limits := { Limits.standard with maxConnections := 2 }
    let events : List Event := [.come, .come, .come, .come, .act 0 .enter,
      .act 0 (.opened Crowd.inMemory), .act 1 .enter, .act 1 (.opened Crowd.inMemory),
      .act 2 .enter, .act 3 .enter, .act 0 .discard, .act 1 .release, .notify 0 2, .come,
      .act 4 .enter]
    let now := (start "geo.db" limits).run events
    0 < now.waiting ∧ now.pool.idle.length + (2 - now.pool.openCount) = 1 ∧
      1 ≤ now.owed + now.notified ∧ now.owed = 1 ∧ now.notified = 1 := by
  intro limits events now
  have hwaits : 0 < now.waiting := by decide
  have hfree : now.pool.idle.length + (2 - now.pool.openCount) = 1 := by decide
  have hnow : (start "geo.db" limits).run events = now := rfl
  obtain ⟨-, hlaw⟩ := no_wakeup_lost "geo.db" limits events
  rw [hnow] at hlaw
  have hle : now.pool.idle.length + (2 - now.pool.openCount) ≤ now.owed + now.notified :=
    (hlaw hwaits).1
  rw [hfree] at hle
  exact ⟨hwaits, hfree, hle, by decide, by decide⟩

end WaitingRoom

end Gazetteer.Pool
