/-
Gazetteer.Proofs.Store.Alone — an operation in one piece is a run of one caller.

A caller that nobody disturbs takes its connection like a borrower alone, says its
statements one after another to what the connection finds, and parts. That is what a
store does when it performs an operation: pool, clock and report are the same.
-/
import Gazetteer.Proofs.Store.Operation
import Gazetteer.Proofs.Store.Progress

namespace Gazetteer.Store

variable {persists : Bool} {pool : Pool} {now : Time} {closed : List Pool.Slot}
  {notices : List Notice} {script : Script (Except StoreError Answer)} {s : Relational} {w : World}
  {operation : Operation}

namespace Team

/-- One caller and nobody else. -/
def alone (persists : Bool) (pool : Pool) (now : Time) (caller : Caller) (closed : List Pool.Slot)
    (notices : List Notice) : Team := ⟨persists, pool, now, [caller], closed, notices⟩

/-- A caller that is answered by the pool in the end. -/
def served (script : Script (Except StoreError Answer)) : Except PoolError Pool.Slot → Caller
  | .ok slot => ⟨.holding slot, script⟩
  | .error cause => ⟨.gone, .done (.error (.pool cause))⟩

theorem run_append (t : Team) (first second : List Event) :
    t.run (first ++ second) = (t.run first).run second := List.foldl_append

/-- To take a connection is a run of one caller, -/
theorem run_seek (persists : Bool) (w : World) (pool : Pool)
    (script : Script (Except StoreError Answer)) (closed : List Pool.Slot) (notices : List Notice) :
    ∃ events, (alone persists pool w.now ⟨.arriving (w.now + pool.limits.acquireTimeout), script⟩
        closed notices).run events =
      alone persists (w.acquire pool).2.1 (w.acquire pool).2.2.now (served script (w.acquire pool).1)
        (closed ++ pool.stale w.tick.now) notices := by
  let deadline := w.now + pool.limits.acquireTimeout
  have hrequest {turn : Pool.Turn} {kept : Pool} (hturn : pool.turn w.tick.now = (turn, kept)) :
      (alone persists pool w.now ⟨.arriving deadline, script⟩ closed notices).run
          [.wait 1, .seek 0 .request] =
        alone persists kept w.tick.now ⟨.ofTurn deadline turn, script⟩
          (closed ++ pool.stale w.tick.now) notices := by
    have hstep : Pool.Borrower.step pool w.tick.now (.arriving deadline) .request =
        (.ofTurn deadline turn, kept, pool.stale w.tick.now) := by
      rw [Pool.Borrower.step, Pool.Borrower.request, hturn]
    show Team.seek (alone persists pool w.tick.now _ closed notices) 0
      ⟨.arriving deadline, script⟩ .request = _
    simp only [Team.seek, Team.move, alone, hstep]
    cases turn <;> rfl
  have htakes := Pool.Crowd.takes_acquire w pool
  generalize (w.acquire pool).1 = taken, (w.acquire pool).2.1 = after,
    (w.acquire pool).2.2.now = time at htakes ⊢
  cases htakes with
  | reuse hturn => exact ⟨_, hrequest hturn⟩
  | opened hturn handle =>
    refine ⟨[.wait 1, .seek 0 .request] ++ [.seek 0 (.opened handle)], ?_⟩
    rw [run_append, hrequest hturn]
    show alone _ _ _ _ (closed ++ _ ++ []) _ = _
    rw [List.append_nil]
    rfl
  | failed hturn =>
    refine ⟨[.wait 1, .seek 0 .request] ++ [.seek 0 .failed], ?_⟩
    rw [run_append, hrequest hturn]
    show alone _ _ _ _ (closed ++ _ ++ []) _ = _
    rw [List.append_nil]
    rfl
  | timeout hturn =>
    refine ⟨[.wait 1, .seek 0 .request] ++
      [.wait pool.limits.acquireTimeout, .seek 0 .giveUp], ?_⟩
    have hpast : deadline ≤ w.tick.now + pool.limits.acquireTimeout :=
      Nat.add_le_add_right (Nat.le_succ w.now) _
    have hgone : Pool.Borrower.step after (w.tick.now + pool.limits.acquireTimeout)
        (.waiting deadline) .giveUp = (.gone, after, []) := by
      rw [Pool.Borrower.step, if_pos hpast]
    rw [run_append, hrequest hturn]
    show Team.seek (alone persists after (w.tick.now + pool.limits.acquireTimeout) _ _ notices) 0
      ⟨.waiting deadline, script⟩ .giveUp = _
    simp only [Team.seek, Team.move, alone, hgone, List.append_nil]
    rfl

/-- A caller that has been through with its script. -/
def spoken (slot : Pool.Slot) (handle : Handle) (last : Except StoreError Answer × Desk) : Caller :=
  ⟨.holding { slot with connection := { slot.connection with handle, draft := last.2.draft } },
    .done last.1⟩

theorem next_speak_alone {slot : Pool.Slot} {desk : Desk} (hd : desk.draft = slot.connection.draft)
    (handle : Handle) :
    (alone persists pool now ⟨.holding slot, script⟩ closed notices).next (.speak 0 desk handle) =
      alone persists pool now
        ⟨.holding { slot with
            connection := { slot.connection with handle, draft := (script.step desk).2.draft } },
          (script.step desk).1⟩ closed notices := by
  show Team.speak _ 0 ⟨.holding slot, script⟩ desk handle = _
  simp only [Team.speak, ← hd]
  rfl

/-- so is to run a script with it, -/
theorem run_speak (persists : Bool) (pool : Pool) (now : Time) {slot : Pool.Slot} {desk : Desk}
    (hd : desk.draft = slot.connection.draft) (handle : Handle)
    (script : Script (Except StoreError Answer)) (closed : List Pool.Slot)
    (notices : List Notice) :
    ∃ events, (alone persists pool now ⟨.holding slot, script⟩ closed notices).run events =
      alone persists pool now (spoken slot handle (script.run desk)) closed notices := by
  have hfirst {script : Script (Except StoreError Answer)} {slot : Pool.Slot} {desk : Desk}
      (hd : desk.draft = slot.connection.draft)
      (hrest : ∀ mid : Pool.Slot, (script.step desk).2.draft = mid.connection.draft →
        ∃ events, (alone persists pool now ⟨.holding mid, (script.step desk).1⟩ closed notices).run
          events = alone persists pool now
            (spoken mid handle ((script.step desk).1.run (script.step desk).2)) closed notices) :
      ∃ events, (alone persists pool now ⟨.holding slot, script⟩ closed notices).run events =
        alone persists pool now (spoken slot handle (script.run desk)) closed notices := by
    obtain ⟨events, hevents⟩ := hrest { slot with
      connection := { slot.connection with handle, draft := (script.step desk).2.draft } } rfl
    refine ⟨.speak 0 desk handle :: events, ?_⟩
    show ((alone _ _ _ _ _ _).next (.speak 0 desk handle)).run events = _
    rw [next_speak_alone hd, hevents, Script.run_step]
    rfl
  -- on the script: its first statement, and then what is left of it
  induction script generalizing slot desk with
  | done result => exact ⟨[.speak 0 desk handle], next_speak_alone hd handle⟩
  | tell notice next ih => exact hfirst hd fun _ => ih
  | encode address next ih => exact hfirst hd fun _ => ih _
  | ask query next ih => exact hfirst hd fun _ => ih _
  | hasTable table next ih => exact hfirst hd fun _ => ih _
  | execute command next ih => exact hfirst hd fun _ => ih _

/-- and so is to part with it. -/
theorem run_part (persists : Bool) (w : World) (pool : Pool) (slot : Pool.Slot)
    (result : Except StoreError Answer) (closed : List Pool.Slot) (notices : List Notice) :
    ∃ gone told, (alone persists pool w.now ⟨.holding slot, .done result⟩ closed notices).run
        [.wait 1, .part 0] =
      alone persists
        (if result.toOption.any (·.closes) then w.discard pool slot else w.release pool slot).1
        (if result.toOption.any (·.closes) then w.discard pool slot else w.release pool slot).2.now
        ⟨.gone, .done result⟩ gone told := by
  show ∃ gone told, Team.part (alone persists pool w.tick.now _ closed notices) 0
    ⟨.holding slot, .done result⟩ = _
  unfold Team.part
  dsimp only
  split
  · exact ⟨_, _, rfl⟩
  · rw [Pool.Crowd.release_now]
    exact ⟨_, _, rfl⟩

end Team

namespace Relational

/-- The file of whatever connection the store gets is there. -/
def HasFile (s : Relational) (w : World) : Prop :=
  ∀ slot pool mid, w.acquire s.pool = (.ok slot, pool, mid) →
    (mid.disk.approach slot.connection.handle).sheet?.isSome = true

/-- A script that a store runs with a connection is run by a caller that has it. -/
theorem talk_spoken {slot parted : Pool.Slot} {result : Except StoreError Answer}
    {after : Relational} {later : World}
    (hfile : (w.disk.approach slot.connection.handle).sheet?.isSome = true)
    (h : s.talk w slot script (.error .query) = (result, parted, after, later)) :
    ∃ desk handle, desk.draft = slot.connection.draft ∧
      Team.spoken slot handle (script.run desk) = ⟨.holding parted, .done result⟩ ∧
      after.pool = s.pool ∧ later.now = w.now := by
  obtain ⟨sheet, hsheet⟩ := Option.isSome_iff_exists.1 hfile
  unfold talk desk? at h
  dsimp only at h
  rw [hsheet] at h
  cases h
  exact ⟨_, _, rfl, rfl, rfl, rfl⟩

/-- To perform a script in one piece is a run of one caller. -/
theorem run_perform (hfile : s.HasFile w) (script : Script (Except StoreError Answer))
    (closed : List Pool.Slot) (notices : List Notice) :
    ∃ events gone told,
      (Team.alone s.persists s.pool w.now
          ⟨.arriving (w.now + s.pool.limits.acquireTimeout), script⟩ closed notices).run events =
        Team.alone s.persists (s.perform w script (·.closes)).2.1.pool
          (s.perform w script (·.closes)).2.2.now
          ⟨.gone, .done (s.perform w script (·.closes)).1⟩ gone told := by
  obtain ⟨seeks, hseeks⟩ := Team.run_seek s.persists w s.pool script closed notices
  unfold perform
  rcases hacquire : w.acquire s.pool with ⟨taken, pool, mid⟩
  rw [hacquire] at hseeks
  cases taken with
  | error cause => exact ⟨seeks, _, _, hseeks⟩
  | ok slot =>
    rcases htalk : Relational.talk { s with pool } mid slot script (.error .query)
      with ⟨result, parted, after, later⟩
    obtain ⟨desk, handle, hdraft, hspoken, hpool, hnow⟩ :=
      talk_spoken (hfile slot pool mid hacquire) htalk
    have hpool : after.pool = pool := hpool
    let left := closed ++ s.pool.stale w.tick.now
    obtain ⟨speaks, hspeaks⟩ :=
      Team.run_speak s.persists pool mid.now hdraft handle script left notices
    obtain ⟨gone, told, hpart⟩ := Team.run_part s.persists later pool parted result left notices
    refine ⟨seeks ++ (speaks ++ [.wait 1, .part 0]), gone, told, ?_⟩
    rw [Team.run_append, hseeks, Team.run_append]
    show ((Team.alone s.persists pool mid.now ⟨.holding slot, script⟩ left notices).run _).run _ = _
    rw [hspeaks, hspoken, ← hnow, hpart]
    simp only [htalk, hpool]
    cases result <;> rfl

end Relational

/-- An operation in one piece is a run of one caller that nobody disturbs. -/
theorem Team.run_alone (h : operation.script s.persists = .ok script) (hfile : s.HasFile w)
    (closed : List Pool.Slot) :
    ∃ events result gone told,
      (atStore s w.now closed).run (.come operation :: events) =
          alone s.persists (s.operate w operation).2.1.pool (s.operate w operation).2.2.now
            ⟨.gone, .done result⟩ gone told ∧
        (s.operate w operation).1 = operation.report result := by
  obtain ⟨more, -, hoperate⟩ := Relational.operate_eq w h
  obtain ⟨events, gone, told, hrun⟩ := Relational.run_perform hfile script closed []
  rw [hoperate]
  refine ⟨events, _, gone, told, Eq.trans ?_ hrun, rfl⟩
  show Team.run (Team.next _ (.come operation)) events = _
  simp only [next, atStore, h, alone, List.nil_append]

end Gazetteer.Store
