/-
Gazetteer.Proofs.Store.Return — connections come back clean.

Whoever uses a store alone finds it as it was: no connection is in use, every one of
them is outside any transaction, and the next operation is served. Whoever uses it with
others, statement by statement, comes to an end, and then gives back a connection that
is outside any transaction. It makes no difference what has gone wrong.
-/
import Gazetteer.Proofs.Store.Operation
import Gazetteer.Proofs.Store.Team

namespace Gazetteer.Store

variable {path : String} {options : Options} {limits : Pool.Limits} {s : Relational}
  {w opened : World} {closed : List Pool.Slot}

namespace Relational

/-- The connection is never idle again. -/
def HasClosed (s : Relational) (w : World) (slot : Pool.Slot) : Prop :=
  ∀ steps : List ((World → World) × Operation), ¬ IsAmong slot (s.operateAll w steps).1.pool.idle

/-- What an operation leaves behind that nobody else disturbs: nothing more in use than before, idle
connections outside any transaction, and no leak in the notices. It has not waited too long. If it
has taken a connection, that is idle or closed; and closed if a location was not written back. -/
structure GivesBack (s : Relational) (w : World) (taken : Report × Relational × World) : Prop where
  inUse : taken.2.1.pool.stats.inUse = s.pool.stats.inUse
  outside : ∀ idle ∈ taken.2.1.pool.idle, idle.connection.isInTransaction = false
  quiet : KeepsQuiet w taken.2.2
  served : (w.acquire s.pool).1 ≠ .error .timeout
  report : taken.1 ≠ .written (.error (.pool .timeout))
  place : taken.2 = (s, w) ∨ ∀ slot, (w.acquire s.pool).1 = .ok slot →
    IsAmong slot taken.2.1.pool.idle ∨ taken.2.1.HasClosed taken.2.2 slot
  unsaved : taken.1.isUnsaved = true →
    ∃ slot, (w.acquire s.pool).1 = .ok slot ∧ taken.2.1.HasClosed taken.2.2 slot

theorem IsAtRest.inUse (h : s.IsAtRest limits closed) : s.pool.stats.inUse = 0 := by
  have hcount : s.pool.openCount = s.pool.idle.length + 0 + 0 := h.count
  show s.pool.openCount - s.pool.idle.length = 0
  omega

theorem IsAtRest.hasClosed {slot : Pool.Slot} (h : s.IsAtRest limits closed)
    (hroom : 0 < limits.maxConnections) (w : World) (hm : IsAmong slot closed) :
    s.HasClosed w slot := by
  rintro steps ⟨idle, hidle, heq⟩
  obtain ⟨more, hrest⟩ := operateAll_settled h hroom w steps
  obtain ⟨gone, hgone, hsame⟩ := hm
  exact (Pool.Crowd.Inv.closed hrest (List.mem_append_left _ hgone)).1 idle hidle
    (heq.trans hsame.symm)

theorem givesBack (h : s.IsAtRest limits closed) (hroom : 0 < limits.maxConnections) (w : World)
    (operation : Operation) : GivesBack s w (s.operate w operation) := by
  obtain ⟨more, hsettled⟩ := operate_settled h hroom w operation
  have hclosed {slot : Pool.Slot} (hm : IsAmong slot more) :
      (s.operate w operation).2.1.HasClosed (s.operate w operation).2.2 slot := by
    obtain ⟨gone, hgone, heq⟩ := hm
    exact hsettled.rest.hasClosed hroom _ ⟨gone, List.mem_append_right _ hgone, heq⟩
  refine ⟨hsettled.rest.inUse.trans h.inUse.symm, hsettled.rest.free, hsettled.quiet,
    hsettled.served, hsettled.report, ?_, ?_⟩
  · obtain hnothing | hplace := hsettled.place
    · exact .inl hnothing
    · exact .inr fun slot hslot => (hplace slot hslot).imp id hclosed
  · intro hunsaved
    obtain ⟨slot, hslot, hm⟩ := hsettled.unsaved hunsaved
    exact ⟨slot, hslot, hclosed hm⟩

end Relational

namespace Team

variable {t : Team}

/-- What holds among many callers: as many connections are in use as callers hold or open one, and as
long as there is room for one more nobody has to wait. Whoever has a connection comes to an end, and
then gives it back clean. -/
structure IsOrderly (limits : Pool.Limits) (t : Team) : Prop where
  inUse : t.pool.stats.inUse =
    t.callers.countP (·.borrower.isHolding) + t.callers.countP (·.borrower.isOpening)
  outside : ∀ idle ∈ t.pool.idle, idle.connection.isInTransaction = false
  quiet : .leakedTransaction ∉ t.notices
  served : t.pool.stats.inUse < limits.maxConnections →
    ∀ time, (t.pool.turn time).1 ≠ .mustWait
  ends : ∀ i caller slot, t.callers[i]? = some caller → caller.borrower = .holding slot →
    ∃ n, ∀ events : List Event, n ≤ events.countP (·.isSpeak i) →
      ∃ later result, (t.run events).callers[i]? = some later ∧ later.rest = .done result
  parts : ∀ i slot result, t.callers[i]? = some ⟨.holding slot, .done result⟩ →
    Parted t i slot result (t.next (.part i))
  closed : ∀ slot ∈ t.closed, ∀ events, ∀ idle ∈ (t.run events).pool.idle,
    idle.connection.serial ≠ slot.connection.serial

theorem inv_atStore (h : s.IsAtRest limits closed) (now : Time) :
    Inv limits (atStore s now closed) :=
  ⟨h.at_time now, fun _ hm => absurd hm List.not_mem_nil, List.not_mem_nil⟩

theorem Inv.isOrderly (h : Inv limits t) : IsOrderly limits t := by
  refine ⟨h.inUse, h.pool.free, h.quiet, ?_, fun _ _ _ hi hheld => h.ended_of_speaks hi hheld,
    fun _ _ _ hi => h.parted hi, fun _ hm => h.not_idle_of_closed hm⟩
  intro hroom
  refine h.pool.turn_ne_mustWait ?_
  have hheld : t.crowd.held = t.callers.countP (·.borrower.isHolding) := List.countP_map
  have hopening : t.crowd.opening = t.callers.countP (·.borrower.isOpening) := List.countP_map
  rwa [hheld, hopening, ← h.inUse]

end Team

/-- The options of a store that has a single connection. -/
def single : Options := ⟨true, 1, { Pool.Limits.standard with maxConnections := 1 }⟩

/-- Of a store that has been opened, every operation gives its connection back clean, whatever has
happened to the world before it and whatever its statements come to: in one piece after any number of
others, and among the statements of any number of others. -/
theorem connections_come_back
    (h : Relational.openExisting w path options = (.ok s, opened) ∨
      Relational.create w path options = (.ok s, opened)) :
    (∀ (steps : List ((World → World) × Operation)) (change : World → World)
        (operation : Operation),
      let now := s.operateAll opened steps
      now.1.pool.stats.inUse = 0 ∧
        now.1.GivesBack (change now.2) (now.1.operate (change now.2) operation)) ∧
      ∃ closed, ∀ events : List Team.Event,
        ((Team.atStore s opened.now closed).run events).IsOrderly options.limits := by
  obtain ⟨hroom, closed, hrest⟩ := h.elim Relational.openExisting_isAtRest
    Relational.create_isAtRest
  refine ⟨?_, closed, ?_⟩
  · intro steps change operation now
    obtain ⟨more, hnow⟩ := Relational.operateAll_settled hrest hroom opened steps
    exact ⟨hnow.inUse, Relational.givesBack hnow hroom _ operation⟩
  · intro events
    exact ((Team.inv_atStore hrest opened.now).run events).isOrderly

/-- A block whose rows break off in the middle, and a location that is found and cannot be written
back: the only connection of the store is closed, and nothing is in use. -/
theorem connections_come_back_broken :
    ∃ (s now after : Relational) (w mid later : World) (report : Report),
      Relational.create .start "geo.db" single = (.ok s, w) ∧
        s.operateAll w [
            (id, .putPlace ⟨1, .text "Netherlands", .text "North Holland", .text "Haarlem"⟩),
            (fun w => { w with faults := [false, true] }, .addBlock "10.0.0.0/15" 1),
            (id, .addBlock "10.0.0.0/15" 1)] = (now, mid) ∧
        now.operate { mid with faults := [false, false, true] } (.resolve "10.1.2.3") =
          (report, after, later) ∧
        report.isUnsaved = true ∧ after.pool.idle.length = 0 ∧ after.pool.stats.inUse = 0 ∧
        ∃ slot : Pool.Slot, after.HasClosed later slot := by
  let steps : List ((World → World) × Operation) := [
    (id, .putPlace ⟨1, .text "Netherlands", .text "North Holland", .text "Haarlem"⟩),
    (fun w => { w with faults := [false, true] }, .addBlock "10.0.0.0/15" 1),
    (id, .addBlock "10.0.0.0/15" 1)]
  let hurt (w : World) : World := { w with faults := [false, false, true] }
  have hworks : ((Relational.create .start "geo.db" single).1.toOption.any fun s =>
      let now := s.operateAll (Relational.create .start "geo.db" single).2 steps
      let taken := now.1.operate (hurt now.2) (.resolve "10.1.2.3")
      taken.1.isUnsaved && taken.2.1.pool.idle.length == 0) = true := by decide +kernel
  rcases hs : Relational.create .start "geo.db" single with ⟨cause | s, w⟩
  · rw [hs] at hworks
    cases hworks
  obtain ⟨hinUse, hgives⟩ :=
    (connections_come_back (.inr hs)).1 steps hurt (.resolve "10.1.2.3")
  rw [hs] at hworks
  rcases hnow : s.operateAll w steps with ⟨now, mid⟩
  rcases htaken : now.operate (hurt mid) (.resolve "10.1.2.3") with ⟨report, after, later⟩
  simp only [hnow, htaken, Except.toOption, Option.any_some, Bool.and_eq_true, beq_iff_eq]
    at hworks hinUse hgives
  obtain ⟨hunsaved, hempty⟩ := hworks
  obtain ⟨slot, -, hclosed⟩ := hgives.unsaved hunsaved
  exact ⟨s, now, after, w, mid, later, report, rfl, hnow, htaken, hunsaved, hempty,
    hgives.inUse.trans hinUse, slot, hclosed⟩

end Gazetteer.Store
