/-
Gazetteer.Proofs.Store.Operation — an operation gives its connection back.

Between two operations a store has idle connections only, all of them outside any
transaction. An operation takes one of them or opens one, and its script ends outside
any transaction whatever happens to its statements. So the connection is idle
afterwards or closed, and the next operation is served.
-/
import Gazetteer.Proofs.Pool.Rest
import Gazetteer.Proofs.Store.Opening
import Gazetteer.Proofs.Store.Report

namespace Gazetteer.Store

open Gazetteer.Pool

variable {α : Type} {limits : Limits} {s : Relational} {w mid later : World} {closed : List Slot}
  {n : Nat}

/-! ## Notices -/

/-- Some notices have been given, and none of them is about a leak. -/
def KeepsQuiet (w later : World) : Prop :=
  ∃ notices, later.notices = w.notices ++ notices ∧ .leakedTransaction ∉ notices

theorem KeepsQuiet.of_eq (h : later.notices = w.notices) : KeepsQuiet w later :=
  ⟨[], by rw [h, List.append_nil], List.not_mem_nil⟩

theorem KeepsQuiet.trans (h1 : KeepsQuiet w mid) (h2 : KeepsQuiet mid later) :
    KeepsQuiet w later := by
  obtain ⟨first, hfirst, hn1⟩ := h1
  obtain ⟨second, hsecond, hn2⟩ := h2
  refine ⟨first ++ second, by rw [hsecond, hfirst, List.append_assoc], ?_⟩
  rw [List.mem_append]
  exact not_or.2 ⟨hn1, hn2⟩

theorem keepsQuiet_tell {notices : List Notice} (h : .leakedTransaction ∉ notices) :
    KeepsQuiet w (w.tell notices) := ⟨notices, rfl, h⟩

namespace Relational

/-! ## One operation -/

/-- A script on a connection outside any transaction leaves it outside; it stays the same
connection. -/
theorem talk_settled {slot parted : Slot} {script : Script α} {lost result : α}
    {after : Relational} (hs : script.Settles n false) (hd : slot.connection.draft = none)
    (h : s.talk w slot script lost = (result, parted, after, later)) :
    parted.connection.draft = none ∧ parted.connection.serial = slot.connection.serial ∧
      after.pool = s.pool ∧ later.now = w.now ∧ KeepsQuiet w later ∧
      (result = lost ∨ ∃ desk, result = (script.run desk).1) := by
  unfold talk at h
  dsimp only at h
  split at h
  · cases h
    exact ⟨hd, rfl, rfl, rfl, .of_eq rfl, .inl rfl⟩
  · next desk hdesk =>
    obtain ⟨sheet, -, hdesk⟩ := Option.map_eq_some_iff.1 hdesk
    have hdraft : desk.draft = none := by rw [← hdesk, hd]
    have hnotices : desk.notices = [] := by rw [← hdesk]
    obtain ⟨hend, hquiet⟩ := hs.run_outside hdraft
    cases h
    exact ⟨hend, rfl, rfl, rfl, keepsQuiet_tell (hquiet (by simp [hnotices])), .inr ⟨desk, rfl⟩⟩

/-- The store has idle connections only; those that it has closed are kept in mind. -/
def IsAtRest (limits : Limits) (closed : List Slot) (s : Relational) : Prop :=
  Pool.Crowd.Inv limits ⟨s.pool, 0, [], closed⟩

/-- The connection is among some connections. -/
def IsAmong (slot : Slot) (slots : List Slot) : Prop :=
  ∃ other ∈ slots, other.connection.serial = slot.connection.serial

/-- What a store has come to after an operation on a connection: it has nothing but idle connections,
and the one that was taken is idle or closed. -/
structure Returns (limits : Limits) (closed more : List Slot) (script : Script (Except StoreError α))
    (closes : α → Bool) (slot : Slot) (taken : Except StoreError α × Relational × World) : Prop where
  rest : taken.2.1.IsAtRest limits (closed ++ more)
  result : taken.1 = .error .query ∨ ∃ desk, taken.1 = (script.run desk).1
  place : IsAmong slot taken.2.1.pool.idle ∨ IsAmong slot more
  closed : ∀ value, taken.1 = .ok value → closes value = true → IsAmong slot more

theorem Returns.widen {first more : List Slot} {script : Script (Except StoreError α)}
    {closes : α → Bool} {slot : Slot} {taken : Except StoreError α × Relational × World}
    (h : Returns limits (closed ++ first) more script closes slot taken) :
    Returns limits closed (first ++ more) script closes slot taken := by
  have hwiden : IsAmong slot more → IsAmong slot (first ++ more) := by
    rintro ⟨other, hm, heq⟩
    exact ⟨other, List.mem_append_right _ hm, heq⟩
  refine ⟨?_, h.result, h.place.imp id hwiden, fun value hv hc => hwiden (h.closed value hv hc)⟩
  rw [← List.append_assoc]
  exact h.rest

/-- A connection outside any transaction that its holder closes. -/
theorem discard_holding {slot : Slot} {pool : Pool}
    (h : Pool.Crowd.Inv limits ⟨pool, w.now, [.holding slot], closed⟩) :
    Pool.Crowd.Inv limits ⟨(w.discard pool slot).1, 0, [], closed ++ [slot]⟩ ∧
      KeepsQuiet w (w.discard pool slot).2 := by
  have hrun := h.run [.wait 1, .move 0 .discard]
  rw [Pool.Crowd.run_discard] at hrun
  exact ⟨hrun.of_gone 0, .of_eq rfl⟩

/-- A connection outside any transaction that is given back is idle or closed, and not as a leak. -/
theorem release_holding {slot : Slot} {pool : Pool} (hd : slot.connection.draft = none)
    (h : Pool.Crowd.Inv limits ⟨pool, w.now, [.holding slot], closed⟩) :
    ∃ more, Pool.Crowd.Inv limits ⟨(w.release pool slot).1, 0, [], closed ++ more⟩ ∧
      (IsAmong slot (w.release pool slot).1.idle ∨ IsAmong slot more) ∧
      KeepsQuiet w (w.release pool slot).2 := by
  have houtside : slot.connection.isInTransaction = false := by
    simp [Connection.isInTransaction, hd]
  have hrun := h.run [.wait 1, .move 0 .release]
  rw [Pool.Crowd.run_release] at hrun
  refine ⟨_, hrun.of_gone 0, ?_, ?_⟩
  · cases hk : pool.keeps slot w.tick.now with
    | true => exact .inl ⟨_, Pool.mem_idle_release hk, rfl⟩
    | false => exact .inr ⟨slot, List.mem_singleton_self slot, rfl⟩
  · refine .of_eq ?_
    rw [World.release_notices, Pool.release_notices houtside, List.append_nil]

theorem perform_returns {slot : Slot} {pool : Pool} {script : Script (Except StoreError α)}
    (hs : script.Settles n false) (closes : α → Bool) (hd : slot.connection.draft = none)
    (hacquire : w.acquire s.pool = (.ok slot, pool, mid))
    (h : Pool.Crowd.Inv limits ⟨pool, mid.now, [.holding slot], closed⟩) :
    ∃ more, Returns limits closed more script closes slot (s.perform w script closes) ∧
      KeepsQuiet mid (s.perform w script closes).2.2 := by
  unfold perform
  rw [hacquire]
  rcases htalk : Relational.talk { s with pool } mid slot script (.error .query)
    with ⟨result, parted, after, w2⟩
  obtain ⟨hdraft, hserial, hpool, hnow, hquiet, hresult⟩ := talk_settled hs hd htalk
  have hheld : Pool.Crowd.Inv limits ⟨pool, w2.now, [.holding parted], closed⟩ := by
    rw [hnow]
    exact h.rework (i := 0) rfl hserial
  have hpool : after.pool = pool := hpool
  have hamong {slots : List Slot} (hm : IsAmong parted slots) : IsAmong slot slots := by
    obtain ⟨other, hm, heq⟩ := hm
    exact ⟨other, hm, heq.trans hserial⟩
  obtain ⟨hclosed, hquiet1⟩ := discard_holding hheld
  obtain ⟨more, hopen, hplace, hquiet2⟩ := release_holding hdraft hheld
  simp only [htalk, hpool]
  cases result with
  | error cause =>
    exact ⟨more, ⟨hopen, hresult, hplace.imp hamong hamong, by simp⟩, hquiet.trans hquiet2⟩
  | ok value =>
    dsimp only
    by_cases hc : closes value = true
    · have hparted : IsAmong slot [parted] := hamong ⟨parted, List.mem_singleton_self _, rfl⟩
      rw [if_pos hc]
      exact ⟨[parted], ⟨hclosed, hresult, .inr hparted, fun _ _ _ => hparted⟩,
        hquiet.trans hquiet1⟩
    · rw [if_neg hc]
      refine ⟨more, ⟨hopen, hresult, hplace.imp hamong hamong, ?_⟩, hquiet.trans hquiet2⟩
      intro other heq hother
      obtain rfl := Except.ok.inj heq
      exact absurd hother hc

/-- An operation gets no connection, and there is a reason other than that it has waited too long, or
it takes one and gives it back. -/
theorem perform_settled {script : Script (Except StoreError α)} (hs : script.Settles n false)
    (closes : α → Bool) (h : s.IsAtRest limits closed) (hroom : 0 < limits.maxConnections)
    (w : World) :
    (w.acquire s.pool).1 ≠ .error .timeout ∧
      KeepsQuiet w (s.perform w script closes).2.2 ∧
      ∃ more, (∃ cause, (w.acquire s.pool).1 = .error cause ∧
          (s.perform w script closes).1 = .error (.pool cause) ∧
          (s.perform w script closes).2.1.IsAtRest limits (closed ++ more)) ∨
        ∃ slot, (w.acquire s.pool).1 = .ok slot ∧
          Returns limits closed more script closes slot (s.perform w script closes) := by
  have hturn : (s.pool.turn w.tick.now).1 ≠ .mustWait := h.turn_ne_mustWait hroom _
  have hserved := World.acquire_ne_timeout hturn
  have hnotices := World.acquire_notices w s.pool
  obtain ⟨events, hevents⟩ := Pool.Crowd.run_acquire w s.pool closed
  have hrun := (h.at_time w.now).run events
  rw [show Pool.Crowd.run ⟨s.pool, w.now, [], closed⟩ events = _ from hevents] at hrun
  rcases hacquire : w.acquire s.pool with ⟨taken, pool, mid⟩
  rw [hacquire] at hserved hnotices hrun
  refine ⟨hserved, ?_⟩
  cases taken with
  | error cause =>
    have hperform : s.perform w script closes = (.error (.pool cause), { s with pool }, mid) := by
      unfold perform
      rw [hacquire]
    rw [hperform]
    exact ⟨.of_eq hnotices, _, .inl ⟨cause, rfl, rfl, hrun.of_gone 0⟩⟩
  | ok slot =>
    have hdraft := World.acquire_outside h.free hacquire
    obtain ⟨more, hreturns, hquiet⟩ := perform_returns hs closes hdraft hacquire hrun
    exact ⟨KeepsQuiet.trans (.of_eq hnotices) hquiet, _, .inr ⟨slot, rfl, hreturns.widen⟩⟩

/-- A performed script leaves the store at rest. -/
theorem perform_isAtRest {script : Script (Except StoreError α)} (hs : script.Settles n false)
    (closes : α → Bool) (h : s.IsAtRest limits closed) (hroom : 0 < limits.maxConnections)
    (w : World) : ∃ more, (s.perform w script closes).2.1.IsAtRest limits (closed ++ more) := by
  obtain ⟨-, -, more, ⟨cause, -, -, hrest⟩ | ⟨slot, -, hreturns⟩⟩ :=
    perform_settled hs closes h hroom w
  · exact ⟨more, hrest⟩
  · exact ⟨more, hreturns.rest⟩

theorem prepare_isAtRest {path : String} {options : Options} (h : prepare path options = .ok s) :
    s.IsAtRest options.limits [] ∧ 0 < options.limits.maxConnections := by
  have hpool : s.pool = .new path options.limits := (prepare_ok h).1
  refine ⟨?_, Nat.pos_of_ne_zero fun hzero => ?_⟩
  · unfold IsAtRest
    rw [hpool]
    exact Pool.Crowd.inv_start path options.limits
  · unfold prepare at h
    rw [if_pos hzero] at h
    split at h <;> cases h

/-- A store that has just been opened is at rest. -/
theorem openExisting_isAtRest {path : String} {options : Options}
    (h : openExisting w path options = (.ok s, later)) :
    0 < options.limits.maxConnections ∧ ∃ closed, s.IsAtRest options.limits closed := by
  unfold openExisting at h
  split at h
  · cases h
  · next prepared hprepare =>
    obtain ⟨hrest, hroom⟩ := prepare_isAtRest hprepare
    obtain ⟨more, hrest⟩ := perform_isAtRest
      (Script.settles_firstMissing [.saved, .blocks, .places]) (fun _ => false) hrest hroom w
    refine ⟨hroom, [] ++ more, ?_⟩
    unfold performAndKeep at h
    split at h
    · cases h
    · cases h
    · next after mid hperform =>
      rw [hperform] at hrest
      cases h
      exact hrest

theorem create_isAtRest {path : String} {options : Options}
    (h : create w path options = (.ok s, later)) :
    0 < options.limits.maxConnections ∧ ∃ closed, s.IsAtRest options.limits closed := by
  unfold create at h
  split at h
  · cases h
  · next prepared hprepare =>
    obtain ⟨hrest, hroom⟩ := prepare_isAtRest hprepare
    obtain ⟨more, hrest⟩ := perform_isAtRest Script.settles_createTables (fun _ => false) hrest
      hroom w
    refine ⟨hroom, [] ++ more, ?_⟩
    unfold createTables performAndKeep at h
    split at h
    · cases h
    · next result after mid hperform =>
      rw [hperform] at hrest
      cases h
      exact hrest

/-! ## All operations -/

/-- What an operation comes to, seen from the pool: a connection that it has taken is idle or closed,
and closed if a location was not written back. -/
structure Settled (limits : Limits) (closed more : List Slot) (s : Relational) (w : World)
    (taken : Report × Relational × World) : Prop where
  rest : taken.2.1.IsAtRest limits (closed ++ more)
  quiet : KeepsQuiet w taken.2.2
  served : (w.acquire s.pool).1 ≠ .error .timeout
  report : taken.1 ≠ .written (.error (.pool .timeout))
  place : taken.2 = (s, w) ∨ ∀ slot, (w.acquire s.pool).1 = .ok slot →
    IsAmong slot taken.2.1.pool.idle ∨ IsAmong slot more
  unsaved : taken.1.isUnsaved = true →
    ∃ slot, (w.acquire s.pool).1 = .ok slot ∧ IsAmong slot more

theorem operate_settled (h : s.IsAtRest limits closed) (hroom : 0 < limits.maxConnections)
    (w : World) (operation : Operation) :
    ∃ more, Settled limits closed more s w (s.operate w operation) := by
  cases hscript : operation.script s.persists with
  | error cause =>
    obtain ⟨hnothing, hcause⟩ := operate_error w hscript
    rw [hnothing]
    refine ⟨[], ?_, .of_eq rfl, ?_, ?_, .inl rfl, by simp [Report.isUnsaved]⟩
    · rw [List.append_nil]
      exact h
    · exact World.acquire_ne_timeout (h.turn_ne_mustWait hroom _)
    · exact fun heq => hcause (Except.error.inj (Report.written.inj heq))
  | ok script =>
    obtain ⟨n, hn⟩ := operation.settles hscript
    obtain ⟨told, htold, hoperate⟩ := operate_eq w hscript
    obtain ⟨hserved, hquiet, more, hcases⟩ := perform_settled hn Answer.closes h hroom w
    rw [hoperate]
    have hquiet := hquiet.trans (keepsQuiet_tell htold)
    refine ⟨more, ?_⟩
    obtain ⟨cause, hacquire, hresult, hrest⟩ | ⟨slot, hacquire, hreturns⟩ := hcases
    · refine ⟨hrest, hquiet, hserved, ?_, .inr ?_, ?_⟩
      · intro htimeout
        have hcause := hresult.symm.trans (Operation.error_of_report htimeout)
        obtain rfl := StoreError.pool.inj (Except.error.inj hcause)
        exact hserved hacquire
      · intro slot hslot
        cases hacquire.symm.trans hslot
      · intro hunsaved
        obtain ⟨value, hvalue, -⟩ := Operation.closes_of_isUnsaved hunsaved
        cases hresult.symm.trans hvalue
    · refine ⟨hreturns.rest, hquiet, hserved, ?_, .inr ?_, ?_⟩
      · intro htimeout
        obtain hlost | ⟨desk, hrun⟩ := hreturns.result
        · cases hlost.symm.trans (Operation.error_of_report htimeout)
        · rw [hrun] at htimeout
          exact Operation.report_ne_timeout hscript desk htimeout
      · intro other hother
        obtain rfl := Except.ok.inj (hacquire.symm.trans hother)
        exact hreturns.place
      · intro hunsaved
        obtain ⟨value, hvalue, hcloses⟩ := Operation.closes_of_isUnsaved hunsaved
        exact ⟨slot, hacquire, hreturns.closed value hvalue hcloses⟩

/-- So it is after any number of operations, whatever happens to the world between them. -/
theorem operateAll_settled (h : s.IsAtRest limits closed) (hroom : 0 < limits.maxConnections)
    (w : World) (steps : List ((World → World) × Operation)) :
    ∃ more, (s.operateAll w steps).1.IsAtRest limits (closed ++ more) := by
  induction steps generalizing s w closed with
  | nil => exact ⟨[], by rw [List.append_nil]; exact h⟩
  | cons step steps ih =>
    obtain ⟨change, operation⟩ := step
    obtain ⟨first, hsettled⟩ := operate_settled h hroom (change w) operation
    obtain ⟨more, hrest⟩ := ih hsettled.rest (s.operate (change w) operation).2.2
    exact ⟨first ++ more, by rw [← List.append_assoc]; exact hrest⟩

end Relational

end Gazetteer.Store
