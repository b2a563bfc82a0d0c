/-
Gazetteer.Proofs.Store.Report — what a store reports of its scripts.

An operation asks for a connection, performs its script with it, and reports what
the script has come to; a lookup that fails gives a notice instead. Whether there is
a connection is a matter of the pool, and no script speaks of that.
-/
import Gazetteer.Proofs.Store.Settled
import Gazetteer.Proofs.Store.Transaction

namespace Gazetteer.Store

variable {α β : Type} {s : Relational} {operation : Operation}
  {script : Script (Except StoreError Answer)} {result : Except StoreError Answer}
  {cause : StoreError}

/-! ## Reports -/

/-- What a store reports of an operation that has failed. -/
def Operation.failed : Operation → StoreError → Report
  | resolve _, _ => .found none
  | createTables, cause | putPlace _, cause | addBlock _ _, cause => .written (.error cause)

/-- What a store reports of what a script has come to. -/
def Operation.report (operation : Operation) : Except StoreError Answer → Report
  | .ok .written => .written (.ok ())
  | .ok (.found answer) => .found answer
  | .error cause => operation.failed cause

theorem Operation.closes_of_isUnsaved (h : (operation.report result).isUnsaved = true) :
    ∃ value, result = .ok value ∧ value.closes = true := by
  cases result with
  | error cause => cases operation <;> cases h
  | ok value =>
    cases value with
    | written => cases h
    | found answer => exact ⟨_, rfl, h⟩

theorem Operation.error_of_report (h : operation.report result = .written (.error cause)) :
    result = .error cause := by
  cases result with
  | error other => cases operation <;> cases h <;> rfl
  | ok value => cases value <;> cases h

/-! ## The script of an operation -/

/-- What the commands of a script come to is no matter of the pool. -/
theorem Script.run_all_ne_timeout (commands : List Command) (desk : Desk) :
    ((Script.all commands).run desk).1 ≠ .error (.pool .timeout) := by
  induction commands generalizing desk with
  | nil => simp [Script.all, Script.run, pure]
  | cons c commands ih =>
    rw [Script.run_all_cons]
    split
    · exact ih _
    · simp

theorem Script.run_addBlock_ne_timeout (rows : List Address.BlockRow) (desk : Desk) :
    ((Script.addBlock rows).run desk).1 ≠ .error (.pool .timeout) := by
  obtain ⟨hok, -⟩ | ⟨herror, -⟩ := Script.addBlock_endsOnce rows desk
  · simp [hok]
  · simp [herror]

/-- The operation needs a connection to write something: it holds that conversation. -/
structure Operation.Holds (operation : Operation) (conversation : Script (Except StoreError Unit)) :
    Prop where
  operate : ∀ (s : Relational) (w : World), s.operate w operation =
    (.written (s.performAndKeep w conversation).1, (s.performAndKeep w conversation).2)
  failed : ∀ cause, operation.failed cause = .written (.error cause)
  settles : ∃ n, conversation.Settles n false
  ne_timeout : ∀ desk, (conversation.run desk).1 ≠ .error (.pool .timeout)

/-- An operation that needs a connection writes something or looks something up. -/
theorem Operation.script_cases {persists : Bool} (h : operation.script persists = .ok script) :
    (∃ conversation, operation.Holds conversation ∧
        script = do return (← conversation).map fun _ => .written) ∨
      ∃ address, operation = .resolve address ∧
        script = do return (← Script.lookup persists address).map .found := by
  cases operation with
  | createTables =>
    exact .inl ⟨_, ⟨fun _ _ => rfl, fun _ => rfl, ⟨_, Script.settles_createTables⟩,
      Script.run_all_ne_timeout _⟩, (Except.ok.inj h).symm⟩
  | putPlace place =>
    have hsingle : ∀ c ∈ [Command.putPlace place], c.IsSingle := by simp [Command.IsSingle]
    exact .inl ⟨_, ⟨fun _ _ => rfl, fun _ => rfl, ⟨_, Script.settles_all hsingle⟩,
      Script.run_all_ne_timeout _⟩, (Except.ok.inj h).symm⟩
  | addBlock block place =>
    cases hrange : Address.Range.ofBlock? block with
    | none => simp [Operation.script, hrange] at h
    | some range =>
      simp only [Operation.script, hrange] at h
      refine .inl ⟨_, ⟨fun s w => ?_, fun _ => rfl, ⟨_, Script.settles_addBlock _⟩,
        Script.run_addBlock_ne_timeout _⟩, (Except.ok.inj h).symm⟩
      simp only [Relational.operate, Relational.addBlock, hrange]
  | resolve address => exact .inr ⟨address, rfl, (Except.ok.inj h).symm⟩

/-- Whatever a store is asked to do, if it needs a connection it comes to its end. -/
theorem Operation.settles {persists : Bool} (h : operation.script persists = .ok script) :
    ∃ n, script.Settles n false := by
  have hmap {α : Type} {conversation : Script (Except StoreError α)} {n : Nat} (f : α → Answer)
      (hc : conversation.Settles n false) :
      Script.Settles (n + 0) false (do return (← conversation).map f) :=
    hc.bind fun result => (Script.settles_done.2 rfl : (Script.done (result.map f)).Settles 0 false)
  obtain ⟨conversation, hholds, rfl⟩ | ⟨address, rfl, rfl⟩ := Operation.script_cases h
  · obtain ⟨n, hn⟩ := hholds.settles
    exact ⟨_, hmap _ hn⟩
  · exact ⟨_, hmap _ (Script.settles_lookup persists address)⟩

/-- What a script comes to is no matter of the pool. -/
theorem Operation.report_ne_timeout {persists : Bool} (h : operation.script persists = .ok script)
    (desk : Desk) : operation.report (script.run desk).1 ≠ .written (.error (.pool .timeout)) := by
  intro htimeout
  have hrun := Operation.error_of_report htimeout
  obtain ⟨conversation, hholds, rfl⟩ | ⟨address, rfl, rfl⟩ := Operation.script_cases h
  · rw [Script.run_bind] at hrun
    cases hresult : (conversation.run desk).1 with
    | error cause =>
      rw [hresult] at hrun
      exact hholds.ne_timeout desk (hresult.trans (congrArg Except.error (Except.error.inj hrun)))
    | ok value =>
      rw [hresult] at hrun
      cases hrun
  · rw [hrun] at htimeout
    cases htimeout

namespace Relational

/-! ## Performing a script -/

/-- To change the result of a script is to change what comes of it. -/
theorem talk_map (f : α → β) (script : Script α) (slot : Pool.Slot) (lost : α) :
    s.talk w slot (do return f (← script)) (f lost) =
      (f (s.talk w slot script lost).1, (s.talk w slot script lost).2) := by
  unfold talk
  dsimp only
  split
  · rfl
  · rw [Script.run_bind]
    rfl

theorem perform_map (f : α → β) (closes : β → Bool) (script : Script (Except StoreError α)) :
    s.perform w (do return (← script).map f) closes =
      ((s.perform w script fun value => closes (f value)).1.map f,
        (s.perform w script fun value => closes (f value)).2) := by
  unfold perform
  rcases w.acquire s.pool with ⟨taken, pool, mid⟩
  cases taken with
  | error cause => rfl
  | ok slot =>
    have htalk : Relational.talk { s with pool } mid slot (do return (← script).map f)
        (.error .query) = (Except.map f _, _) := talk_map _ script slot (.error .query)
    simp only [htalk]
    rcases Relational.talk { s with pool } mid slot script (.error .query) with ⟨result, rest⟩
    cases result <;> rfl

theorem perform_written (s : Relational) (w : World) (script : Script (Except StoreError Unit)) :
    s.perform w (do return (← script).map fun _ => .written) Answer.closes =
      ((s.performAndKeep w script).1.map fun _ => .written, (s.performAndKeep w script).2) :=
  perform_map (fun _ => .written) Answer.closes script

theorem perform_found (s : Relational) (w : World)
    (script : Script (Except StoreError (Option Resolved))) :
    s.perform w (do return (← script).map .found) Answer.closes =
      ((s.perform w script fun found => found.any (·.writeBack.isFailed)).1.map .found,
        (s.perform w script fun found => found.any (·.writeBack.isFailed)).2) :=
  perform_map Answer.found Answer.closes script

/-- An operation that needs a connection performs its script, and may have to give a notice. -/
theorem operate_eq (w : World) (h : operation.script s.persists = .ok script) :
    ∃ told, .leakedTransaction ∉ told ∧ s.operate w operation =
      (operation.report (s.perform w script Answer.closes).1, (s.perform w script Answer.closes).2.1,
        (s.perform w script Answer.closes).2.2.tell told) := by
  have htell (w : World) : w.tell [] = w := by simp [World.tell]
  obtain ⟨conversation, hholds, rfl⟩ | ⟨address, rfl, rfl⟩ := Operation.script_cases h
  · refine ⟨[], List.not_mem_nil, ?_⟩
    rw [perform_written, htell, hholds.operate]
    rcases s.performAndKeep w conversation with ⟨result, after, later⟩
    cases result with
    | error cause => exact congrArg (·, after, later) (hholds.failed cause).symm
    | ok value => rfl
  · have hresolve : s.operate w (.resolve address) =
        (.found (Relational.resolve s w address).1, (Relational.resolve s w address).2) := rfl
    rw [perform_found, hresolve]
    unfold Relational.resolve
    rcases hperform : s.perform w (Script.lookup s.persists address)
      (fun found => found.any (·.writeBack.isFailed)) with ⟨result, after, later⟩
    rw [hperform]
    cases result with
    | ok found =>
      refine ⟨[], List.not_mem_nil, ?_⟩
      rw [htell]
      rfl
    | error cause =>
      cases cause with
      | pool cause => exact ⟨[.noConnection], by simp, rfl⟩
      | query => exact ⟨[.unreadableDatabase], by simp, rfl⟩
      | invalidBlock block => exact ⟨[.unreadableDatabase], by simp, rfl⟩

/-- An operation that needs no connection has been asked for something that is no block. -/
theorem operate_error (w : World) (h : operation.script s.persists = .error cause) :
    s.operate w operation = (.written (.error cause), s, w) ∧ cause ≠ .pool .timeout := by
  cases operation with
  | createTables => cases h
  | putPlace place => cases h
  | resolve address => cases h
  | addBlock block place =>
    cases hrange : Address.Range.ofBlock? block with
    | some range => simp [Operation.script, hrange] at h
    | none =>
      simp only [Operation.script, hrange] at h
      obtain rfl := Except.error.inj h
      exact ⟨by simp only [operate, addBlock, hrange], by simp⟩

end Relational

end Gazetteer.Store
