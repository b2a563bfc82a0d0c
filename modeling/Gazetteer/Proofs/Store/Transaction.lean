/-
Gazetteer.Proofs.Store.Transaction — the transaction that writes the rows of a block.

A statement inside the transaction counts no change, a commit counts one if it is
done, and every failure before that ends the transaction. So the conversation
counts one change if it succeeds and none if it fails, and whenever it is looked
at the content is that of the beginning or that of the end. When it succeeds can
be read off the desk that it begins with.
-/
import Gazetteer.Proofs.Store.Filling
import Gazetteer.Proofs.Store.Progress

namespace Gazetteer.Store

open Gazetteer.Database

variable {desk : Desk} {draft : Draft} {rows : List Address.BlockRow}

/-! ## Changes -/

namespace Desk

@[simp] theorem changes_endTransaction (desk : Desk) :
    desk.endTransaction.contact.changes = desk.contact.changes := by
  unfold endTransaction
  split <;> rfl

theorem changes_reach? (desk : Desk) :
    desk.reach?.2.contact.changes = desk.contact.changes := by
  rw [reach?_eq]
  split <;> rfl

theorem changes_begin (desk : Desk) :
    (desk.execute .begin).2.contact.changes = desk.contact.changes := by
  simp only [execute, draw_eq]
  split <;> rfl

/-- A row of an open transaction is no change yet. -/
theorem changes_addBlock (row : Address.BlockRow) (desk : Desk) :
    (desk.execute (.addBlock row)).2.contact.changes = desk.contact.changes := by
  have hreach := changes_reach? desk
  rw [execute_eq (by simp)]
  split
  · next hr => rw [← hreach, hr]
  · next db arrived hr =>
    rw [← hreach, hr]
    unfold perform
    cases arrived.draft with
    | none => rfl
    | some draft =>
      dsimp only
      unfold addBlock
      repeat' split
      all_goals rfl

/-- A commit is one change at most, and none if it fails. -/
theorem changes_commit (desk : Desk) :
    (desk.execute .commit).2.contact.changes ≤ desk.contact.changes + 1 ∧
      ((desk.execute .commit).1 ≠ .done →
        (desk.execute .commit).2.contact.changes = desk.contact.changes) := by
  have hreach := changes_reach? desk
  rw [execute_eq (by simp)]
  split
  · next hr =>
    rw [hr] at hreach
    exact ⟨Nat.le_succ_of_le (Nat.le_of_eq hreach), fun _ => hreach⟩
  · next db arrived hr =>
    rw [hr] at hreach
    unfold perform
    cases arrived.draft with
    | none => exact ⟨Nat.le_succ_of_le (Nat.le_of_eq hreach), fun _ => hreach⟩
    | some draft =>
      dsimp only
      unfold commit
      split
      · exact ⟨Nat.le_succ_of_le (Nat.le_of_eq hreach), fun _ => hreach⟩
      · refine ⟨?_, fun hne => absurd rfl hne⟩
        simp only [changes_endTransaction]
        split
        · exact Nat.le_succ_of_le (Nat.le_of_eq hreach)
        · exact Nat.succ_le_succ (Nat.le_of_eq hreach)

end Desk

namespace Script

/-! ## One change at most -/

/-- The end of a conversation: it has succeeded with one change at most, or failed with none. -/
def EndsOnce (desk : Desk) (ended : Except StoreError Unit × Desk) : Prop :=
  (ended.1 = .ok () ∧ ended.2.contact.changes ≤ desk.contact.changes + 1) ∨
    (ended.1 = .error .query ∧ ended.2.contact.changes = desk.contact.changes)

theorem addRows_endsOnce (rows : List Address.BlockRow) (desk : Desk) :
    EndsOnce desk ((addRows rows).run desk) := by
  induction rows generalizing desk with
  | nil =>
    obtain ⟨hle, hsame⟩ := Desk.changes_commit desk
    rw [run_addRows_nil]
    split
    · exact .inl ⟨rfl, hle⟩
    · next hne => exact .inr ⟨rfl, (Desk.changes_endTransaction _).trans (hsame hne)⟩
  | cons row rows ih =>
    have hrow := Desk.changes_addBlock row desk
    rw [run_addRows_cons]
    split
    · have hrest := ih (desk.execute (.addBlock row)).2
      unfold EndsOnce at *
      rwa [hrow] at hrest
    · exact .inr ⟨rfl, (Desk.changes_endTransaction _).trans hrow⟩

theorem addBlock_endsOnce (rows : List Address.BlockRow) (desk : Desk) :
    EndsOnce desk ((addBlock rows).run desk) := by
  have hbegin := Desk.changes_begin desk
  rw [run_addBlock]
  split
  · have hrest := addRows_endsOnce rows (desk.execute .begin).2
    unfold EndsOnce at *
    rwa [hbegin] at hrest
  · exact .inr ⟨rfl, hbegin⟩

/-! ## In between -/

variable {α : Type}

/-- What is left of a script after some statements, and the desk by then. -/
def advance (desk : Desk) (script : Script α) : Nat → Script α × Desk
  | 0 => (script, desk)
  | n + 1 => advance (script.step desk).2 (script.step desk).1 n

theorem continues_advance (script : Script α) (desk : Desk) (n : Nat) :
    desk.Continues (advance desk script n).2 := by
  induction n generalizing script desk with
  | zero => exact .refl desk
  | succ n ih => exact (continues_step script desk).trans (ih _ _)

theorem run_advance (script : Script α) (desk : Desk) (n : Nat) :
    (advance desk script n).1.run (advance desk script n).2 = script.run desk := by
  induction n generalizing script desk with
  | zero => rfl
  | succ n ih => exact (ih _ _).trans (run_step script desk)

/-- Between its statements a script that counts at most one change finds the content of the beginning
or that of the end. -/
theorem content_advance (script : Script α) (desk : Desk) (n : Nat)
    (h : (script.run desk).2.contact.changes ≤ desk.contact.changes + 1) :
    (advance desk script n).2.sheet.content = desk.sheet.content ∨
      (advance desk script n).2.sheet.content = (script.run desk).2.sheet.content := by
  have hfirst := continues_advance script desk n
  have hrest := continues_run (advance desk script n).1 (advance desk script n).2
  rw [run_advance] at hrest
  have hle := hfirst.changes
  have hle' := hrest.changes
  by_cases hc : (advance desk script n).2.contact.changes = desk.contact.changes
  · exact .inl (hfirst.same hc)
  · exact .inr (hrest.same (by omega)).symm

end Script

/-! ## When it succeeds -/

/-- A table of blocks can be read. -/
def Desk.HasBlocks (desk : Desk) : Prop :=
  ∃ db old, desk.readable? = some db ∧ db.blocks = .table old

/-- Nothing keeps a desk from writing some rows of blocks in one transaction. -/
structure Desk.CanAdd (desk : Desk) (count : Nat) : Prop where
  outside : desk.draft = none
  blocks : desk.HasBlocks
  change : desk.canChange = true
  finish : desk.access.mayFinish = true
  /-- No fault comes while the transaction is begun, its rows are written and it is committed. -/
  faults : ∀ fault ∈ desk.faults.take (count + 2), fault = false

theorem take_succ_faults (faults : List Bool) (n : Nat) :
    (∀ fault ∈ faults.take (n + 1), fault = false) ↔
      faults.headD false = false ∧ ∀ fault ∈ faults.tail.take n, fault = false := by
  cases faults <;> simp

namespace Desk

/-- Inside its transaction a desk can write a row of a block unless a fault comes. -/
structure CanGoOn (desk : Desk) (draft : Draft) : Prop where
  inside : desk.draft = some draft
  blocks : desk.HasBlocks
  change : desk.canChange = true

theorem execute_begin_done (desk : Desk) :
    (desk.execute .begin).1 = .done ↔ desk.faults.headD false = false ∧ desk.draft = none := by
  simp only [execute, draw_eq]
  split
  · next hstop =>
    refine iff_of_false (by simp) ?_
    rintro ⟨hf, hd⟩
    simp only [hf, hd, Option.isSome_none, Bool.or_self, Bool.false_eq_true] at hstop
  · next hgo => simpa using hgo

theorem execute_begin_eq (h : (desk.execute .begin).1 = .done) :
    (desk.execute .begin).2 =
      { desk with faults := desk.faults.tail, draft := some (.begin false) } := by
  obtain ⟨hf, hd⟩ := (execute_begin_done desk).1 h
  simp only [execute, draw_eq, hf, hd]
  rfl

/-- A transaction that has just begun can go on if the desk had blocks and could change. -/
theorem canGoOn_begin (h : (desk.execute .begin).1 = .done) :
    (desk.execute .begin).2.CanGoOn (.begin false) ↔ desk.HasBlocks ∧ desk.canChange = true := by
  have hd := ((execute_begin_done desk).1 h).2
  have hsame : (desk.execute .begin).2.canChange = desk.canChange := by
    rw [execute_begin_eq h]
    simp only [canChange, mayWrite, hd]
    rfl
  constructor
  · intro hgo
    have hblocks := hgo.blocks
    rw [execute_begin_eq h] at hblocks
    exact ⟨hblocks, hsame ▸ hgo.change⟩
  · rintro ⟨hblocks, hchange⟩
    refine ⟨?_, ?_, hsame.trans hchange⟩
    · rw [execute_begin_eq h]
    · rw [execute_begin_eq h]
      exact hblocks

/-- The desk after one more row of the open transaction. -/
def added (row : Address.BlockRow) (draft : Draft) (desk : Desk) : Desk :=
  (desk.arrived.alter [.blocks]).write { draft with blocks := .ofRow row :: draft.blocks }

theorem execute_addBlock_eq (row : Address.BlockRow) (hf : desk.faults.headD false = false)
    (h : desk.CanGoOn draft) : desk.execute (.addBlock row) = (.done, desk.added row draft) := by
  obtain ⟨db, old, hdb, hblocks⟩ := h.blocks
  have hchange : desk.arrived.canChange = true := h.change
  rw [execute_eq (by simp), reach?_eq, hf, hdb]
  simp only [Bool.false_eq_true, if_false, perform, arrived_draft, h.inside, hchange, if_true,
    addBlock, hblocks, Slot.rows?]
  rfl

theorem execute_fault {c : Command} (hc : c ≠ .rollback ∧ c ≠ .begin)
    (hf : desk.faults.headD false = true) : (desk.execute c).1 = .failed := by
  rw [execute_eq hc, reach?_eq, if_pos hf]

theorem execute_addBlock_done (row : Address.BlockRow) (hd : desk.draft = some draft) :
    (desk.execute (.addBlock row)).1 = .done ↔
      desk.faults.headD false = false ∧ desk.CanGoOn draft := by
  refine ⟨fun hdone => ?_, fun ⟨hf, hgo⟩ => by rw [execute_addBlock_eq row hf hgo]⟩
  have hf : desk.faults.headD false = false := by
    cases hf : desk.faults.headD false with
    | false => rfl
    | true => cases (execute_fault (by simp) hf).symm.trans hdone
  rcases he : desk.execute (.addBlock row) with ⟨outcome, after⟩
  rw [he] at hdone
  obtain ⟨-, ⟨hne, -⟩ | ⟨-, db, other, old, hdb, -, hblocks, -⟩⟩ := execute_addBlock he
  · exact absurd hdone hne
  · refine ⟨hf, hd, ⟨db, old, hdb, hblocks⟩, ?_⟩
    cases hchange : desk.canChange with
    | true => rfl
    | false =>
      have hchange : desk.arrived.canChange = false := hchange
      rw [execute_eq (by simp), reach?_eq, hf, hdb] at he
      simp only [Bool.false_eq_true, if_false, perform, arrived_draft, hd, hchange] at he
      cases (Prod.mk.inj he).1.trans hdone

/-- A transaction that has written a row can go on as it could before. -/
theorem canGoOn_added (row : Address.BlockRow) (h : desk.CanGoOn draft) :
    (desk.added row draft).CanGoOn
      { draft with isWriting := true, blocks := .ofRow row :: draft.blocks } := by
  have hchange := h.change
  refine ⟨rfl, h.blocks, ?_⟩
  simp only [canChange, mayWrite, Bool.and_eq_true] at hchange ⊢
  exact ⟨⟨hchange.1.1, by simp [added, write]⟩, hchange.2⟩

/-- A transaction that has written something is committed unless a fault comes or someone keeps the
change from being finished. -/
theorem execute_commit_done (hd : desk.draft = some draft) (hw : draft.isWriting = true)
    (hb : desk.HasBlocks) :
    (desk.execute .commit).1 = .done ↔
      desk.faults.headD false = false ∧ desk.access.mayFinish = true := by
  obtain ⟨db, -, hdb, -⟩ := hb
  cases hf : desk.faults.headD false with
  | true =>
    rw [execute_fault (by simp) hf]
    simp
  | false =>
    have hperform : desk.execute .commit = desk.arrived.commit db draft := by
      rw [execute_eq (by simp), reach?_eq, hf, hdb]
      simp only [Bool.false_eq_true, if_false, perform, arrived_draft, hd]
    rw [hperform]
    unfold commit
    cases hm : desk.access.mayFinish <;> simp [hw, hm]

end Desk

namespace Script

/-- Inside its transaction the rest of the rows is written exactly if no fault comes any more and the
change may be finished. -/
theorem addRows_ok_iff (h : desk.CanGoOn draft) (hw : rows ≠ [] ∨ draft.isWriting = true) :
    ((addRows rows).run desk).1 = .ok () ↔ desk.access.mayFinish = true ∧
      ∀ fault ∈ desk.faults.take (rows.length + 1), fault = false := by
  induction rows generalizing desk draft with
  | nil =>
    have hw : draft.isWriting = true := by simpa using hw
    have hdone := Desk.execute_commit_done h.inside hw h.blocks
    rw [run_addRows_nil, take_succ_faults]
    split
    · next hd => simpa using (hdone.1 hd).symm
    · next hd =>
      refine iff_of_false (by simp) ?_
      rintro ⟨hm, hf, -⟩
      exact hd (hdone.2 ⟨hf, hm⟩)
  | cons row rows ih =>
    rw [run_addRows_cons, List.length_cons, take_succ_faults]
    cases hf : desk.faults.headD false with
    | true =>
      rw [if_neg (by rw [Desk.execute_fault (by simp) hf]; simp)]
      simp
    | false =>
      rw [Desk.execute_addBlock_eq row hf h, if_pos rfl]
      refine (ih (Desk.canGoOn_added row h) (.inr rfl)).trans ?_
      show desk.access.mayFinish = true ∧ (∀ fault ∈ desk.faults.tail.take _, _) ↔ _
      simp

/-- The rows of a block are written exactly if nothing keeps the desk from writing so many. -/
theorem addBlock_ok_iff (hne : rows ≠ []) :
    ((addBlock rows).run desk).1 = .ok () ↔ desk.CanAdd rows.length := by
  have hbegin := Desk.execute_begin_done desk
  rw [run_addBlock]
  split
  · next hd =>
    obtain ⟨hf, hdraft⟩ := hbegin.1 hd
    have heq := Desk.execute_begin_eq hd
    have hinside : (desk.execute .begin).2.draft = some (.begin false) := by rw [heq]
    by_cases hgo : (desk.execute .begin).2.CanGoOn (.begin false)
    · obtain ⟨hblocks, hchange⟩ := (Desk.canGoOn_begin hd).1 hgo
      rw [addRows_ok_iff hgo (.inl hne), heq]
      constructor
      · rintro ⟨hm, hfaults⟩
        exact ⟨hdraft, hblocks, hchange, hm, (take_succ_faults _ _).2 ⟨hf, hfaults⟩⟩
      · intro hcan
        exact ⟨hcan.finish, ((take_succ_faults _ _).1 hcan.faults).2⟩
    · refine iff_of_false ?_ fun hcan => hgo ((Desk.canGoOn_begin hd).2 ⟨hcan.blocks, hcan.change⟩)
      obtain ⟨row, rest, rfl⟩ := List.exists_cons_of_ne_nil hne
      rw [run_addRows_cons, if_neg fun hrow => hgo ((Desk.execute_addBlock_done row hinside).1 hrow).2]
      simp
  · next hd =>
    refine iff_of_false (by simp) ?_
    intro hcan
    exact hd (hbegin.2 ⟨((take_succ_faults _ _).1 hcan.faults).1, hcan.outside⟩)

/-- If it succeeds, the rows are behind those that the table had. -/
theorem addBlock_whole (hne : rows ≠ []) (h : ((addBlock rows).run desk).1 = .ok ()) :
    ∃ db old, desk.readable? = some db ∧ db.blocks = .table old ∧
      ((addBlock rows).run desk).2.sheet.content =
        .database { db with blocks := .table (old ++ rows.map .ofRow) } ∧
      ((addBlock rows).run desk).2.contact.changes ≠ desk.contact.changes := by
  have hcan := (addBlock_ok_iff hne).1 h
  have hgo := continues_run (addBlock rows) desk
  obtain ⟨db, old, hdb, hold⟩ := hcan.blocks
  rcases hrun : (addBlock rows).run desk with ⟨result, after⟩
  rw [hrun] at h hgo
  obtain ⟨-, ⟨hfail, -⟩ | ⟨-, db', hdb', hcontent⟩⟩ := addBlock_outcome hne hcan.outside hrun
  · exact absurd h hfail
  · obtain rfl := Option.some.inj (hdb.symm.trans hdb')
    rw [hold, Slot.append] at hcontent
    refine ⟨db, old, hdb, hold, hcontent, fun hsame => hne ?_⟩
    -- with no change counted the table would have the same rows
    have hbefore := (Desk.mayRead_of_readable? hdb).2
    rw [← hgo.same hsame, hcontent] at hbefore
    have hblocks := congrArg Database.blocks (Option.some.inj hbefore)
    simpa [hold] using hblocks

end Script

end Gazetteer.Store
