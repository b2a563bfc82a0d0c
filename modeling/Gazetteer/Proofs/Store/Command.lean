/-
Gazetteer.Proofs.Store.Command — what became of a command.

A command that fails, or finds a row of the same key, leaves sheet and draft as
they are. One that is done has found a database that may be read and has done
exactly what it is for: a transaction has begun, the draft has one row more, the
rows of the draft are in the database, a table has one record more. A commit
alone decides whether rows stay, and it brings in all of them or none.
-/
import Gazetteer.Proofs.Store.Desk

namespace Gazetteer.Store.Desk

open Gazetteer.Database

variable {desk after : Desk} {db : Database} {draft : Draft} {outcome : Outcome}

/-! ## Commands that go on with a desk -/

theorem continues_addSaved (location : Location) (db : Database) (draft : Draft) (desk : Desk) :
    desk.Continues (desk.addSaved location db draft).2 := by
  unfold addSaved
  repeat' split
  all_goals first
    | exact .refl desk
    | exact continues_alter _ desk
    | exact continues_write _ desk
    | exact (continues_alter _ desk).trans (continues_write _ _)

theorem continues_addBlock (row : Address.BlockRow) (db : Database) (draft : Draft)
    (desk : Desk) : desk.Continues (desk.addBlock row db draft).2 := by
  unfold addBlock
  split
  · exact .refl desk
  · exact (continues_alter _ desk).trans (continues_write _ _)

theorem continues_change (table : Table) (db : Database) (hm : desk.access.mayRead = true) :
    desk.Continues (desk.change table db).2 := by
  unfold change
  split
  · exact .refl desk
  · split
    · exact (continues_alter _ desk).trans (continues_store db hm rfl)
    · exact continues_alter _ desk

theorem continues_commit (db : Database) (draft : Draft) (hm : desk.access.mayRead = true)
    (hr : desk.contact.hasRead = true) : desk.Continues (desk.commit db draft).2 := by
  unfold commit
  split
  · exact .refl desk
  · split
    · exact continues_endTransaction desk
    · exact (continues_store _ hm hr).trans (continues_endTransaction _)

theorem continues_perform (c : Command) (db : Database) (hm : desk.access.mayRead = true)
    (hr : desk.contact.hasRead = true) : desk.Continues (desk.perform c db).2 := by
  unfold perform
  repeat' split
  all_goals first
    | exact .refl desk
    | exact continues_addSaved _ _ _ desk
    | exact continues_addBlock _ _ _ desk
    | exact continues_commit _ _ hm hr
    | exact continues_change _ _ hm
    | exact continues_write _ desk
    | exact .of_quiet rfl rfl id rfl rfl

/-- A command other than the two that need no database. -/
theorem execute_eq {c : Command} (hc : c ≠ .rollback ∧ c ≠ .begin) (desk : Desk) :
    desk.execute c = match desk.reach? with
      | (none, desk) => (.failed, desk)
      | (some db, desk) => desk.perform c db := by
  cases c <;> first | rfl | simp at hc

theorem continues_execute (c : Command) (desk : Desk) : desk.Continues (desk.execute c).2 := by
  by_cases h1 : c = .rollback
  · subst h1
    exact continues_endTransaction desk
  · by_cases h2 : c = .begin
    · subst h2
      simp only [execute, draw_eq]
      split <;> exact .of_quiet rfl rfl id rfl rfl
    · rw [execute_eq ⟨h1, h2⟩]
      split
      · next d hr => exact (reach?_none hr).2.2
      · next db d hr =>
        obtain ⟨hdb, rfl⟩ := reach?_some hr
        exact (continues_arrived desk).trans
          (continues_perform c db (mayRead_of_readable? hdb).1 rfl)

/-! ## Single commands -/

/-- A command that meets a fault, or a database that may not be read, fails and changes nothing. -/
theorem execute_cases {c : Command} (hc : c ≠ .rollback ∧ c ≠ .begin)
    (h : desk.execute c = (outcome, after)) :
    (outcome = .failed ∧ after.sheet = desk.sheet ∧ after.draft = desk.draft) ∨
      ∃ db, desk.readable? = some db ∧ desk.arrived.perform c db = (outcome, after) := by
  rw [execute_eq hc] at h
  split at h
  · next d hr =>
    obtain ⟨rfl, rfl⟩ := Prod.mk.inj h
    exact .inl ⟨rfl, (reach?_none hr).1, (reach?_none hr).2.1⟩
  · next db d hr =>
    obtain ⟨hdb, rfl⟩ := reach?_some hr
    exact .inr ⟨db, hdb, h⟩

/-- Without its transaction a desk has no rows of its own, and gives up the right to write if the
transaction held it. -/
theorem endTransaction_sheet (desk : Desk) :
    desk.endTransaction.draft = none ∧
      desk.endTransaction.sheet.content = desk.sheet.content ∧
      desk.endTransaction.sheet.hasWriter =
        (desk.sheet.hasWriter && !desk.draft.any (·.isWriting)) := by
  unfold endTransaction
  split
  · next hd => simp [hd]
  · next hd =>
    refine ⟨rfl, rfl, ?_⟩
    cases hdr : desk.draft with
    | none => simp
    | some draft =>
      obtain ⟨isWriting, saved, blocks⟩ := draft
      cases isWriting
      · simp
      · exact absurd hdr (hd saved blocks)

theorem execute_begin (hd : desk.draft = none) (h : desk.execute .begin = (outcome, after)) :
    after.sheet = desk.sheet ∧
      ((outcome = .failed ∧ after.draft = none) ∨
        (outcome = .done ∧ after.draft = some (.begin false))) := by
  simp only [execute, draw_eq, hd, Option.isSome_none, Bool.or_false] at h
  split at h
  · obtain ⟨rfl, rfl⟩ := Prod.mk.inj h
    exact ⟨rfl, .inl ⟨rfl, rfl⟩⟩
  · obtain ⟨rfl, rfl⟩ := Prod.mk.inj h
    exact ⟨rfl, .inr ⟨rfl, rfl⟩⟩

/-- A transaction that begins immediately has nothing written yet, and it holds the right to write
unless the connection was opened for reading only. -/
theorem execute_beginImmediate (h : desk.execute .beginImmediate = (outcome, after)) :
    (outcome = .failed ∧ after.sheet = desk.sheet ∧ after.draft = desk.draft) ∨
      (outcome = .done ∧ desk.draft = none ∧
        ((desk.access.mayChange = false ∧ after.sheet = desk.sheet ∧
            after.draft = some (.begin false)) ∨
          (desk.mayWrite = true ∧ after.sheet = { desk.sheet with hasWriter := true } ∧
            after.draft = some (.begin true)))) := by
  obtain ⟨rfl, h1, h2⟩ | ⟨db, -, hp⟩ := execute_cases (by simp) h
  · exact .inl ⟨rfl, h1, h2⟩
  · cases hd : desk.draft with
    | some draft =>
      simp only [perform, arrived_draft, hd] at hp
      obtain ⟨rfl, rfl⟩ := Prod.mk.inj hp
      exact .inl ⟨rfl, rfl, hd⟩
    | none =>
      simp only [perform, arrived_draft, hd] at hp
      by_cases hm : desk.arrived.access.mayChange = true
      · by_cases hw : desk.arrived.mayWrite = true
        · simp only [hm, hw, Bool.not_true, Bool.false_eq_true, if_false, if_true] at hp
          obtain ⟨rfl, rfl⟩ := Prod.mk.inj hp
          exact .inr ⟨rfl, rfl, .inr ⟨hw, rfl, rfl⟩⟩
        · simp only [hm, hw, Bool.not_true, Bool.false_eq_true, if_false] at hp
          obtain ⟨rfl, rfl⟩ := Prod.mk.inj hp
          exact .inl ⟨rfl, rfl, hd⟩
      · simp only [hm, Bool.not_false, if_true] at hp
        obtain ⟨rfl, rfl⟩ := Prod.mk.inj hp
        exact .inr ⟨rfl, rfl, .inl ⟨by simpa using hm, rfl, rfl⟩⟩

theorem addSaved_cases {location : Location}
    (h : desk.addSaved location db draft = (outcome, after)) :
    (outcome ≠ .done ∧ after.sheet = desk.sheet ∧ after.draft = desk.draft) ∨
      ∃ rows, outcome = .done ∧ db.saved = .table rows ∧
        after.sheet = { desk.sheet with hasWriter := true } ∧
        ((db.trigger = some .ignore ∧ after.draft = some { draft with isWriting := true }) ∨
          (db.trigger = none ∧
            (∀ row ∈ rows ++ draft.saved, row.address ≠ .text location.address) ∧
            after.draft = some { draft with
              isWriting := true, saved := .ofLocation location :: draft.saved })) := by
  unfold addSaved at h
  split at h
  · obtain ⟨rfl, rfl⟩ := Prod.mk.inj h
    exact .inl ⟨by simp, rfl, rfl⟩
  · next rows hrows =>
    have hrows : db.saved = .table rows := by
      cases hs : db.saved <;> simp_all [Slot.rows?]
    split at h
    · obtain ⟨rfl, rfl⟩ := Prod.mk.inj h
      exact .inl ⟨by simp, rfl, rfl⟩
    · split at h <;>
        (obtain ⟨rfl, rfl⟩ := Prod.mk.inj h; exact .inl ⟨by simp, rfl, rfl⟩)
    · next ht =>
      obtain ⟨rfl, rfl⟩ := Prod.mk.inj h
      exact .inr ⟨rows, rfl, hrows, rfl, .inl ⟨ht, rfl⟩⟩
    · next ht =>
      split at h
      · obtain ⟨rfl, rfl⟩ := Prod.mk.inj h
        exact .inl ⟨by simp, rfl, rfl⟩
      · next hany =>
        split at h
        · obtain ⟨rfl, rfl⟩ := Prod.mk.inj h
          exact .inl ⟨by simp, rfl, rfl⟩
        · obtain ⟨rfl, rfl⟩ := Prod.mk.inj h
          refine .inr ⟨rows, rfl, hrows, rfl, .inr ⟨ht, fun row hm he => hany ?_, rfl⟩⟩
          exact List.any_eq_true.2 ⟨row, hm, beq_iff_eq.2 he⟩

/-- An answer joins the rows of the open transaction only if there is no row of its address, be it
in the database or in the transaction. A trigger may drop it without a word. -/
theorem execute_addSaved {location : Location}
    (h : desk.execute (.addSaved location) = (outcome, after)) :
    (outcome ≠ .done ∧ after.sheet = desk.sheet ∧ after.draft = desk.draft) ∨
      ∃ db draft rows, outcome = .done ∧ desk.readable? = some db ∧ desk.draft = some draft ∧
        desk.mayWrite = true ∧ db.saved = .table rows ∧
        after.sheet = { desk.sheet with hasWriter := true } ∧
        ((db.trigger = some .ignore ∧ after.draft = some { draft with isWriting := true }) ∨
          (db.trigger = none ∧
            (∀ row ∈ rows ++ draft.saved, row.address ≠ .text location.address) ∧
            after.draft = some { draft with
              isWriting := true, saved := .ofLocation location :: draft.saved })) := by
  obtain ⟨rfl, h1, h2⟩ | ⟨db, hdb, hp⟩ := execute_cases (by simp) h
  · exact .inl ⟨by simp, h1, h2⟩
  · cases hd : desk.draft with
    | none =>
      simp only [perform, arrived_draft, hd] at hp
      obtain ⟨rfl, rfl⟩ := Prod.mk.inj hp
      exact .inl ⟨by simp, rfl, hd⟩
    | some draft =>
      simp only [perform, arrived_draft, hd] at hp
      by_cases hw : desk.arrived.mayWrite = true
      · rw [if_pos hw] at hp
        obtain ⟨h1, h2, h3⟩ | ⟨rows, h1, h2, h3, h4⟩ := addSaved_cases hp
        · exact .inl ⟨h1, h2, h3.trans hd⟩
        · exact .inr ⟨db, draft, rows, h1, hdb, rfl, hw, h2, h3, h4⟩
      · rw [if_neg hw] at hp
        obtain ⟨rfl, rfl⟩ := Prod.mk.inj hp
        exact .inl ⟨by simp, rfl, hd⟩

theorem addSaved_duplicate {location : Location}
    (h : (desk.addSaved location db draft).1 = .duplicate) (ht : db.trigger = none) :
    ∃ rows, db.saved = .table rows ∧
      ∃ row ∈ rows ++ draft.saved, row.address = .text location.address := by
  unfold addSaved at h
  rw [ht] at h
  split at h
  · cases h
  · next rows hrows =>
    have hrows : db.saved = .table rows := by
      cases hs : db.saved <;> simp_all [Slot.rows?]
    dsimp only at h
    split at h
    · next hany =>
      obtain ⟨row, hm, he⟩ := List.any_eq_true.1 hany
      exact ⟨rows, hrows, row, hm, beq_iff_eq.1 he⟩
    · split at h <;> cases h

/-- Where there is no trigger, an answer meets a row of the same key only if there is one. -/
theorem execute_addSaved_duplicate {location : Location}
    (h : desk.execute (.addSaved location) = (.duplicate, after)) :
    ∃ db draft, desk.readable? = some db ∧ desk.draft = some draft ∧
      (db.trigger = none → ∃ rows, db.saved = .table rows ∧
        ∃ row ∈ rows ++ draft.saved, row.address = .text location.address) := by
  obtain ⟨hfailed, -⟩ | ⟨db, hdb, hp⟩ := execute_cases (by simp) h
  · cases hfailed
  · cases hd : desk.draft with
    | none =>
      simp only [perform, arrived_draft, hd] at hp
      cases (Prod.mk.inj hp).1
    | some draft =>
      simp only [perform, arrived_draft, hd] at hp
      by_cases hw : desk.arrived.mayWrite = true
      · rw [if_pos hw] at hp
        exact ⟨db, draft, hdb, rfl, addSaved_duplicate (congrArg Prod.fst hp)⟩
      · rw [if_neg hw] at hp
        cases (Prod.mk.inj hp).1

theorem commit_cases (h : desk.commit db draft = (outcome, after)) (hd : desk.draft = some draft) :
    (outcome = .failed ∧ after.sheet = desk.sheet ∧ after.draft = desk.draft) ∨
      (outcome = .done ∧ after.draft = none ∧
        after.sheet.hasWriter = (desk.sheet.hasWriter && !draft.isWriting) ∧
        after.sheet.content =
          if draft.isEmpty then desk.sheet.content else .database (db.withDraft draft)) := by
  unfold commit at h
  split at h
  · obtain ⟨rfl, rfl⟩ := Prod.mk.inj h
    exact .inl ⟨rfl, rfl, rfl⟩
  · obtain ⟨rfl, hafter⟩ := Prod.mk.inj h
    obtain ⟨h1, h2, h3⟩ := endTransaction_sheet
      (if draft.isEmpty then desk else desk.store (db.withDraft draft))
    rw [hafter] at h1 h2 h3
    refine .inr ⟨rfl, h1, h3.trans ?_, h2.trans ?_⟩ <;>
      split <;> simp [hd, store]

/-- A commit brings all rows of the transaction into the database. -/
theorem execute_commit (h : desk.execute .commit = (outcome, after)) :
    (outcome = .failed ∧ after.sheet = desk.sheet ∧ after.draft = desk.draft) ∨
      ∃ db draft, outcome = .done ∧ desk.readable? = some db ∧ desk.draft = some draft ∧
        after.draft = none ∧
        after.sheet.hasWriter = (desk.sheet.hasWriter && !draft.isWriting) ∧
        after.sheet.content =
          if draft.isEmpty then desk.sheet.content else .database (db.withDraft draft) := by
  obtain ⟨rfl, h1, h2⟩ | ⟨db, hdb, hp⟩ := execute_cases (by simp) h
  · exact .inl ⟨rfl, h1, h2⟩
  · cases hd : desk.draft with
    | none =>
      simp only [perform, arrived_draft, hd] at hp
      obtain ⟨rfl, rfl⟩ := Prod.mk.inj hp
      exact .inl ⟨rfl, rfl, hd⟩
    | some draft =>
      simp only [perform, arrived_draft, hd] at hp
      obtain ⟨h1, h2, h3⟩ | ⟨h1, h2, h3, h4⟩ := commit_cases hp hd
      · exact .inl ⟨h1, h2, h3.trans hd⟩
      · exact .inr ⟨db, draft, h1, hdb, rfl, h2, h3, h4⟩

end Gazetteer.Store.Desk
