/-
Gazetteer.Proofs.Store.Desk — what one statement does to a desk.

`Continues` is what every statement keeps, and so what every conversation keeps:
the access of the connection, true address numbers in the cache, and the sheet
unless a change of it has been counted. A sheet is only ever changed to a
database, and only by a connection that may read.

Beside it stand the outcomes of single commands. A command either leaves sheet
and draft as they are, or it has done exactly what it is for; nothing comes in
between, whatever faults, locks and triggers there are.
-/
import Gazetteer.Proofs.RecencyCache
import Gazetteer.Store.Script

namespace Gazetteer.Database

/-- The row of an answer in the table of saved answers. -/
def Saved.ofLocation (location : Location) : Saved :=
  ⟨.text location.address, .text location.country, .text location.region⟩

end Gazetteer.Database

namespace Gazetteer.Store

open Gazetteer.Database

namespace Desk

variable {desk mid after : Desk} {db : Database} {draft : Draft} {outcome : Outcome}

/-! ## What every statement keeps -/

/-- The numbers in a cache are those of its addresses. -/
def IsTruthful (encodings : RecencyCache String Address.V4) : Prop :=
  encodings.Every fun address value => value = Address.V4.encode address

/-- One desk may have come of another by statements of one connection. -/
structure Continues (desk after : Desk) : Prop where
  access : after.access = desk.access
  truthful : IsTruthful desk.encodings → IsTruthful after.encodings
  hasRead : desk.contact.hasRead = true → after.contact.hasRead = true
  changes : desk.contact.changes ≤ after.contact.changes
  same : after.contact.changes = desk.contact.changes →
    after.sheet.content = desk.sheet.content
  changed : desk.contact.changes < after.contact.changes →
    desk.access.mayRead = true ∧ after.contact.hasRead = true ∧
      ∃ db, after.sheet.content = .database db

theorem Continues.refl (desk : Desk) : desk.Continues desk :=
  ⟨rfl, id, id, Nat.le_refl _, fun _ => rfl, fun h => absurd h (Nat.lt_irrefl _)⟩

theorem Continues.trans (h1 : desk.Continues mid) (h2 : mid.Continues after) :
    desk.Continues after := by
  have hle := h1.changes
  have hle' := h2.changes
  refine ⟨h2.access.trans h1.access, h2.truthful ∘ h1.truthful, h2.hasRead ∘ h1.hasRead,
    by omega, ?_, ?_⟩
  · intro h
    rw [h2.same (by omega), h1.same (by omega)]
  · intro h
    by_cases hm : mid.contact.changes = after.contact.changes
    · obtain ⟨hread, hhas, db, hdb⟩ := h1.changed (by omega)
      exact ⟨hread, h2.hasRead hhas, db, (h2.same hm.symm).trans hdb⟩
    · obtain ⟨hread, hhas, hdb⟩ := h2.changed (by omega)
      exact ⟨h1.access ▸ hread, hhas, hdb⟩

/-- A statement that counts no change, leaves the content of the sheet and touches neither access
nor cache. -/
theorem Continues.of_quiet (ha : after.access = desk.access)
    (he : after.encodings = desk.encodings)
    (hr : desk.contact.hasRead = true → after.contact.hasRead = true)
    (hc : after.contact.changes = desk.contact.changes)
    (hs : after.sheet.content = desk.sheet.content) : desk.Continues after :=
  ⟨ha, fun h => he ▸ h, hr, hc ▸ Nat.le_refl _, fun _ => hs, fun h => by omega⟩

theorem continues_tell (notice : Notice) (desk : Desk) : desk.Continues (desk.tell notice) :=
  .of_quiet rfl rfl id rfl rfl

theorem continues_touch (tables : List Table) (desk : Desk) :
    desk.Continues (desk.touch tables) :=
  .of_quiet rfl rfl (fun _ => rfl) rfl rfl

theorem continues_alter (tables : List Table) (desk : Desk) :
    desk.Continues (desk.alter tables) :=
  .of_quiet rfl rfl (fun _ => rfl) rfl rfl

theorem continues_write (draft : Draft) (desk : Desk) : desk.Continues (desk.write draft) :=
  .of_quiet rfl rfl id rfl rfl

theorem continues_endTransaction (desk : Desk) : desk.Continues desk.endTransaction := by
  unfold endTransaction
  split <;> exact .of_quiet rfl rfl id rfl rfl

theorem continues_store (db : Database) (hm : desk.access.mayRead = true)
    (hr : desk.contact.hasRead = true) : desk.Continues (desk.store db) where
  access := rfl
  truthful := id
  hasRead := id
  changes := Nat.le_succ _
  same h := absurd h (Nat.succ_ne_self _)
  changed _ := ⟨hm, hr, db, rfl⟩

theorem continues_encode (address : String) (desk : Desk) :
    desk.Continues (desk.encode address).2 := by
  unfold encode
  split
  · next value encodings h =>
    refine ⟨rfl, ?_, id, Nat.le_refl _, fun _ => rfl, fun h => by simp at h⟩
    intro ht
    have := ht.get address
    rwa [h] at this
  · next encodings h =>
    refine ⟨rfl, ?_, id, Nat.le_refl _, fun _ => rfl, fun h => by simp at h⟩
    intro ht
    have := ht.get address
    rw [h] at this
    exact this.put rfl

@[simp] theorem encode_sheet (address : String) (desk : Desk) :
    (desk.encode address).2.sheet = desk.sheet := by
  unfold encode
  split <;> rfl

@[simp] theorem encode_draft (address : String) (desk : Desk) :
    (desk.encode address).2.draft = desk.draft := by
  unfold encode
  split <;> rfl

@[simp] theorem encode_access (address : String) (desk : Desk) :
    (desk.encode address).2.access = desk.access := by
  unfold encode
  split <;> rfl

@[simp] theorem encode_faults (address : String) (desk : Desk) :
    (desk.encode address).2.faults = desk.faults := by
  unfold encode
  split <;> rfl

/-- The number of an address is the same whether it was remembered or worked out. -/
theorem encode_fst (address : String) (ht : IsTruthful desk.encodings) :
    (desk.encode address).1 = Address.V4.encode address := by
  unfold encode
  split
  · next h => exact ht.get_some h
  · rfl

/-! ## Coming to the database -/

theorem draw_eq (desk : Desk) :
    desk.draw = (desk.faults.headD false, { desk with faults := desk.faults.tail }) := by
  obtain ⟨sheet, draft, encodings, access, contact, faults, notices⟩ := desk
  cases faults <;> rfl

/-- The desk when the next statement has come to read. -/
def arrived (desk : Desk) : Desk := { desk with faults := desk.faults.tail }.touch []

@[simp] theorem arrived_draft (desk : Desk) : desk.arrived.draft = desk.draft := rfl
@[simp] theorem arrived_access (desk : Desk) : desk.arrived.access = desk.access := rfl

theorem continues_arrived (desk : Desk) : desk.Continues desk.arrived :=
  .of_quiet rfl rfl (fun _ => rfl) rfl rfl

theorem reach?_eq (desk : Desk) :
    desk.reach? = if desk.faults.headD false then (none, { desk with faults := desk.faults.tail })
      else (desk.readable?, desk.arrived) := by
  simp only [reach?, draw_eq]
  rfl

theorem faults_reach? (desk : Desk) : desk.reach?.2.faults = desk.faults.tail := by
  rw [reach?_eq]
  split <;> rfl

theorem reach?_some (h : desk.reach? = (some db, after)) :
    desk.readable? = some db ∧ after = desk.arrived := by
  rw [reach?_eq] at h
  split at h
  · simp at h
  · obtain ⟨h1, h2⟩ := Prod.mk.inj h
    exact ⟨h1, h2.symm⟩

theorem reach?_none (h : desk.reach? = (none, after)) :
    after.sheet = desk.sheet ∧ after.draft = desk.draft ∧ desk.Continues after := by
  rw [reach?_eq] at h
  split at h
  · obtain ⟨-, rfl⟩ := Prod.mk.inj h
    exact ⟨rfl, rfl, .of_quiet rfl rfl id rfl rfl⟩
  · obtain ⟨-, rfl⟩ := Prod.mk.inj h
    exact ⟨rfl, rfl, continues_arrived desk⟩

theorem mayRead_of_readable? (h : desk.readable? = some db) :
    desk.access.mayRead = true ∧ desk.sheet.content.database? = some db := by
  unfold readable? at h
  split at h
  · exact ⟨by assumption, h⟩
  · cases h

/-- What may be read depends on nothing but the access and the content of the sheet. -/
theorem readable?_congr (ha : after.access = desk.access)
    (hs : after.sheet.content = desk.sheet.content) : after.readable? = desk.readable? := by
  unfold readable?
  rw [ha, hs]

/-! ## Questions -/

/-- A question leaves sheet and draft as they are, and it is answered by the database with the rows
of the open transaction. -/
theorem ask_cases {q : Query} {answer : Except StoreError (Option Names)}
    (h : desk.ask q = (answer, after)) :
    after.sheet = desk.sheet ∧ after.draft = desk.draft ∧ desk.Continues after ∧
      (answer = .error .query ∨
        ∃ db, desk.readable? = some db ∧ answer = (desk.draft.elim db db.withDraft).ask q) := by
  rw [ask] at h
  split at h
  · next d hr =>
    obtain ⟨rfl, rfl⟩ := Prod.mk.inj h
    obtain ⟨h1, h2, h3⟩ := reach?_none hr
    exact ⟨h1, h2, h3, .inl rfl⟩
  · next db d hr =>
    obtain ⟨hdb, rfl⟩ := reach?_some hr
    obtain ⟨rfl, rfl⟩ := Prod.mk.inj h
    exact ⟨rfl, rfl, (continues_arrived desk).trans (continues_touch _ _), .inr ⟨db, hdb, rfl⟩⟩

theorem ask_of_readable? (q : Query) (hf : desk.faults.headD false = false)
    (hdb : desk.readable? = some db) :
    (desk.ask q).1 = (desk.draft.elim db db.withDraft).ask q := by
  rw [ask, reach?_eq, hf]
  simp [hdb]

theorem faults_ask (q : Query) (desk : Desk) : (desk.ask q).2.faults = desk.faults.tail := by
  rw [ask]
  split
  · next hr => rw [← faults_reach? desk, hr]
  · next hr => rw [← faults_reach? desk, hr]; rfl

theorem hasTable_cases (table : Table) (desk : Desk) :
    desk.Continues (desk.hasTable table).2 ∧ (desk.hasTable table).2.sheet = desk.sheet ∧
      (desk.hasTable table).2.draft = desk.draft := by
  unfold hasTable
  split
  · next d hr =>
    obtain ⟨hs, hd, hgo⟩ := reach?_none hr
    exact ⟨hgo, hs, hd⟩
  · next db d hr =>
    obtain ⟨-, rfl⟩ := reach?_some hr
    exact ⟨continues_arrived desk, rfl, rfl⟩

end Desk

end Gazetteer.Store
