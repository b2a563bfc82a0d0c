/-
Gazetteer.Proofs.Store.Conversation — what a whole conversation does to a desk.

A conversation goes on with its desk as its statements do (`continues_run`). The
two parts of a lookup are described here: finding a location asks and never
writes, and saving one ends without a transaction whatever happened. A location
is reported saved exactly when its row is there, unless a trigger has dropped it.
-/
import Gazetteer.Proofs.Store.Command

namespace Gazetteer

open Gazetteer.Database

/-- The names that a database has for an address text among its blocks. -/
def Database.locate (db : Database) (address : String) : Except StoreError (Option Names) :=
  match Address.kind address with
  | .v4 => db.ask (.covering (Address.V4.encode address).area (Address.V4.encode address))
  | .block => db.ask (.named address)
  | .v6 | .invalid => .ok none

/-- Two databases have the same blocks and places, and the same indexes to look them up by. -/
structure Database.SameReference (db reference : Database) : Prop where
  places : db.places = reference.places
  blocks : db.blocks = reference.blocks
  indexes : db.indexes = reference.indexes

theorem Database.SameReference.trans {db mid reference : Database} (h1 : db.SameReference mid)
    (h2 : mid.SameReference reference) : db.SameReference reference :=
  ⟨h1.places.trans h2.places, h1.blocks.trans h2.blocks, h1.indexes.trans h2.indexes⟩

theorem Database.SameReference.locate {db reference : Database} (h : db.SameReference reference)
    (address : String) :
    db.locate address = reference.locate address := by
  unfold Database.locate
  cases Address.kind address with
  | v4 => simp only [ask, h.places, h.blocks, h.indexes]
  | block => simp only [ask, h.places, h.blocks]
  | v6 => rfl
  | invalid => rfl

/-- The names that a database has for an address text, among its saved answers if they count, and
else among its blocks. -/
def Database.namesFor (db : Database) (persists : Bool) (address : String) :
    Except StoreError (Option Names) :=
  match if persists then db.ask (.saved address) else .ok none with
  | .ok none => db.locate address
  | answer => answer

/-- The database with more rows at the end of the table of saved answers. -/
def Database.adding (db : Database) (rows : List Saved) : Database :=
  { db with saved := db.saved.append rows }

/-- A transaction with one row of saved answers adds that row. -/
theorem Database.withDraft_saved (db : Database) (isWriting : Bool) (row : Saved) :
    db.withDraft ⟨isWriting, [row], []⟩ = db.adding [row] := by
  simp only [withDraft, adding, List.reverse_nil, List.reverse_singleton, Slot.append_nil]

/-- A content with a table of saved answers has one row more at the end of that table, and is the
same in everything else. -/
def Content.Gains (row : Saved) (before after : Content) : Prop :=
  ∃ db rows, before.database? = some db ∧ db.saved = .table rows ∧
    after = .database { db with saved := .table (rows ++ [row]) }

namespace Store.Script

variable {α β : Type} {desk after : Desk} {address : String}

/-! ## Running -/

theorem run_bind (x : Script α) (f : α → Script β) (desk : Desk) :
    (x >>= f).run desk = (f (x.run desk).1).run (x.run desk).2 := by
  show (x.bind f).run desk = _
  induction x generalizing desk with
  | done result => rfl
  | tell notice next ih => exact ih (desk.tell notice)
  | encode address next ih => exact ih _ _
  | ask query next ih => exact ih _ _
  | hasTable table next ih => exact ih _ _
  | execute command next ih => exact ih _ _

@[simp] theorem run_number (address : String) (desk : Desk) :
    (number address).run desk = desk.encode address := rfl
@[simp] theorem run_query (q : Query) (desk : Desk) : (query q).run desk = desk.ask q := rfl
@[simp] theorem run_command (c : Command) (desk : Desk) :
    (command c).run desk = desk.execute c := rfl
@[simp] theorem run_giveUp (result : α) (desk : Desk) :
    (giveUp result).run desk = (result, desk.endTransaction) := rfl

/-- A command whose outcomes other than `done` lead to one fallback. -/
theorem run_attempt (c : Command) (next : Outcome → Script β) (fallback : Script β)
    (hduplicate : next .duplicate = fallback) (hfailed : next .failed = fallback) (desk : Desk) :
    (command c >>= next).run desk = if (desk.execute c).1 = .done
      then (next .done).run (desk.execute c).2 else fallback.run (desk.execute c).2 := by
  rw [run_bind, run_command]
  rcases desk.execute c with ⟨outcome, mid⟩
  cases outcome with
  | done => rfl
  | duplicate => rw [hduplicate]; rfl
  | failed => rw [hfailed]; rfl

/-- Every statement goes on with its desk. -/
theorem continues_step (script : Script α) (desk : Desk) :
    desk.Continues (script.step desk).2 := by
  cases script with
  | done result => exact .refl desk
  | tell notice next => exact Desk.continues_tell notice desk
  | encode address next => exact Desk.continues_encode address desk
  | ask query next => exact (Desk.ask_cases rfl).2.2.1
  | hasTable table next => exact (Desk.hasTable_cases table desk).1
  | execute command next => exact Desk.continues_execute command desk

/-- And so does every conversation. -/
theorem continues_run (script : Script α) (desk : Desk) :
    desk.Continues (script.run desk).2 := by
  induction script generalizing desk with
  | done result => exact .refl desk
  | tell notice next ih => exact (continues_step (.tell notice next) desk).trans (ih _)
  | encode address next ih => exact (continues_step (.encode address next) desk).trans (ih _ _)
  | ask query next ih => exact (continues_step (.ask query next) desk).trans (ih _ _)
  | hasTable table next ih => exact (continues_step (.hasTable table next) desk).trans (ih _ _)
  | execute command next ih => exact (continues_step (.execute command next) desk).trans (ih _ _)

/-! ## Finding -/

variable {names : Names} {answer : Except StoreError (Option Names)}

theorem find_sheet (h : (find address).run desk = (answer, after)) :
    after.sheet = desk.sheet ∧ after.draft = desk.draft := by
  unfold find at h
  split at h
  · simp only [run_bind, run_number, run_query] at h
    obtain ⟨hs, hd, -⟩ := Desk.ask_cases h
    exact ⟨by simpa using hs, by simpa using hd⟩
  · obtain ⟨hs, hd, -⟩ := Desk.ask_cases h
    exact ⟨hs, hd⟩
  · obtain ⟨-, rfl⟩ := Prod.mk.inj h
    exact ⟨rfl, rfl⟩
  · obtain ⟨-, rfl⟩ := Prod.mk.inj h
    exact ⟨rfl, rfl⟩

/-- What is found outside a transaction is what the database has, as long as the remembered numbers
are those of their addresses. -/
theorem find_some (hd : desk.draft = none)
    (h : (find address).run desk = (.ok (some names), after)) :
    ∃ db, desk.readable? = some db ∧
      (Desk.IsTruthful desk.encodings → db.locate address = .ok (some names)) := by
  unfold find at h
  unfold Database.locate
  cases hk : Address.kind address with
  | v4 =>
    simp only [hk, run_bind, run_number, run_query] at h
    obtain ⟨-, -, -, he | ⟨db, hdb, he⟩⟩ := Desk.ask_cases h
    · cases he
    · rw [Desk.readable?_congr (Desk.encode_access _ _) (by simp)] at hdb
      refine ⟨db, hdb, ?_⟩
      intro ht
      rw [Desk.encode_fst address ht] at he
      simpa [hd] using he.symm
  | block =>
    simp only [hk] at h
    obtain ⟨-, -, -, he | ⟨db, hdb, he⟩⟩ := Desk.ask_cases h
    · cases he
    · exact ⟨db, hdb, fun _ => by simpa [hd] using he.symm⟩
  | v6 =>
    simp only [hk] at h
    cases (Prod.mk.inj h).1
  | invalid =>
    simp only [hk] at h
    cases (Prod.mk.inj h).1

/-- Where the database may be read and no fault comes, the answer is that of the database. -/
theorem find_of_readable? {db : Database} (address : String) (hd : desk.draft = none)
    (ht : Desk.IsTruthful desk.encodings) (hf : desk.faults.headD false = false)
    (hdb : desk.readable? = some db) : ((find address).run desk).1 = db.locate address := by
  unfold find Database.locate
  cases Address.kind address with
  | v4 =>
    simp only [run_bind, run_number, run_query, Desk.encode_fst address ht]
    rw [Desk.ask_of_readable? _ (by simpa using hf)
      ((Desk.readable?_congr (Desk.encode_access _ _) (by simp)).trans hdb)]
    simp [hd]
  | block =>
    simp only [run_query]
    rw [Desk.ask_of_readable? _ hf hdb, hd]
    rfl
  | v6 => rfl
  | invalid => rfl

/-! ## Saving -/

/-- The end of saving: the transaction that holds the row is committed. -/
def commitSaved : Script WriteBack := do
  match ← command .commit with
  | .done => pure .persisted
  | .duplicate | .failed => giveUp (.failed .query)

/-- Saving after the second look has found nothing. -/
def addAndCommit (location : Location) : Script WriteBack := do
  match ← command (.addSaved location) with
  | .duplicate => giveUp .alreadyPresent
  | .failed => giveUp (.failed .query)
  | .done => commitSaved

/-- Saving inside the transaction. -/
def saveBegun (location : Location) : Script WriteBack := do
  match ← query (.saved location.address) with
  | .error cause => giveUp (.failed cause)
  | .ok (some _) => giveUp .alreadyPresent
  | .ok none => addAndCommit location

theorem save_eq (location : Location) : save location = (do
    match ← command .beginImmediate with
    | .duplicate | .failed => pure (.failed .query)
    | .done => saveBegun location) := rfl

variable {location : Location} {writeBack : WriteBack} {draft : Draft}

/-- What saving on a desk may come to: nothing, or the row of the location, unless a trigger has
dropped it. -/
def SaveOutcome (location : Location) (writeBack : WriteBack) (desk after : Desk) : Prop :=
  after.draft = none ∧ writeBack ≠ .loaded ∧ writeBack ≠ .disabled ∧
    ((writeBack ≠ .persisted ∧ after.sheet.content = desk.sheet.content) ∨
      (writeBack = .persisted ∧ ∃ db, desk.readable? = some db ∧
        ((db.trigger = some .ignore ∧ after.sheet.content = desk.sheet.content) ∨
          (db.trigger = none ∧
            desk.sheet.content.Gains (.ofLocation location) after.sheet.content))))

theorem giveUp_outcome {result : WriteBack} (h : (giveUp result).run desk = (writeBack, after))
    (hr : result = .alreadyPresent ∨ ∃ cause, result = .failed cause) :
    SaveOutcome location writeBack desk after := by
  rw [run_giveUp] at h
  obtain ⟨rfl, rfl⟩ := Prod.mk.inj h
  obtain ⟨hd, hs, -⟩ := Desk.endTransaction_sheet desk
  obtain rfl | ⟨cause, rfl⟩ := hr
  · exact ⟨hd, by simp, by simp, .inl ⟨by simp, hs⟩⟩
  · exact ⟨hd, by simp, by simp, .inl ⟨by simp, hs⟩⟩

/-- What saving comes to does not hang on which of two desks of one sheet and access it began. -/
theorem SaveOutcome.of_desk {mid : Desk} (ha : mid.access = desk.access)
    (hs : mid.sheet.content = desk.sheet.content)
    (h : SaveOutcome location writeBack mid after) :
    SaveOutcome location writeBack desk after := by
  unfold SaveOutcome at *
  rwa [Desk.readable?_congr ha hs, hs] at h

theorem commitSaved_outcome (h : commitSaved.run desk = (writeBack, after))
    (hd : (desk.draft = some ⟨true, [], []⟩ ∧
        ∀ db, desk.readable? = some db → db.trigger = some .ignore) ∨
      (desk.draft = some ⟨true, [.ofLocation location], []⟩ ∧
        ∀ db, desk.readable? = some db → db.trigger = none ∧ ∃ rows, db.saved = .table rows)) :
    SaveOutcome location writeBack desk after := by
  unfold commitSaved at h
  rw [run_bind, run_command] at h
  rcases hc : desk.execute .commit with ⟨outcome, mid⟩
  have hgo := Desk.continues_execute .commit desk
  simp only [hc] at h hgo
  obtain ⟨rfl, hs, -⟩ | ⟨db, draft, rfl, hdb, hdraft, hnone, -, hs⟩ := Desk.execute_commit hc
  · exact (giveUp_outcome h (.inr ⟨_, rfl⟩)).of_desk hgo.access (by rw [hs])
  · obtain ⟨rfl, rfl⟩ := Prod.mk.inj h
    refine ⟨hnone, by simp, by simp, .inr ⟨rfl, db, hdb, ?_⟩⟩
    -- a trigger has left nothing to commit, or the draft holds the row
    obtain ⟨hd, ht⟩ | ⟨hd, ht⟩ := hd
    · obtain rfl := Option.some.inj (hdraft.symm.trans hd)
      exact .inl ⟨ht db hdb, hs⟩
    · obtain rfl := Option.some.inj (hdraft.symm.trans hd)
      obtain ⟨htrigger, rows, hrows⟩ := ht db hdb
      refine .inr ⟨htrigger, db, rows, (Desk.mayRead_of_readable? hdb).2, hrows, ?_⟩
      rw [hs, withDraft_saved, adding, hrows]
      rfl

theorem addAndCommit_outcome {isWriting : Bool} (hd : desk.draft = some (.begin isWriting))
    (h : (addAndCommit location).run desk = (writeBack, after)) :
    SaveOutcome location writeBack desk after := by
  unfold addAndCommit at h
  rw [run_bind, run_command] at h
  rcases hc : desk.execute (.addSaved location) with ⟨outcome, mid⟩
  have hgo := Desk.continues_execute (.addSaved location) desk
  simp only [hc] at h hgo
  obtain ⟨hout, hs, -⟩ | ⟨db, draft, rows, rfl, hdb, hdraft, -, hrows, hs, hcase⟩ :=
    Desk.execute_addSaved hc
  · refine SaveOutcome.of_desk hgo.access (by rw [hs]) ?_
    cases outcome with
    | done => exact absurd rfl hout
    | duplicate => exact giveUp_outcome h (.inl rfl)
    | failed => exact giveUp_outcome h (.inr ⟨_, rfl⟩)
  · have hcontent : mid.sheet.content = desk.sheet.content := by rw [hs]
    refine (commitSaved_outcome h ?_).of_desk hgo.access hcontent
    rw [Desk.readable?_congr hgo.access hcontent, hdb]
    obtain rfl := Option.some.inj (hd.symm.trans hdraft)
    obtain ⟨ht, hmid⟩ | ⟨ht, -, hmid⟩ := hcase
    · refine .inl ⟨hmid, ?_⟩
      intro db' h'
      exact Option.some.inj h' ▸ ht
    · refine .inr ⟨hmid, ?_⟩
      intro db' h'
      exact Option.some.inj h' ▸ ⟨ht, rows, hrows⟩

/-- Saving ends without a transaction. It either leaves the content as it is, or adds the row of the
location and says so. -/
theorem save_outcome (hd : desk.draft = none)
    (h : (save location).run desk = (writeBack, after)) :
    SaveOutcome location writeBack desk after := by
  rw [save_eq, run_bind, run_command] at h
  rcases hb : desk.execute .beginImmediate with ⟨begun, mid⟩
  have hgo := Desk.continues_execute .beginImmediate desk
  simp only [hb] at h hgo
  obtain ⟨rfl, hs, hmid⟩ | ⟨rfl, -, hbegun⟩ := Desk.execute_beginImmediate hb
  · obtain ⟨rfl, rfl⟩ := Prod.mk.inj h
    exact ⟨hmid.trans hd, by simp, by simp, .inl ⟨by simp, by rw [hs]⟩⟩
  · obtain ⟨isWriting, hs, hmid⟩ : ∃ isWriting, mid.sheet.content = desk.sheet.content ∧
        mid.draft = some (.begin isWriting) := by
      obtain ⟨-, hs, hmid⟩ | ⟨-, hs, hmid⟩ := hbegun
      · exact ⟨_, by rw [hs], hmid⟩
      · exact ⟨_, by rw [hs], hmid⟩
    refine SaveOutcome.of_desk hgo.access hs ?_
    simp only [saveBegun, run_bind, run_query] at h
    rcases hq : mid.ask (.saved location.address) with ⟨answer, last⟩
    simp only [hq] at h
    obtain ⟨hs', hd', hgo', -⟩ := Desk.ask_cases hq
    refine SaveOutcome.of_desk hgo'.access (by rw [hs']) ?_
    match answer, h with
    | .error cause, h => exact giveUp_outcome h (.inr ⟨_, rfl⟩)
    | .ok (some _), h => exact giveUp_outcome h (.inl rfl)
    | .ok none, h => exact addAndCommit_outcome (hd'.trans hmid) h

/-! ## Looking up -/

/-- What looking an address text up on a desk may come to. -/
inductive LookupOutcome (persists : Bool) (address : String) (desk after : Desk) :
    Except StoreError (Option Resolved) → Prop where
  /-- Nothing is found, or the database cannot be read. -/
  | nothing {answer : Except StoreError (Option Resolved)}
      (empty : ∀ resolved, answer ≠ .ok (some resolved))
      (content : after.sheet.content = desk.sheet.content) :
      LookupOutcome persists address desk after answer
  /-- A saved answer is found. -/
  | loaded {db : Database} {names : Names} (enabled : persists = true)
      (readable : desk.readable? = some db) (saved : db.ask (.saved address) = .ok (some names))
      (content : after.sheet.content = desk.sheet.content) :
      LookupOutcome persists address desk after
        (.ok (some ⟨names.location address, .loaded⟩))
  /-- A location is found among the blocks, and it is saved if that is wanted. -/
  | located {db : Database} {names : Names} {writeBack : WriteBack}
      (readable : desk.readable? = some db)
      (unsaved : persists = true → db.ask (.saved address) = .ok none)
      (located : Desk.IsTruthful desk.encodings → db.locate address = .ok (some names))
      (saving : if persists then SaveOutcome (names.location address) writeBack desk after
        else writeBack = .disabled ∧ after.sheet.content = desk.sheet.content) :
      LookupOutcome persists address desk after
        (.ok (some ⟨names.location address, writeBack⟩))

/-- Looking an address text up after the saved answers have shown none. -/
def lookupBlocks (persists : Bool) (address : String) :
    Script (Except StoreError (Option Resolved)) := do
  match ← find address with
  | .error cause => pure (.error cause)
  | .ok none => pure (.ok none)
  | .ok (some names) =>
    let location := names.location address
    if persists then
      let writeBack ← save location
      if writeBack.isFailed then say .notSaved
      pure (.ok (some ⟨location, writeBack⟩))
    else pure (.ok (some ⟨location, .disabled⟩))

theorem lookup_false (address : String) : lookup false address = lookupBlocks false address := rfl

theorem lookup_true (address : String) : lookup true address = (do
    match ← query (.saved address) with
    | .error cause => pure (.error cause)
    | .ok (some names) => pure (.ok (some ⟨names.location address, .loaded⟩))
    | .ok none => lookupBlocks true address) := rfl

variable {persists : Bool} {found : Except StoreError (Option Resolved)}

theorem lookupBlocks_outcome (hd : desk.draft = none)
    (hu : persists = true → ∀ db, desk.readable? = some db → db.ask (.saved address) = .ok none)
    (h : (lookupBlocks persists address).run desk = (found, after)) :
    after.draft = none ∧ LookupOutcome persists address desk after found := by
  unfold lookupBlocks at h
  rw [run_bind] at h
  rcases hf : (find address).run desk with ⟨answer, mid⟩
  have hgo := continues_run (find address) desk
  simp only [hf] at h hgo
  obtain ⟨hs, hmid⟩ := find_sheet hf
  match answer, h with
  | .error cause, h =>
    obtain ⟨rfl, rfl⟩ := Prod.mk.inj h
    exact ⟨hmid.trans hd, .nothing (by simp) (by rw [hs])⟩
  | .ok none, h =>
    obtain ⟨rfl, rfl⟩ := Prod.mk.inj h
    exact ⟨hmid.trans hd, .nothing (by simp) (by rw [hs])⟩
  | .ok (some names), h =>
    obtain ⟨db, hdb, hlocate⟩ := find_some hd hf
    cases persists with
    | false =>
      obtain ⟨rfl, rfl⟩ := Prod.mk.inj h
      exact ⟨hmid.trans hd, .located hdb (by simp) hlocate ⟨rfl, by rw [hs]⟩⟩
    | true =>
      simp only [if_true, run_bind] at h
      rcases hsave : (save (names.location address)).run mid with ⟨writeBack, last⟩
      simp only [hsave] at h
      have hout := (save_outcome (hmid.trans hd) hsave).of_desk hgo.access (by rw [hs])
      cases hfailed : writeBack.isFailed with
      | false =>
        simp only [hfailed] at h
        obtain ⟨rfl, rfl⟩ := Prod.mk.inj h
        exact ⟨hout.1, .located hdb (fun _ => hu rfl db hdb) hlocate hout⟩
      | true =>
        simp only [hfailed] at h
        obtain ⟨rfl, rfl⟩ := Prod.mk.inj h
        exact ⟨hout.1, .located hdb (fun _ => hu rfl db hdb) hlocate hout⟩

theorem LookupOutcome.of_desk {mid : Desk} (hgo : desk.Continues mid)
    (hs : mid.sheet.content = desk.sheet.content)
    (h : LookupOutcome persists address mid after found) :
    LookupOutcome persists address desk after found := by
  have hr := Desk.readable?_congr hgo.access hs
  cases h with
  | nothing hempty hc => exact .nothing hempty (hc.trans hs)
  | loaded he hdb hsaved hc => exact .loaded he (hr ▸ hdb) hsaved (hc.trans hs)
  | located hdb hu hl hsave =>
    refine .located (hr ▸ hdb) hu (fun ht => hl (hgo.truthful ht)) ?_
    cases persists with
    | true => exact SaveOutcome.of_desk hgo.access hs hsave
    | false => exact ⟨hsave.1, hsave.2.trans hs⟩

/-- A lookup ends without a transaction, and it comes to one of the three. -/
theorem lookup_outcome (hd : desk.draft = none)
    (h : (lookup persists address).run desk = (found, after)) :
    after.draft = none ∧ LookupOutcome persists address desk after found := by
  cases persists with
  | false => exact lookupBlocks_outcome hd (by simp) h
  | true =>
    rw [lookup_true, run_bind, run_query] at h
    rcases hq : desk.ask (.saved address) with ⟨answer, mid⟩
    simp only [hq] at h
    obtain ⟨hs, hmid, hgo, hanswer⟩ := Desk.ask_cases hq
    have hcontent : mid.sheet.content = desk.sheet.content := by rw [hs]
    match answer, h with
    | .error cause, h =>
      obtain ⟨rfl, rfl⟩ := Prod.mk.inj h
      exact ⟨hmid.trans hd, .nothing (by simp) hcontent⟩
    | .ok (some names), h =>
      obtain ⟨rfl, rfl⟩ := Prod.mk.inj h
      obtain he | ⟨db, hdb, he⟩ := hanswer
      · cases he
      · rw [hd] at he
        exact ⟨hmid.trans hd, .loaded rfl hdb he.symm hcontent⟩
    | .ok none, h =>
      obtain he | ⟨db, hdb, he⟩ := hanswer
      · cases he
      · have hu : ∀ db', mid.readable? = some db' → db'.ask (.saved address) = .ok none := by
          intro db' h'
          rw [Desk.readable?_congr hgo.access hcontent, hdb] at h'
          rw [← Option.some.inj h', he, hd]
          rfl
        obtain ⟨hafter, hout⟩ := lookupBlocks_outcome (hmid.trans hd) (fun _ => hu) h
        exact ⟨hafter, hout.of_desk hgo hcontent⟩

/-- A lookup that does not persist changes nothing and says so. -/
theorem LookupOutcome.of_disabled (h : LookupOutcome false address desk after found) :
    after.sheet.content = desk.sheet.content ∧
      ∀ resolved, found = .ok (some resolved) →
        resolved.writeBack = .disabled ∧ resolved.location.address = address := by
  cases h with
  | nothing hempty hc => exact ⟨hc, fun resolved hr => absurd hr (hempty resolved)⟩
  | loaded he hdb hsaved hc => cases he
  | located hdb hu hl hsave =>
    obtain ⟨rfl, hc⟩ := hsave
    refine ⟨hc, ?_⟩
    intro resolved hr
    obtain rfl := Option.some.inj (Except.ok.inj hr)
    exact ⟨rfl, rfl⟩

/-! ## Looking up where reading works -/

/-- Saving a location does not change it. -/
theorem lookupBlocks_location (persists : Bool) (address : String) (desk : Desk) :
    ((lookupBlocks persists address).run desk).1.map (·.map (·.location)) =
      ((find address).run desk).1.map (·.map (·.location address)) := by
  unfold lookupBlocks
  rw [run_bind]
  match ((find address).run desk).1 with
  | .error cause => rfl
  | .ok none => rfl
  | .ok (some names) =>
    cases persists with
    | false => rfl
    | true =>
      simp only [if_true, run_bind]
      split <;> rfl

/-- The first statements of a lookup, which read, meet no fault. -/
def ReadsWork (persists : Bool) (faults : List Bool) : Prop :=
  ∀ fault ∈ faults.take (if persists then 2 else 1), fault = false

theorem readsWork_head {persists : Bool} {faults : List Bool} (h : ReadsWork persists faults) :
    faults.headD false = false := by
  cases faults with
  | nil => rfl
  | cons fault rest => exact h fault (by cases persists <;> simp)

theorem readsWork_tail {faults : List Bool} (h : ReadsWork true faults) :
    faults.tail.headD false = false := by
  match faults with
  | [] => rfl
  | [_] => rfl
  | _ :: fault :: rest => exact h fault (by simp)

/-- Where reading works a lookup answers what the database has. -/
theorem lookup_of_readable? {db : Database} (address : String) (hd : desk.draft = none)
    (ht : Desk.IsTruthful desk.encodings) (hf : ReadsWork persists desk.faults)
    (hdb : desk.readable? = some db) :
    ((lookup persists address).run desk).1.map (·.map (·.location)) =
      (db.namesFor persists address).map (·.map (·.location address)) := by
  have hhead := readsWork_head hf
  unfold Database.namesFor
  cases persists with
  | false =>
    rw [lookup_false, lookupBlocks_location, find_of_readable? address hd ht hhead hdb]
    rfl
  | true =>
    have htail := readsWork_tail hf
    rw [lookup_true, run_bind, run_query]
    rcases hq : desk.ask (.saved address) with ⟨answer, mid⟩
    obtain ⟨hs, hmid, hgo, -⟩ := Desk.ask_cases hq
    have hanswer := Desk.ask_of_readable? (.saved address) hhead hdb
    have hfaults := Desk.faults_ask (.saved address) desk
    rw [hq] at hanswer hfaults
    rw [hd] at hanswer
    have hanswer : answer = db.ask (.saved address) := hanswer
    simp only [if_true, ← hanswer]
    match answer with
    | .error cause => rfl
    | .ok (some names) => rfl
    | .ok none =>
      show ((lookupBlocks true address).run mid).1.map _ = _
      rw [lookupBlocks_location, find_of_readable? address (hmid.trans hd) (hgo.truthful ht)
        (hfaults ▸ htail) ((Desk.readable?_congr hgo.access (by rw [hs])).trans hdb)]

end Store.Script

end Gazetteer
