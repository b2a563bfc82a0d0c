/-
Gazetteer.Proofs.Store.Filling — how tables are made and filled.

Places are written, and tables and indexes made, by commands that are finished
at once: each has done its whole work or nothing. The rows of a block are written
in one transaction, so either all of them are in the table afterwards or the
content is as it was. A row is there exactly if the store has said so.
-/
import Gazetteer.Proofs.Store.Conversation

namespace Gazetteer.Store

open Gazetteer.Database

/-- What a command that is finished at once makes of a database, if it can be done. -/
def Command.result? (db : Database) : Command → Option Database
  | .putPlace place =>
    db.places.rows?.map fun rows => { db with places := .table (Database.putPlace place rows) }
  | .createTable table => some (if db.lacks table then db.withTable table else db)
  | .createIndex name =>
    if db.hasOther name then none
    else if name ∈ db.indexes then some db
    else db.blocks.rows?.map fun _ => { db with indexes := name :: db.indexes }
  | _ => none

/-- The command is finished at once, in no transaction. -/
def Command.IsSingle : Command → Prop
  | .putPlace _ | .createTable _ | .createIndex _ => True
  | _ => False

namespace Desk

variable {desk after : Desk} {db : Database} {outcome : Outcome} {draft : Draft}

/-! ## Commands that are finished at once -/

theorem change_cases {table : Table} (h : desk.change table db = (outcome, after)) :
    after.draft = desk.draft ∧
      ((outcome = .failed ∧ after.sheet.content = desk.sheet.content) ∨
        (outcome = .done ∧ after.sheet.content = .database db)) := by
  unfold change at h
  split at h
  · obtain ⟨rfl, rfl⟩ := Prod.mk.inj h
    exact ⟨rfl, .inl ⟨rfl, rfl⟩⟩
  · split at h
    · obtain ⟨rfl, rfl⟩ := Prod.mk.inj h
      exact ⟨rfl, .inr ⟨rfl, rfl⟩⟩
    · obtain ⟨rfl, rfl⟩ := Prod.mk.inj h
      exact ⟨rfl, .inl ⟨rfl, rfl⟩⟩

/-- A command in no transaction has made of the content what it should, or nothing. -/
def Finishes (c : Command) (desk : Desk) (outcome : Outcome) (after : Desk) : Prop :=
  after.draft = none ∧
    ((outcome ≠ .done ∧ after.sheet.content = desk.sheet.content) ∨
      (outcome = .done ∧ ∃ db made, desk.readable? = some db ∧ c.result? db = some made ∧
        (after.sheet.content = .database made ∨
          (made = db ∧ after.sheet.content = desk.sheet.content))))

theorem execute_single {c : Command} (hc : c.IsSingle) (hd : desk.draft = none)
    (h : desk.execute c = (outcome, after)) : Finishes c desk outcome after := by
  have hne : c ≠ .rollback ∧ c ≠ .begin := by
    constructor <;> rintro rfl <;> exact hc
  obtain ⟨rfl, hs, hdraft⟩ | ⟨db, hdb, hp⟩ := execute_cases hne h
  · exact ⟨hdraft.trans hd, .inl ⟨by simp, by rw [hs]⟩⟩
  · have hchange {table : Table} {made : Database} (hr : c.result? db = some made)
        (hp : desk.arrived.change table made = (outcome, after)) :
        Finishes c desk outcome after := by
      obtain ⟨hdraft, ⟨rfl, hs⟩ | ⟨rfl, hs⟩⟩ := change_cases hp
      · exact ⟨hdraft.trans hd, .inl ⟨by simp, hs⟩⟩
      · exact ⟨hdraft.trans hd, .inr ⟨rfl, db, made, hdb, hr, .inl hs⟩⟩
    cases c with
    | putPlace place =>
      simp only [perform, arrived_draft, hd] at hp
      split at hp
      · obtain ⟨rfl, rfl⟩ := Prod.mk.inj hp
        exact ⟨hd, .inl ⟨by simp, rfl⟩⟩
      · next rows hrows => exact hchange (by simp [Command.result?, hrows]) hp
    | createTable table =>
      simp only [perform, arrived_draft, hd] at hp
      cases hl : db.lacks table with
      | false =>
        simp only [hl, Bool.not_false, if_true] at hp
        obtain ⟨rfl, rfl⟩ := Prod.mk.inj hp
        exact ⟨hd, .inr ⟨rfl, db, db, hdb, by simp [Command.result?, hl], .inr ⟨rfl, rfl⟩⟩⟩
      | true =>
        simp only [hl, Bool.not_true, Bool.false_eq_true, if_false] at hp
        exact hchange (by simp [Command.result?, hl]) hp
    | createIndex name =>
      simp only [perform, arrived_draft, hd] at hp
      split at hp
      · obtain ⟨rfl, rfl⟩ := Prod.mk.inj hp
        exact ⟨hd, .inl ⟨by simp, rfl⟩⟩
      · next hother =>
        split at hp
        · next hm =>
          obtain ⟨rfl, rfl⟩ := Prod.mk.inj hp
          exact ⟨hd, .inr ⟨rfl, db, db, hdb, by simp [Command.result?, hother, hm],
            .inr ⟨rfl, rfl⟩⟩⟩
        · next hm =>
          split at hp
          · obtain ⟨rfl, rfl⟩ := Prod.mk.inj hp
            exact ⟨hd, .inl ⟨by simp, rfl⟩⟩
          · next hrows =>
            obtain ⟨rows, hrows⟩ := Option.ne_none_iff_exists'.1 (by simpa using hrows)
            exact hchange (by simp [Command.result?, hother, hm, hrows]) hp
    | begin => exact hc.elim
    | beginImmediate => exact hc.elim
    | commit => exact hc.elim
    | rollback => exact hc.elim
    | addSaved location => exact hc.elim
    | addBlock row => exact hc.elim

/-! ## Rows of a block -/

/-- A row joins those of the open transaction, or nothing has changed. -/
theorem execute_addBlock {row : Address.BlockRow}
    (h : desk.execute (.addBlock row) = (outcome, after)) :
    after.sheet.content = desk.sheet.content ∧
      ((outcome ≠ .done ∧ after.draft = desk.draft) ∨
        (outcome = .done ∧ ∃ db draft rows, desk.readable? = some db ∧
          desk.draft = some draft ∧ db.blocks = .table rows ∧
          after.draft = some { draft with
            isWriting := true, blocks := .ofRow row :: draft.blocks })) := by
  obtain ⟨rfl, hs, hdraft⟩ | ⟨db, hdb, hp⟩ := execute_cases (by simp) h
  · exact ⟨by rw [hs], .inl ⟨by simp, hdraft⟩⟩
  · cases hd : desk.draft with
    | none =>
      simp only [perform, arrived_draft, hd] at hp
      obtain ⟨rfl, rfl⟩ := Prod.mk.inj hp
      exact ⟨rfl, .inl ⟨by simp, hd⟩⟩
    | some draft =>
      simp only [perform, arrived_draft, hd] at hp
      split at hp
      · unfold addBlock at hp
        split at hp
        · obtain ⟨rfl, rfl⟩ := Prod.mk.inj hp
          exact ⟨rfl, .inl ⟨by simp, hd⟩⟩
        · next rows hrows =>
          obtain ⟨rfl, rfl⟩ := Prod.mk.inj hp
          have hrows : db.blocks = .table rows := by
            cases hb : db.blocks <;> simp_all [Slot.rows?]
          exact ⟨rfl, .inr ⟨rfl, db, draft, rows, hdb, rfl, hrows, rfl⟩⟩
      · obtain ⟨rfl, rfl⟩ := Prod.mk.inj hp
        exact ⟨rfl, .inl ⟨by simp, hd⟩⟩

end Desk

namespace Script

variable {desk after : Desk} {db : Database} {result : Except StoreError Unit}

/-! ## Several commands -/

theorem run_all_cons (c : Command) (commands : List Command) (desk : Desk) :
    (all (c :: commands)).run desk = if (desk.execute c).1 = .done
      then (all commands).run (desk.execute c).2 else (.error .query, (desk.execute c).2) :=
  run_attempt c _ (pure (Except.error StoreError.query)) rfl rfl desk

/-- If all commands have been done, the content is what they make of it one after another; if not,
those before the first failure have been done. -/
theorem all_outcome {commands : List Command} (hc : ∀ c ∈ commands, c.IsSingle)
    (hd : desk.draft = none) (hdb : desk.readable? = some db)
    (h : (all commands).run desk = (result, after)) :
    after.draft = none ∧ ∃ done made, done <+: commands ∧ (result = .ok () ↔ done = commands) ∧
      done.foldlM Command.result? db = some made ∧
      (after.sheet.content = .database made ∨
        (made = db ∧ after.sheet.content = desk.sheet.content)) := by
  -- on the commands: each that is done leaves a readable database to the rest
  induction commands generalizing desk db with
  | nil =>
    obtain ⟨rfl, rfl⟩ := Prod.mk.inj h
    exact ⟨hd, [], db, List.prefix_rfl, by simp, rfl, .inr ⟨rfl, rfl⟩⟩
  | cons c commands ih =>
    rw [run_all_cons] at h
    rcases he : desk.execute c with ⟨outcome, mid⟩
    have hgo := Desk.continues_execute c desk
    rw [he] at h hgo
    obtain ⟨hmid, ⟨hne, hs⟩ | ⟨rfl, db', made, hdb', hmade, hs⟩⟩ :=
      Desk.execute_single (hc c List.mem_cons_self) hd he
    · rw [if_neg hne] at h
      obtain ⟨rfl, rfl⟩ := Prod.mk.inj h
      exact ⟨hmid, [], db, List.nil_prefix, by simp, rfl, .inr ⟨rfl, hs⟩⟩
    · rw [if_pos rfl] at h
      obtain rfl : db' = db := Option.some.inj (hdb'.symm.trans hdb)
      have hread : mid.readable? = some made := by
        obtain ⟨hm, hcontent⟩ := Desk.mayRead_of_readable? hdb
        unfold Desk.readable?
        rw [hgo.access, if_pos hm]
        obtain hs | ⟨rfl, hs⟩ := hs
        · rw [hs]
          rfl
        · rw [hs, hcontent]
      obtain ⟨hafter, done, last, hpre, hall, hfold, hlast⟩ :=
        ih (fun c' hm => hc c' (List.mem_cons_of_mem _ hm)) hmid hread h
      refine ⟨hafter, c :: done, last, ?_, by simp [hall], ?_, ?_⟩
      · exact List.cons_prefix_cons.2 ⟨rfl, hpre⟩
      · rw [List.foldlM_cons, hmade]
        exact hfold
      · obtain hlast | ⟨rfl, hlast⟩ := hlast
        · exact .inl hlast
        · obtain hs | ⟨rfl, hs⟩ := hs
          · exact .inl (hlast.trans hs)
          · exact .inr ⟨rfl, hlast.trans hs⟩

theorem isTidy_all {commands : List Command} (hc : ∀ c ∈ commands, c.IsSingle) (desk : Desk)
    (hd : desk.draft = none) : ((all commands).run desk).2.draft = none := by
  induction commands generalizing desk with
  | nil => exact hd
  | cons c commands ih =>
    have hmid := (Desk.execute_single (hc c List.mem_cons_self) hd rfl).1
    rw [run_all_cons]
    split
    · exact ih (fun c' hm => hc c' (List.mem_cons_of_mem _ hm)) _ hmid
    · exact hmid

/-- Where a command has been done the database could be read. -/
theorem readable?_of_all {c : Command} {commands : List Command} (hc : c.IsSingle)
    (hd : desk.draft = none) (h : (all (c :: commands)).run desk = (.ok (), after)) :
    ∃ db, desk.readable? = some db := by
  rw [run_all_cons] at h
  rcases he : desk.execute c with ⟨outcome, mid⟩
  rw [he] at h
  obtain ⟨-, ⟨hne, -⟩ | ⟨-, db, -, hdb, -⟩⟩ := Desk.execute_single hc hd he
  · rw [if_neg hne] at h
    cases (Prod.mk.inj h).1
  · exact ⟨db, hdb⟩

/-! ## The rows of a block -/

theorem run_addRows_nil (desk : Desk) :
    (addRows []).run desk = if (desk.execute .commit).1 = .done
      then (.ok (), (desk.execute .commit).2)
      else (.error .query, (desk.execute .commit).2.endTransaction) :=
  run_attempt .commit _ (giveUp (Except.error StoreError.query)) rfl rfl desk

theorem run_addRows_cons (row : Address.BlockRow) (rows : List Address.BlockRow) (desk : Desk) :
    (addRows (row :: rows)).run desk = if (desk.execute (.addBlock row)).1 = .done
      then (addRows rows).run (desk.execute (.addBlock row)).2
      else (.error .query, (desk.execute (.addBlock row)).2.endTransaction) :=
  run_attempt (.addBlock row) _ (giveUp (Except.error StoreError.query)) rfl rfl desk

theorem run_addBlock (rows : List Address.BlockRow) (desk : Desk) :
    (addBlock rows).run desk = if (desk.execute .begin).1 = .done
      then (addRows rows).run (desk.execute .begin).2
      else (.error .query, (desk.execute .begin).2) :=
  run_attempt .begin _ (pure (Except.error StoreError.query)) rfl rfl desk

theorem giveUp_content {cause : StoreError}
    (h : (Except.error cause, desk.endTransaction) = (result, after)) :
    after.draft = none ∧ result ≠ .ok () ∧ after.sheet.content = desk.sheet.content := by
  obtain ⟨rfl, rfl⟩ := Prod.mk.inj h
  obtain ⟨hd, hs, -⟩ := Desk.endTransaction_sheet desk
  exact ⟨hd, by simp, hs⟩

/-- The end of a transaction that writes rows: all of them are in the table, or the content is as it
was. -/
theorem addRows_outcome {rows : List Address.BlockRow} {acc : List Block} {isWriting : Bool}
    (hne : acc ≠ [] ∨ rows ≠ []) (hd : desk.draft = some ⟨isWriting, [], acc⟩)
    (h : (addRows rows).run desk = (result, after)) :
    after.draft = none ∧
      ((result ≠ .ok () ∧ after.sheet.content = desk.sheet.content) ∨
        (result = .ok () ∧ ∃ db, desk.readable? = some db ∧ after.sheet.content =
          .database (db.withDraft ⟨true, [], (rows.map .ofRow).reverse ++ acc⟩))) := by
  -- the draft holds the rows that have been given, the last one first, so it varies
  induction rows generalizing desk acc isWriting with
  | nil =>
    rw [run_addRows_nil] at h
    rcases he : desk.execute .commit with ⟨outcome, mid⟩
    rw [he] at h
    obtain ⟨rfl, hs, -⟩ | ⟨db, draft, rfl, hdb, hdraft, hnone, -, hs⟩ := Desk.execute_commit he
    · rw [if_neg (by simp)] at h
      obtain ⟨hafter, hresult, hcontent⟩ := giveUp_content h
      exact ⟨hafter, .inl ⟨hresult, by rw [hcontent, hs]⟩⟩
    · obtain ⟨rfl, rfl⟩ := Prod.mk.inj h
      obtain rfl := Option.some.inj (hdraft.symm.trans hd)
      have hacc : acc ≠ [] := by simpa using hne
      refine ⟨hnone, .inr ⟨rfl, db, hdb, ?_⟩⟩
      rw [hs, if_neg (by simp [Draft.isEmpty, hacc])]
      rfl
  | cons row rows ih =>
    rw [run_addRows_cons] at h
    rcases he : desk.execute (.addBlock row) with ⟨outcome, mid⟩
    have hgo := Desk.continues_execute (.addBlock row) desk
    rw [he] at h hgo
    obtain ⟨hs, ⟨hout, -⟩ | ⟨rfl, db, draft, old, hdb, hdraft, -, hmid⟩⟩ :=
      Desk.execute_addBlock he
    · rw [if_neg hout] at h
      obtain ⟨hafter, hresult, hcontent⟩ := giveUp_content h
      exact ⟨hafter, .inl ⟨hresult, hcontent.trans hs⟩⟩
    · rw [if_pos rfl] at h
      obtain rfl := Option.some.inj (hdraft.symm.trans hd)
      obtain ⟨hafter, hcase⟩ := ih (.inl (by simp)) hmid h
      rw [Desk.readable?_congr hgo.access hs] at hcase
      rw [hs] at hcase
      refine ⟨hafter, hcase.imp_right fun ⟨hok, db', hdb', hlast⟩ => ⟨hok, db', hdb', ?_⟩⟩
      rw [hlast]
      simp

/-- The rows of a block are in the table, all of them and in order, or nothing has changed. -/
theorem addBlock_outcome {rows : List Address.BlockRow} (hne : rows ≠ [])
    (hd : desk.draft = none) (h : (addBlock rows).run desk = (result, after)) :
    after.draft = none ∧
      ((result ≠ .ok () ∧ after.sheet.content = desk.sheet.content) ∨
        (result = .ok () ∧ ∃ db, desk.readable? = some db ∧ after.sheet.content =
          .database { db with blocks := db.blocks.append (rows.map .ofRow) })) := by
  rw [run_addBlock] at h
  rcases he : desk.execute .begin with ⟨outcome, mid⟩
  have hgo := Desk.continues_execute .begin desk
  rw [he] at h hgo
  obtain ⟨hs, ⟨rfl, hmid⟩ | ⟨rfl, hmid⟩⟩ := Desk.execute_begin hd he
  · rw [if_neg (by simp)] at h
    obtain ⟨rfl, rfl⟩ := Prod.mk.inj h
    exact ⟨hmid, .inl ⟨by simp, by rw [hs]⟩⟩
  · rw [if_pos rfl] at h
    have hcontent : mid.sheet.content = desk.sheet.content := by rw [hs]
    obtain ⟨hafter, hcase⟩ := addRows_outcome (.inr hne) hmid h
    rw [Desk.readable?_congr hgo.access hcontent, hcontent] at hcase
    refine ⟨hafter, hcase.imp_right fun ⟨hok, db, hdb, hlast⟩ => ⟨hok, db, hdb, ?_⟩⟩
    rw [hlast]
    simp [withDraft, Slot.append_nil]

/-! ## Scripts that do one thing or nothing -/

/-- A script either says that it has done what it is for, and has, or it has left the content as it
was. -/
def Writes (script : Script (Except StoreError Unit)) (effect : Database → Option Database) :
    Prop :=
  ∀ desk after result, desk.draft = none → script.run desk = (result, after) →
    after.draft = none ∧
      ((result ≠ .ok () ∧ after.sheet.content = desk.sheet.content) ∨
        (result = .ok () ∧ ∃ db made, desk.readable? = some db ∧ effect db = some made ∧
          after.sheet.content.database? = some made))

theorem Writes.isTidy {script : Script (Except StoreError Unit)}
    {effect : Database → Option Database} (h : script.Writes effect) (desk : Desk)
    (hd : desk.draft = none) : (script.run desk).2.draft = none :=
  (h desk _ _ hd rfl).1

theorem writes_single {c : Command} (hc : c.IsSingle) : (all [c]).Writes (Command.result? · c) := by
  intro desk after result hd h
  rw [run_all_cons] at h
  rcases he : desk.execute c with ⟨outcome, mid⟩
  rw [he] at h
  obtain ⟨hmid, ⟨hne, hs⟩ | ⟨rfl, db, made, hdb, hmade, hs⟩⟩ := Desk.execute_single hc hd he
  · rw [if_neg hne] at h
    obtain ⟨rfl, rfl⟩ := Prod.mk.inj h
    exact ⟨hmid, .inl ⟨by simp, hs⟩⟩
  · rw [if_pos rfl] at h
    obtain ⟨rfl, rfl⟩ := Prod.mk.inj h
    refine ⟨hmid, .inr ⟨rfl, db, made, hdb, hmade, ?_⟩⟩
    obtain hs | ⟨rfl, hs⟩ := hs
    · rw [hs]
      rfl
    · rw [hs]
      exact (Desk.mayRead_of_readable? hdb).2

theorem writes_addBlock {rows : List Address.BlockRow} (hne : rows ≠ []) :
    (addBlock rows).Writes fun db =>
      some { db with blocks := db.blocks.append (rows.map .ofRow) } := by
  intro desk after result hd h
  obtain ⟨hafter, hcase⟩ := addBlock_outcome hne hd h
  refine ⟨hafter, hcase.imp_right fun ⟨hok, db, hdb, hcontent⟩ => ⟨hok, db, _, hdb, rfl, ?_⟩⟩
  rw [hcontent]
  rfl

/-! ## Tables and indexes -/

/-- The commands that make the tables and indexes of a location database. -/
def creation : List Command :=
  [Table.saved, .places, .blocks].map .createTable ++ indexNames.map .createIndex

theorem isSingle_creation : ∀ c ∈ creation, c.IsSingle := by
  simp [creation, indexNames, Command.IsSingle]

theorem createTables_eq : createTables = all creation := rfl

/-- A database that has all tables and indexes. -/
def IsComplete (db : Database) : Prop :=
  ∀ c ∈ creation, c.result? db = some db

/-- Whatever becomes of it, making the tables of a complete database changes nothing. -/
theorem createTables_complete (hd : desk.draft = none) (hdb : desk.readable? = some db)
    (hs : desk.sheet.content = .database db) (hc : IsComplete db) :
    (createTables.run desk).2.sheet.content = desk.sheet.content := by
  obtain ⟨-, done, made, hpre, -, hfold, hcontent⟩ :=
    all_outcome isSingle_creation hd hdb (Prod.eta (createTables.run desk)).symm
  have hmade : made = db := by
    have hdone : ∀ c ∈ done, c.result? db = some db := fun c hm => hc c (hpre.subset hm)
    clear hpre hcontent
    -- every command finds what it would make, so the database stays the same through all of them
    induction done with
    | nil => exact (Option.some.inj hfold).symm
    | cons c done ih =>
      rw [List.foldlM_cons, hdone c List.mem_cons_self] at hfold
      exact ih hfold fun c' hm => hdone c' (List.mem_cons_of_mem _ hm)
  subst hmade
  exact hcontent.elim (·.trans hs.symm) And.right

/-- A database with three empty tables and both indexes. -/
def newDatabase : Database :=
  ⟨.table [], .table [], .table [], [rangeIndex, "idx_blocks_cidr"], [], none⟩

/-- A new database gets three empty tables and two indexes. -/
theorem createTables_empty (hd : desk.draft = none) (hdb : desk.readable? = some .empty)
    (h : createTables.run desk = (.ok (), after)) :
    after.sheet.content = .database newDatabase := by
  obtain ⟨-, done, made, -, hall, hfold, hcontent⟩ := all_outcome isSingle_creation hd hdb h
  obtain rfl := hall.1 rfl
  have hmade : creation.foldlM Command.result? .empty = some newDatabase := by
    decide +kernel
  obtain rfl := Option.some.inj (hfold.symm.trans hmade)
  obtain hcontent | ⟨hsame, -⟩ := hcontent
  · exact hcontent
  · cases hsame

/-! ## Looking for tables -/

/-- A look for tables changes nothing. -/
theorem firstMissing_sheet (tables : List Table) (desk : Desk) :
    ((firstMissing tables).run desk).2.sheet = desk.sheet ∧
      ((firstMissing tables).run desk).2.draft = desk.draft := by
  induction tables generalizing desk with
  | nil => exact ⟨rfl, rfl⟩
  | cons table tables ih =>
    obtain ⟨-, hs, hd⟩ := Desk.hasTable_cases table desk
    unfold firstMissing
    simp only [run]
    match (desk.hasTable table).1 with
    | .error cause => exact ⟨hs, hd⟩
    | .ok false => exact ⟨hs, hd⟩
    | .ok true =>
      obtain ⟨hs', hd'⟩ := ih (desk.hasTable table).2
      exact ⟨hs'.trans hs, hd'.trans hd⟩

end Script

end Gazetteer.Store
