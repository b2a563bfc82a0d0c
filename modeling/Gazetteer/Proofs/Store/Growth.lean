/-
Gazetteer.Proofs.Store.Growth — the table of saved answers only grows.

Of all commands one alone changes the table of saved answers, a commit, and it puts
rows behind those that are there. So whatever script a connection has been given,
whatever its transaction holds and whatever goes wrong, each statement leaves every
saved row in its place; and so do whole conversations, operations and openings. The
first row of an address stays its first, and it is what a lookup that persists reads.
-/
import Gazetteer.Proofs.Store.Report

namespace Gazetteer

open Gazetteer.Database

/-! ## Tables that grow -/

/-- The rows of saved answers, if there is a table of them. -/
def Content.saved? (content : Content) : Option (List Saved) :=
  content.database?.bind (·.saved.rows?)

/-- A table of saved answers stays one, with more rows at its end or with the same. -/
def Content.Grows (before after : Content) : Prop :=
  ∀ rows, before.saved? = some rows → ∃ more, after.saved? = some more ∧ rows <+: more

/-- The row is the first of an address text in the table of saved answers. The address is the key of
that table, so there is no second one. -/
def Content.Holds (content : Content) (address : String) (row : Saved) : Prop :=
  ∃ rows, content.saved? = some rows ∧
    rows.find? (fun row => decide (row.address = .text address)) = some row

namespace Content

variable {before mid after : Content} {db now : Database} {address : String} {row : Saved}

theorem Grows.refl (content : Content) : content.Grows content :=
  fun rows h => ⟨rows, h, List.prefix_refl rows⟩

theorem Grows.of_eq (h : after = before) : before.Grows after := h ▸ .refl before

theorem Grows.trans (h1 : before.Grows mid) (h2 : mid.Grows after) : before.Grows after := by
  intro rows hrows
  obtain ⟨more, hmore, hprefix⟩ := h1 rows hrows
  obtain ⟨most, hmost, hprefix'⟩ := h2 more hmore
  exact ⟨most, hmost, hprefix.trans hprefix'⟩

/-- A content that is written as another database has grown if the table of that has. -/
theorem Grows.of_database (hdb : before.database? = some db)
    (h : ∀ rows, db.saved = .table rows → ∃ more, now.saved = .table more ∧ rows <+: more) :
    before.Grows (.database now) := by
  intro rows hrows
  have hslot : db.saved = .table rows := by
    simp only [saved?, hdb, Option.bind_some] at hrows
    cases hs : db.saved <;> simp_all [Slot.rows?]
  obtain ⟨more, hmore, hprefix⟩ := h rows hslot
  exact ⟨more, by simp [saved?, database?, hmore, Slot.rows?], hprefix⟩

/-- Rows at the end do not come between a row and its address. -/
theorem Holds.grow (h : before.Holds address row) (hg : before.Grows after) :
    after.Holds address row := by
  obtain ⟨rows, hrows, hfind⟩ := h
  obtain ⟨_, hmore, rest, rfl⟩ := hg rows hrows
  exact ⟨_, hmore, by rw [List.find?_append, hfind, Option.some_or]⟩

end Content

/-- A table of which nothing is read for an address has no row of it; the next one is its first. -/
theorem Content.Gains.holds {before after : Content} {db : Database} {location : Location}
    (h : before.Gains (.ofLocation location) after) (hdb : before.database? = some db)
    (hnone : db.ask (.saved location.address) = .ok none) :
    after.Holds location.address (.ofLocation location) := by
  obtain ⟨now, rows, hnow, hrows, hafter⟩ := h
  obtain rfl : db = now := Option.some.inj (hdb.symm.trans hnow)
  refine ⟨rows ++ [.ofLocation location], by rw [hafter]; rfl, ?_⟩
  simp only [ask, hrows, Slot.rows?] at hnone
  cases hfind : rows.find? fun row => decide (row.address = .text location.address) with
  | none => simp [List.find?_append, hfind, Saved.ofLocation]
  | some row =>
    rw [hfind] at hnone
    dsimp only at hnone
    split at hnone <;> cases hnone

/-- Whatever a transaction has written, a row that the table holds is read. -/
theorem Database.ask_saved_held {db : Database} {address : String} {row : Saved}
    (h : (Content.database db).Holds address row) (draft : Option Draft) :
    (draft.elim db db.withDraft).ask (.saved address) =
      match Names.read? row.country row.region with
      | none => .error .query
      | some names => .ok (some names) := by
  have hgrows : (Content.database db).Grows (.database (draft.elim db db.withDraft)) := by
    cases draft with
    | none => exact .refl _
    | some draft =>
      refine .of_database rfl fun rows hrows => ?_
      exact ⟨_, by simp [withDraft, hrows, Slot.append]; rfl, List.prefix_append _ _⟩
  obtain ⟨rows, hrows, hfind⟩ := h.grow hgrows
  have hrows : (draft.elim db db.withDraft).saved.rows? = some rows := hrows
  cases hnames : Names.read? row.country row.region with
  | none => simp only [ask, hrows, hfind, hnames]
  | some names => simp only [ask, hrows, hfind, hnames]

/-! ## Texts of cells -/

/-- The text that a cell stands for: the empty one for null. Numbers and bytes stand for none. -/
inductive Database.Cell.Says : Cell → String → Prop where
  | null : Cell.null.Says ""
  | text (value : String) : (Cell.text value).Says value

theorem Database.Cell.read?_eq_some_iff {cell : Cell} {value : String} :
    cell.read? = some value ↔ cell.Says value := by
  constructor
  · intro h
    cases cell with
    | null => exact Option.some.inj h ▸ .null
    | text other => exact Option.some.inj h ▸ .text other
    | integer n => cases h
    | real x => cases h
    | bytes bs => cases h
  · rintro (_ | _)
    · rfl
    · rfl

theorem Database.Names.read?_eq_some_iff {country region : Cell} {names : Names} :
    Names.read? country region = some names ↔
      country.Says names.country ∧ region.Says names.region := by
  simp only [← Cell.read?_eq_some_iff, Names.read?]
  obtain ⟨first, second⟩ := names
  cases country.read? with
  | none => simp
  | some value =>
    cases region.read? with
    | none => simp
    | some other => simp

namespace Store

open Content (Grows Holds)

variable {α : Type} {desk : Desk} {db : Database} {draft : Draft} {path : Path} {number : Nat}
  {file : File} {s : Relational} {w : World} {address : String} {row : Saved}

/-! ## One statement -/

namespace Desk

/-- A row of an answer waits in the transaction. -/
theorem content_addSaved (location : Location) (db : Database) (draft : Draft) (desk : Desk) :
    (desk.addSaved location db draft).2.sheet.content = desk.sheet.content := by
  unfold addSaved
  repeat' split
  all_goals rfl

theorem content_addBlock (row : Address.BlockRow) (db : Database) (draft : Draft) (desk : Desk) :
    (desk.addBlock row db draft).2.sheet.content = desk.sheet.content := by
  unfold addBlock
  split <;> rfl

theorem grows_change {now : Database} (table : Table)
    (h : desk.sheet.content.Grows (.database now)) :
    desk.sheet.content.Grows (desk.change table now).2.sheet.content := by
  unfold change
  split
  · exact .refl _
  · split
    · exact h
    · exact .refl _

/-- A commit puts its rows behind those that are there. -/
theorem grows_commit (hdb : desk.sheet.content.database? = some db) :
    desk.sheet.content.Grows (desk.commit db draft).2.sheet.content := by
  unfold commit
  split
  · exact .refl _
  · dsimp only
    rw [(endTransaction_sheet _).2.1]
    split
    · exact .refl _
    · refine .of_database hdb fun rows hrows => ?_
      exact ⟨_, by simp [withDraft, hrows, Slot.append]; rfl, List.prefix_append _ _⟩

theorem grows_perform (c : Command) (hdb : desk.sheet.content.database? = some db) :
    desk.sheet.content.Grows (desk.perform c db).2.sheet.content := by
  have hsame {now : Database} (h : now.saved = db.saved) :
      desk.sheet.content.Grows (.database now) :=
    .of_database hdb fun rows hrows => ⟨rows, h.trans hrows, List.prefix_refl rows⟩
  unfold perform
  split
  · split
    · exact .of_eq (content_addSaved _ _ _ desk)
    · exact .refl _
  · split
    · exact .of_eq (content_addBlock _ _ _ desk)
    · exact .refl _
  · exact grows_commit hdb
  · split
    · exact .refl _
    · split
      · exact .refl _
      · exact .refl _
  · split
    · exact .refl _
    · exact grows_change _ (hsame rfl)
  · next table _ =>
    split
    · exact .refl _
    · next hlacks =>
      refine grows_change _ (.of_database hdb fun rows hrows => ?_)
      cases table with
      | saved =>
        -- a table of saved answers is made only where there is none
        simp [lacks, hrows, Slot.isAbsent] at hlacks
      | places => exact ⟨rows, hrows, List.prefix_refl rows⟩
      | blocks => exact ⟨rows, hrows, List.prefix_refl rows⟩
  · split
    · exact .refl _
    · split
      · exact .refl _
      · split
        · exact .refl _
        · exact grows_change _ (hsame rfl)
  · exact .refl _

theorem grows_execute (c : Command) (desk : Desk) :
    desk.sheet.content.Grows (desk.execute c).2.sheet.content := by
  by_cases h1 : c = .rollback
  · subst h1
    exact .of_eq (endTransaction_sheet desk).2.1
  · by_cases h2 : c = .begin
    · subst h2
      simp only [execute, draw_eq]
      split <;> exact .refl _
    · obtain ⟨-, hs, -⟩ | ⟨db, hdb, hp⟩ := execute_cases ⟨h1, h2⟩ (Prod.eta (desk.execute c)).symm
      · exact .of_eq (congrArg Sheet.content hs)
      · have hgrows :
            desk.arrived.sheet.content.Grows (desk.arrived.perform c db).2.sheet.content :=
          grows_perform c (mayRead_of_readable? hdb).2
        rw [hp] at hgrows
        exact hgrows

/-- A question for the answer that is held finds it, or comes to nothing. -/
theorem ask_held (h : desk.access.mayRead = true → desk.sheet.content.Holds address row) :
    (desk.ask (.saved address)).1 = .error .query ∨
      ∃ names, row.country.Says names.country ∧ row.region.Says names.region ∧
        (desk.ask (.saved address)).1 = .ok (some names) := by
  obtain ⟨-, -, -, herror | ⟨db, hdb, hanswer⟩⟩ :=
    ask_cases (Prod.eta (desk.ask (.saved address))).symm
  · exact .inl herror
  · have hholds : (Content.database db).Holds address row := by
      obtain ⟨hm, hcontent⟩ := mayRead_of_readable? hdb
      obtain ⟨rows, hrows, hfind⟩ := h hm
      rw [Content.saved?, hcontent] at hrows
      exact ⟨rows, hrows, hfind⟩
    rw [hanswer, ask_saved_held hholds]
    cases hnames : Names.read? row.country row.region with
    | none => exact .inl rfl
    | some names =>
      obtain ⟨hcountry, hregion⟩ := Names.read?_eq_some_iff.1 hnames
      exact .inr ⟨names, hcountry, hregion, rfl⟩

end Desk

/-! ## Conversations -/

namespace Script

theorem grows_step (script : Script α) (desk : Desk) :
    desk.sheet.content.Grows (script.step desk).2.sheet.content := by
  cases script with
  | done result => exact .refl _
  | tell notice next => exact .refl _
  | encode address next => exact .of_eq (congrArg Sheet.content (desk.encode_sheet address))
  | ask query next => exact .of_eq (congrArg Sheet.content (Desk.ask_cases rfl).1)
  | hasTable table next =>
    exact .of_eq (congrArg Sheet.content (Desk.hasTable_cases table desk).2.1)
  | execute command next => exact desk.grows_execute command

theorem grows_run (script : Script α) (desk : Desk) :
    desk.sheet.content.Grows (script.run desk).2.sheet.content := by
  induction script generalizing desk with
  | done result => exact .refl _
  | tell notice next ih => exact (grows_step (.tell notice next) desk).trans (ih _)
  | encode address next ih => exact (grows_step (.encode address next) desk).trans (ih _ _)
  | ask query next ih => exact (grows_step (.ask query next) desk).trans (ih _ _)
  | hasTable table next ih => exact (grows_step (.hasTable table next) desk).trans (ih _ _)
  | execute command next ih => exact (grows_step (.execute command next) desk).trans (ih _ _)

/-- A lookup that persists ends with its first question if that finds the answer that is held, or
comes to nothing. -/
theorem lookup_held (h : desk.access.mayRead = true → desk.sheet.content.Holds address row) :
    ((lookup true address).run desk).1 =
        (desk.ask (.saved address)).1.map (·.map fun names => ⟨names.location address, .loaded⟩) ∧
      ((lookup true address).run desk).2 = (desk.ask (.saved address)).2 := by
  rw [lookup_true, run_bind, run_query]
  obtain hanswer | ⟨names, -, -, hanswer⟩ := Desk.ask_held h
  · rw [hanswer]
    exact ⟨rfl, rfl⟩
  · rw [hanswer]
    exact ⟨rfl, rfl⟩

end Script

/-! ## Operations -/

namespace Relational

theorem Performs.grows {script : Script (Except StoreError α)}
    {taken : Except StoreError α × Relational × World}
    (h : s.Performs w path number file script taken) :
    ∃ later, s.Leaves path number file later taken.2.1 taken.2.2 ∧
      file.content.Grows later.content := by
  obtain ⟨later, hleaves, hrun⟩ := h
  refine ⟨later, hleaves, ?_⟩
  cases hopening : s.opening? w with
  | none =>
    rw [hopening] at hrun
    exact .of_eq hrun.2
  | some desk =>
    rw [hopening] at hrun
    obtain ⟨hopens, -, hcontent⟩ := hrun
    rw [hcontent]
    split
    · next hm => exact hopens.content hm ▸ Script.grows_run script desk
    · exact .refl _

/-- Whatever a store is asked to do, the table of saved answers keeps its rows. -/
theorem operate_grows (operation : Operation) (hs : s.pool.ServesFile path number file)
    (hw : w.disk.Houses path number file) :
    ∃ later, s.Leaves path number file later (s.operate w operation).2.1
        (s.operate w operation).2.2 ∧ file.content.Grows later.content := by
  cases hscript : operation.script s.persists with
  | error cause =>
    rw [(operate_error w hscript).1]
    exact ⟨file, ⟨.refl file, hw, hs, rfl, id⟩, .refl _⟩
  | ok script =>
    obtain ⟨n, hn⟩ := operation.settles hscript
    have htidy : script.IsTidy := fun desk hd => (hn.run_outside hd).1
    obtain ⟨told, -, hoperate⟩ := operate_eq w hscript
    obtain ⟨later, hleaves, hgrows⟩ := (perform_performs Answer.closes hs hw htidy).grows
    rw [hoperate]
    exact ⟨later, ⟨hleaves.follows, hleaves.houses, hleaves.serves, hleaves.persists,
      hleaves.truthful⟩, hgrows⟩

end Relational

end Store

end Gazetteer
