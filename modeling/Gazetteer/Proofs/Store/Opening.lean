/-
Gazetteer.Proofs.Store.Opening — stores that have been opened on a file.

A store stands on a file if its pool serves the file and its remembered numbers
are those of their addresses. Every store that has been opened does, and stays so
whatever it does itself and whatever others do to the file. Opening a database
that has its tables, and indexes if they are to be made, leaves it as it is;
a new one has three empty tables and both indexes.
-/
import Gazetteer.Proofs.Store.Filling
import Gazetteer.Proofs.Store.Relational

namespace Gazetteer.Store

open Gazetteer.Database

variable {path : Path} {number : Nat} {file later : File} {s after : Relational} {w : World}
  {text : String} {options : Options}

/-- A store on the file of a path. -/
structure Relational.StandsOn (s : Relational) (path : Path) (number : Nat) (file : File) :
    Prop where
  serves : s.pool.ServesFile path number file
  truthful : Desk.IsTruthful s.encodings

theorem Script.isTidy_firstMissing (tables : List Table) :
    (Script.firstMissing tables).IsTidy :=
  fun desk hd => (Script.firstMissing_sheet tables desk).2.trans hd

namespace Relational

theorem StandsOn.follow (h : s.StandsOn path number file) (hf : file.Follows later) :
    s.StandsOn path number later :=
  ⟨h.serves.follow hf, h.truthful⟩

theorem StandsOn.leaves {w1 : World} (h : s.StandsOn path number file)
    (hl : s.Leaves path number file later after w1) : after.StandsOn path number later :=
  ⟨hl.serves, hl.truthful h.truthful⟩

/-- A store that is gone has left nothing behind. -/
theorem close_stands (h : s.StandsOn path number file) (w : World) : (s.close w).2 = w :=
  World.closeAll_free h.serves.idle w

theorem prepare_ok (h : prepare text options = .ok s) :
    s.pool = .new text options.limits ∧ s.persists = options.persists ∧
      Desk.IsTruthful s.encodings := by
  unfold prepare at h
  split at h
  · cases h
  · split at h
    · cases h
    · rcases hcreate : (RecencyCache.create options.encodingCacheSize :
          Except ConfigError (RecencyCache String Address.V4)) with cause | encodings
      · rw [hcreate] at h
        cases h
      · rw [hcreate] at h
        obtain rfl := Except.ok.inj h
        exact ⟨rfl, rfl, RecencyCache.every_of_create hcreate⟩

theorem stands_prepared (h : prepare text options = .ok s) (hl : Locator.Leads text path) :
    s.StandsOn path number file := by
  obtain ⟨hpool, -, htruth⟩ := prepare_ok h
  exact ⟨hpool ▸ Pool.servesFile_new options.limits hl, htruth⟩

/-! ## Opening -/

/-- What has become of a file after an attempt to open a store on it. -/
def Opened (options : Options) (path : Path) (number : Nat) (file : File)
    (opened : Except ConfigError Relational × World) : Prop :=
  ∃ later, file.Follows later ∧ opened.2.disk.Houses path number later ∧
    later.content = file.content ∧
    ∀ s, opened.1 = .ok s → s.StandsOn path number later ∧ s.persists = options.persists

theorem Opened.of_error {cause : ConfigError} {taken : World}
    (hl : s.Leaves path number file later after taken) (hc : later.content = file.content) :
    Opened options path number file (.error cause, taken.closeAll after.pool.idle) := by
  rw [World.closeAll_free hl.serves.idle]
  exact ⟨later, hl.follows, hl.houses, hc, by simp⟩

theorem Opened.of_ok {taken : World} (hs : s.StandsOn path number file)
    (hp : s.persists = options.persists) (hl : s.Leaves path number file later after taken)
    (hc : later.content = file.content) :
    Opened options path number file (.ok after, taken) := by
  refine ⟨later, hl.follows, hl.houses, hc, ?_⟩
  intro opened ho
  obtain rfl := Except.ok.inj ho
  exact ⟨hs.leaves hl, hl.persists.trans hp⟩

/-- An operation whose script changes nothing leaves the file with its content. -/
theorem Performs.content_eq {α : Type} {script : Script (Except StoreError α)}
    {taken : Except StoreError α × Relational × World}
    (h : s.Performs w path number file script taken)
    (hq : ∀ desk : Desk, desk.Opens s w file → desk.access.mayRead = true →
      (script.run desk).2.sheet.content = desk.sheet.content) :
    ∃ later, s.Leaves path number file later taken.2.1 taken.2.2 ∧
      later.content = file.content := by
  obtain ⟨later, hleaves, hrun⟩ := h
  refine ⟨later, hleaves, ?_⟩
  cases hopening : s.opening? w with
  | none =>
    rw [hopening] at hrun
    exact hrun.2
  | some desk =>
    rw [hopening] at hrun
    obtain ⟨hopens, -, hcontent⟩ := hrun
    rw [hcontent]
    split
    · next hm => rw [hq desk hopens hm, hopens.content hm]
    · rfl

/-- Opening an existing database leaves it as it is. -/
theorem openExisting_house (hl : Locator.Leads text path) (hw : w.disk.Houses path number file)
    (options : Options) :
    Opened options path number file (openExisting w text options) := by
  unfold openExisting
  cases hprepare : prepare text options with
  | error cause => exact ⟨file, .refl file, hw, rfl, by simp⟩
  | ok s =>
    have hs : s.StandsOn path number file := stands_prepared hprepare hl
    obtain ⟨later, hleaves, hcontent⟩ := (perform_performs (fun _ => false) hs.serves hw
      (Script.isTidy_firstMissing [.saved, .blocks, .places])).content_eq
        fun desk _ _ => by rw [(Script.firstMissing_sheet _ desk).1]
    simp only [performAndKeep]
    split
    · next hperform =>
      rw [hperform] at hleaves
      exact .of_error hleaves hcontent
    · next hperform =>
      rw [hperform] at hleaves
      exact .of_error hleaves hcontent
    · next hperform =>
      rw [hperform] at hleaves
      exact .of_ok hs (prepare_ok hprepare).2.1 hleaves hcontent

/-- So does opening one with all tables and indexes to make those that it lacks. -/
theorem create_complete {db : Database} (hl : Locator.Leads text path)
    (hw : w.disk.Houses path number file) (hdb : file.content = .database db)
    (hc : Script.IsComplete db) (options : Options) :
    Opened options path number file (create w text options) := by
  unfold create
  cases hprepare : prepare text options with
  | error cause => exact ⟨file, .refl file, hw, rfl, by simp⟩
  | ok s =>
    have hs : s.StandsOn path number file := stands_prepared hprepare hl
    obtain ⟨later, hleaves, hcontent⟩ := (perform_performs (fun _ => false) hs.serves hw
      (Script.isTidy_all Script.isSingle_creation)).content_eq fun desk hopens hm => by
        have hsheet := (hopens.content hm).trans hdb
        refine Script.createTables_complete hopens.draft ?_ hsheet hc
        unfold Desk.readable?
        rw [if_pos hm, hsheet]
        rfl
    simp only [createTables, performAndKeep, Script.createTables_eq]
    split
    · next hperform =>
      rw [hperform] at hleaves
      exact .of_error hleaves hcontent
    · next hperform =>
      rw [hperform] at hleaves
      exact .of_ok hs (prepare_ok hprepare).2.1 hleaves hcontent

/-- An operation whose script does one thing or nothing does it to the file. -/
theorem Performs.writes {script : Script (Except StoreError Unit)}
    {effect : Database → Option Database} {taken : Except StoreError Unit × Relational × World}
    (h : s.Performs w path number file script taken) (hw : script.Writes effect) :
    ∃ later, s.Leaves path number file later taken.2.1 taken.2.2 ∧
      ((taken.1 ≠ .ok () ∧ later.content = file.content) ∨
        (taken.1 = .ok () ∧ ∃ db made, file.content.database? = some db ∧
          effect db = some made ∧ later.content.database? = some made)) := by
  obtain ⟨later, hleaves, hrun⟩ := h
  refine ⟨later, hleaves, ?_⟩
  cases hopening : s.opening? w with
  | none =>
    rw [hopening] at hrun
    obtain ⟨⟨cause, hcause⟩, hcontent⟩ := hrun
    exact .inl ⟨by simp [hcause], hcontent⟩
  | some desk =>
    rw [hopening] at hrun
    obtain ⟨hopens, hresult, hcontent⟩ := hrun
    rw [hresult, hcontent]
    obtain ⟨-, ⟨hne, hs⟩ | ⟨hok, db, made, hdb, hmade, hs⟩⟩ := hw desk _ _ hopens.draft rfl
    · refine .inl ⟨hne, ?_⟩
      split
      · next hm => rw [hs, hopens.content hm]
      · rfl
    · rw [if_pos (Desk.mayRead_of_readable? hdb).1]
      exact .inr ⟨hok, db, made, hopens.readable? hdb, hmade, hs⟩

/-! ## Creating -/

/-- There is no database at a path yet: no file, or a blank one, and no log. -/
def IsNew (disk : Disk) (path : Path) : Prop :=
  (disk.numberAt? path = none ∧ disk.numberAt? (Disk.beside path Disk.logEnding) = none) ∨
    ∃ number file, disk.Houses path number file ∧ file.content.isBlank = true

theorem blank_database? {content : Content} (h : content.isBlank = true) :
    content.database? = some .empty := by
  cases content with
  | bytes value => simpa [Content.isBlank, Content.database?] using h
  | database db => cases h

/-- An operation that succeeds as the first on a new database has worked on a blank file. -/
theorem performs_new {α : Type} {script : Script (Except StoreError α)} {closes : α → Bool}
    {limits : Pool.Limits} {value : α} {taken : World} (hp : s.pool = .new text limits)
    (hl : Locator.Leads text path) (hn : IsNew w.disk path) (ht : script.IsTidy)
    (h : s.perform w script closes = (.ok value, after, taken)) :
    ∃ number file, file.content.database? = some .empty ∧
      s.Performs w path number file script (.ok value, after, taken) := by
  obtain ⟨hmissing, hlog⟩ | ⟨number, file, hw, hblank⟩ := hn
  · rcases hacquire : w.acquire s.pool with ⟨acquired, pool, w1⟩
    cases acquired with
    | error cause =>
      unfold perform at h
      rw [hacquire] at h
      cases (Prod.mk.inj h).1
    | ok slot =>
      obtain ⟨number, hhouses, hserves, hfree, hfaults⟩ :=
        World.acquire_missing hmissing hlog (hp ▸ hl) (by rw [hp]; rfl) hacquire
      have hperforms := perform_acquired closes hacquire hhouses hserves hfree hfaults ht
      exact ⟨number, _, blank_database? (by decide), h ▸ hperforms⟩
  · have hserves : s.pool.ServesFile path number file := hp ▸ Pool.servesFile_new limits hl
    exact ⟨number, file, blank_database? hblank, h ▸ perform_performs closes hserves hw ht⟩

/-- A store that is created on a new database finds three empty tables there. -/
theorem create_new (hl : Locator.Leads text path) (hn : IsNew w.disk path) {taken : World}
    (h : create w text options = (.ok s, taken)) :
    ∃ number later, taken.disk.Houses path number later ∧
      later.content = .database Script.newDatabase ∧ s.StandsOn path number later ∧
      s.persists = options.persists := by
  unfold create at h
  cases hprepare : prepare text options with
  | error cause =>
    rw [hprepare] at h
    cases (Prod.mk.inj h).1
  | ok prepared =>
    obtain ⟨hpool, hpersists, htruth⟩ := prepare_ok hprepare
    simp only [hprepare, createTables, performAndKeep, Script.createTables_eq] at h
    split at h
    · cases (Prod.mk.inj h).1
    · next hperform =>
      obtain ⟨hs, rfl⟩ := Prod.mk.inj h
      obtain rfl := Except.ok.inj hs
      obtain ⟨number, file, hempty, later, hleaves, hrun⟩ :=
        performs_new hpool hl hn (Script.isTidy_all Script.isSingle_creation) hperform
      refine ⟨number, later, hleaves.houses, ?_, ⟨hleaves.serves, hleaves.truthful htruth⟩,
        hleaves.persists.trans hpersists⟩
      cases hopening : prepared.opening? w with
      | none =>
        rw [hopening] at hrun
        obtain ⟨⟨cause, hcause⟩, -⟩ := hrun
        cases hcause
      | some desk =>
        rw [hopening] at hrun
        obtain ⟨hopens, hresult, hcontent⟩ := hrun
        have hall : (Script.all Script.creation).run desk =
            (.ok (), ((Script.all Script.creation).run desk).2) := Prod.ext hresult.symm rfl
        obtain ⟨db, hdb⟩ := Script.readable?_of_all (c := .createTable .saved) trivial
          hopens.draft hall
        obtain rfl : db = .empty := Option.some.inj ((hopens.readable? hdb).symm.trans hempty)
        rw [hcontent, if_pos (Desk.mayRead_of_readable? hdb).1]
        exact Script.createTables_empty hopens.draft hdb hall

end Relational

end Gazetteer.Store
