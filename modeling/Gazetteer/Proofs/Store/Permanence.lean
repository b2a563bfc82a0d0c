/-
Gazetteer.Proofs.Store.Permanence — an answer that has been saved is given for good.

Stores come and go on one file. They make tables, write places and blocks and resolve
what they are asked, with persistence or without; connections are in the middle of
anything; locks, triggers and faults of all kinds come in between. As long as nobody
else takes saved answers away, a row stays the answer for its address text, whatever
kind of text that is and whatever the blocks say by then. A store that persists gives
it wherever it can read it, and has nothing to remark.
-/
import Gazetteer.Proofs.Pool.Rest
import Gazetteer.Proofs.Store.Effect
import Gazetteer.Proofs.Store.Growth
import Gazetteer.Proofs.Store.Transparency
import Mathlib.Logic.Relation

namespace Gazetteer.Store

open Gazetteer.Database

variable {α : Type} {path : Path} {number : Nat} {file later : File} {s : Relational} {w : World}
  {address : String} {row : Saved}

namespace Relational

/-! ## Reading a row that is held -/

/-- The notices of a script are handed on. -/
theorem talk_notices (s : Relational) (w : World) (slot : Pool.Slot) (script : Script α)
    (lost : α) :
    (s.talk w slot script lost).2.2.2.notices = w.notices ++
      (s.desk? w slot.connection.draft (w.disk.approach slot.connection.handle)).elim []
        fun desk => (script.run desk).2.notices := by
  unfold talk
  dsimp only
  cases s.desk? w slot.connection.draft (w.disk.approach slot.connection.handle) with
  | none => exact (List.append_nil _).symm
  | some desk => rfl

/-- The pool adds none to them, for the connection comes back outside any transaction. -/
theorem perform_notices {script : Script (Except StoreError α)} (closes : α → Bool)
    (hs : s.pool.ServesFile path number file) (hw : w.disk.Houses path number file)
    (ht : script.IsTidy) :
    (s.perform w script closes).2.2.notices =
      w.notices ++ (s.opening? w).elim [] fun desk => (script.run desk).2.notices := by
  have hacquires := World.acquires hw hs
  unfold perform opening?
  rcases hacquire : w.acquire s.pool with ⟨taken, pool, w1⟩
  rw [hacquire] at hacquires
  obtain ⟨hdisk, -, hnotices, -, hslot⟩ := hacquires
  dsimp only at hdisk hnotices hslot
  cases taken with
  | error cause =>
    show w1.notices = w.notices ++ []
    rw [hnotices, List.append_nil]
  | ok slot =>
    have hhouses : w1.disk.Houses path number file := hdisk ▸ hw
    obtain ⟨-, later, -, -, -, -, hfree, -⟩ :=
      talk_free { s with pool } hhouses (hslot slot rfl) ht (.error .query)
    have hnotices2 := talk_notices { s with pool } w1 slot script (.error .query)
    rw [hnotices] at hnotices2
    rcases htalk : Relational.talk { s with pool } w1 slot script (.error .query)
      with ⟨result, parted, after, w2⟩
    rw [htalk] at hfree hnotices2
    dsimp only at hfree hnotices2
    simp only [htalk]
    have houtside : parted.connection.isInTransaction = false := by
      simp only [Connection.isInTransaction, hfree.draft, Option.isSome_none]
    have hpart (isClosed : Bool) :
        (if isClosed then w2.discard after.pool parted
          else w2.release after.pool parted).2.notices = w2.notices := by
      cases isClosed with
      | true => rfl
      | false =>
        show (w2.release after.pool parted).2.notices = w2.notices
        rw [World.release_notices, Pool.release_notices houtside, List.append_nil]
    cases result with
    | error cause => exact (hpart false).trans hnotices2
    | ok value => exact (hpart (closes value)).trans hnotices2

/-- A resolution that answers hands on the notices of its lookup. -/
theorem resolve_notices {resolved : Resolved} (hs : s.pool.ServesFile path number file)
    (hw : w.disk.Houses path number file) (h : (s.resolve w address).1 = some resolved) :
    (s.resolve w address).2.2.notices = w.notices ++ (s.opening? w).elim []
      fun desk => ((Script.lookup s.persists address).run desk).2.notices := by
  rw [← perform_notices (fun found : Option Resolved => found.any (·.writeBack.isFailed)) hs hw
    (isTidy_lookup s.persists address)]
  unfold resolve at *
  split at h
  · next hperform => simp only [hperform]
  · cases h
  · cases h

/-- The next resolution of an address text gets a connection, and its question for the saved
answer is answered. -/
def readsSaved (s : Relational) (w : World) (address : String) : Bool :=
  (s.opening? w).any fun desk => (desk.ask (.saved address)).1.isOk

/-- A store that persists gives the country and the region that a row stands for to its address text,
without a remark, if it can read the row, and nothing if it cannot. -/
structure Gives (s : Relational) (w : World) (address : String) (row : Saved) : Prop where
  reads : s.readsSaved w address = true →
    ∃ country region, row.country.Says country ∧ row.region.Says region ∧
      (s.resolve w address).1 = some ⟨⟨country, region, address⟩, .loaded⟩ ∧
      (s.resolve w address).2.2.notices = w.notices
  fails : s.readsSaved w address = false → (s.resolve w address).1 = none

theorem opening_notices {desk : Desk} (h : s.opening? w = some desk) : desk.notices = [] := by
  unfold opening? at h
  split at h
  · cases h
  · obtain ⟨sheet, -, rfl⟩ := Option.map_eq_some_iff.1 h
    rfl

theorem gives_held (hp : s.persists = true) (hs : s.pool.ServesFile path number file)
    (hw : w.disk.Houses path number file) (hh : file.content.Holds address row) :
    s.Gives w address row := by
  obtain ⟨later, -, hrun⟩ := resolve_performs address hs hw
  have hquiet (resolved : Resolved) (hanswer : (s.resolve w address).1 = some resolved) :=
    resolve_notices hs hw hanswer
  rw [hp] at hrun hquiet
  cases hopening : s.opening? w with
  | none =>
    rw [hopening] at hrun
    exact ⟨by simp [readsSaved, hopening], fun _ => hrun.1⟩
  | some desk =>
    rw [hopening] at hrun hquiet
    obtain ⟨hopens, hanswer, -⟩ := hrun
    have hheld (hm : desk.access.mayRead = true) : desk.sheet.content.Holds address row :=
      hopens.content hm ▸ hh
    obtain ⟨hlookup, hafter⟩ := Script.lookup_held hheld
    have hreads : s.readsSaved w address = (desk.ask (.saved address)).1.isOk := by
      simp only [readsSaved, hopening, Option.any_some]
    rw [hlookup] at hanswer
    obtain herror | ⟨⟨country, region⟩, hcountry, hregion, hok⟩ := Desk.ask_held hheld
    · rw [herror] at hreads hanswer
      have hreads : s.readsSaved w address = false := hreads
      exact ⟨by simp [hreads], fun _ => hanswer⟩
    · rw [hok] at hreads hanswer
      have hreads : s.readsSaved w address = true := hreads
      refine ⟨fun _ => ⟨country, region, hcountry, hregion, hanswer, ?_⟩, by simp [hreads]⟩
      rw [hquiet _ hanswer]
      simp only [Option.elim_some, hafter, (Desk.ask_frame _ desk).2, opening_notices hopening,
        List.append_nil]

/-! ## Saving -/

/-- An answer that has been saved is held from then on, unless a trigger drops rows unnoticed. -/
theorem persisted_outcome {persists : Bool} {desk after : Desk} {location : Location}
    (ht : ∀ db, desk.readable? = some db → db.trigger ≠ some .ignore)
    (h : Script.LookupOutcome persists address desk after (.ok (some ⟨location, .persisted⟩))) :
    location.address = address ∧
      after.sheet.content.Holds address (.ofLocation location) := by
  generalize hanswer : (Except.ok (some (Resolved.mk location .persisted)) :
    Except StoreError (Option Resolved)) = answer at h
  cases h with
  | nothing hempty hc => exact absurd hanswer.symm (hempty _)
  | loaded he hdb hsaved hc => cases hanswer
  | @located db names writeBack hdb hunsaved hlocate hsave =>
    cases hanswer
    cases persists with
    | false => cases hsave.1
    | true =>
      obtain ⟨-, -, -, ⟨hne, -⟩ | ⟨-, db', hdb', ⟨htrigger, -⟩ | ⟨-, hgains⟩⟩⟩ := hsave
      · exact absurd rfl hne
      · exact absurd htrigger (ht db' hdb')
      · exact ⟨rfl, hgains.holds (Desk.mayRead_of_readable? hdb).2 (hunsaved rfl)⟩

/-- So it is after any resolution with such an answer. -/
theorem resolve_persisted {location : Location} (hs : s.pool.ServesFile path number file)
    (hw : w.disk.Houses path number file)
    (ht : ∀ db, file.content.database? = some db → db.trigger ≠ some .ignore)
    (h : (s.resolve w address).1 = some ⟨location, .persisted⟩) :
    location.address = address ∧
      ∃ later, s.Leaves path number file later (s.resolve w address).2.1
          (s.resolve w address).2.2 ∧
        later.content.Holds address (.ofLocation location) := by
  obtain ⟨later, hleaves, hrun⟩ := resolve_performs address hs hw
  cases hopening : s.opening? w with
  | none =>
    rw [hopening] at hrun
    cases hrun.1.symm.trans h
  | some desk =>
    rw [hopening] at hrun
    obtain ⟨hopens, hanswer, hcontent⟩ := hrun
    have hfound : ((Script.lookup s.persists address).run desk).1 =
        .ok (some ⟨location, .persisted⟩) := by
      rw [hanswer] at h
      rcases hrun : ((Script.lookup s.persists address).run desk).1 with cause | found
      · rw [hrun] at h
        cases h
      · rw [hrun] at h
        exact congrArg Except.ok h
    have houtcome := (Script.lookup_outcome hopens.draft
      (Prod.ext hfound rfl : (Script.lookup s.persists address).run desk = (_, _))).2
    have hread : desk.access.mayRead = true := by
      cases hm : desk.access.mayRead with
      | true => rfl
      | false =>
        have hnone : desk.readable? = none := if_neg (by simp [hm])
        cases unreadable_outcome hnone houtcome
    obtain ⟨haddress, hholds⟩ :=
      persisted_outcome (fun db hdb => ht db (hopens.readable? hdb)) houtcome
    rw [if_pos hread] at hcontent
    exact ⟨haddress, later, hleaves, hcontent ▸ hholds⟩

/-! ## Opening -/

/-- What has become of a file after an attempt to open a store on it: it has the saved answers
that it had, and maybe tables that it had not. -/
def OpenedOver (path : Path) (number : Nat) (file : File)
    (opened : Except ConfigError Relational × World) : Prop :=
  ∃ later, file.Follows later ∧ opened.2.disk.Houses path number later ∧
    file.content.Grows later.content ∧
    ∀ s, opened.1 = .ok s → s.StandsOn path number later

theorem openExisting_over {text : String} (hl : Locator.Leads text path)
    (hw : w.disk.Houses path number file) (options : Options) :
    OpenedOver path number file (openExisting w text options) := by
  obtain ⟨later, hfollows, hhouses, hcontent, hopened⟩ := openExisting_house hl hw options
  exact ⟨later, hfollows, hhouses, .of_eq hcontent, fun s hs => (hopened s hs).1⟩

theorem create_over {text : String} (hl : Locator.Leads text path)
    (hw : w.disk.Houses path number file) (options : Options) :
    OpenedOver path number file (create w text options) := by
  unfold create
  cases hprepare : prepare text options with
  | error cause => exact ⟨file, .refl file, hw, .refl _, by simp⟩
  | ok prepared =>
    have hs : prepared.StandsOn path number file := stands_prepared hprepare hl
    obtain ⟨later, hleaves, hgrows⟩ := (perform_performs (fun _ => false) hs.serves hw
      (Script.isTidy_all Script.isSingle_creation)).grows
    have hstands := hs.leaves hleaves
    simp only [createTables, performAndKeep, Script.createTables_eq]
    split
    · next hperform =>
      rw [hperform] at hleaves hstands
      rw [World.closeAll_free hstands.serves.idle]
      exact ⟨later, hleaves.follows, hleaves.houses, hgrows, by simp⟩
    · next hperform =>
      rw [hperform] at hleaves hstands
      refine ⟨later, hleaves.follows, hleaves.houses, hgrows, ?_⟩
      intro s hs
      exact Except.ok.inj hs ▸ hstands

end Relational

/-! ## A file over time -/

namespace Library

/-- What can happen to the stores on the file of a path, whatever the file holds. What others may
make of its content is a parameter. -/
inductive Change (path : Path) (number : Nat) (others : Content → Content → Prop) :
    Library → Library → Prop where
  /-- A store is opened on the file, or cannot be. -/
  | opened {stores : List Relational} {w w' : World} {text : String} {options : Options}
      {result : Except ConfigError Relational} (leads : Locator.Leads text path)
      (opens : Relational.openExisting w text options = (result, w')) :
      Change path number others ⟨stores, w⟩ ⟨result.toOption.toList ++ stores, w'⟩
  /-- A store is opened that makes the tables which are missing, or cannot be. -/
  | created {stores : List Relational} {w w' : World} {text : String} {options : Options}
      {result : Except ConfigError Relational} (leads : Locator.Leads text path)
      (creates : Relational.create w text options = (result, w')) :
      Change path number others ⟨stores, w⟩ ⟨result.toOption.toList ++ stores, w'⟩
  /-- A store does what it is asked. -/
  | operated {before rest : List Relational} {s : Relational} {w : World}
      (operation : Operation) :
      Change path number others ⟨before ++ s :: rest, w⟩
        ⟨before ++ (s.operate w operation).2.1 :: rest, (s.operate w operation).2.2⟩
  /-- A store is closed. -/
  | closed {before rest : List Relational} {s : Relational} {w : World} :
      Change path number others ⟨before ++ s :: rest, w⟩ ⟨before ++ rest, (s.close w).2⟩
  /-- A connection that is in the middle of something carries out the next statement on what the
  file holds, be it inside a transaction or not. -/
  | spoken {α : Type} {stores : List Relational} {w w' : World} {file later : File} {desk : Desk}
      (script : Script α) (before : w.disk.Houses path number file)
      (after : w'.disk.Houses path number later) (follows : file.Follows later)
      (found : desk.sheet.content = file.content)
      (left : later.content = (script.step desk).2.sheet.content) :
      Change path number others ⟨stores, w⟩ ⟨stores, w'⟩
  /-- Time passes, locks are taken and given up, faults are to come, and others do with the content
  what they may. -/
  | disturbed {stores : List Relational} {w w' : World} {file later : File}
      (before : w.disk.Houses path number file) (after : w'.disk.Houses path number later)
      (follows : file.Follows later) (allowed : others file.content later.content) :
      Change path number others ⟨stores, w⟩ ⟨stores, w'⟩

/-- The library has come of a world in which nothing is open yet, whatever others have done. -/
def IsReached (path : Path) (number : Nat) (library : Library) : Prop :=
  ∃ w file, w.disk.Houses path number file ∧
    Relation.ReflTransGen (Change path number fun _ _ => True) ⟨[], w⟩ library

/-- One library has come of another while others have made triggers, written places, blocks and
saved answers, but have taken no saved answer away. -/
def Later (path : Path) (number : Nat) : Library → Library → Prop :=
  Relation.ReflTransGen (Change path number Content.Grows)

/-- The file stands there, and all stores stand on it. -/
structure StandsOver (library : Library) (path : Path) (number : Nat) (file : File) : Prop where
  houses : library.world.disk.Houses path number file
  stores : ∀ s ∈ library.stores, s.StandsOn path number file

/-- The file holds a row for an address text. -/
def Holds (library : Library) (path : Path) (number : Nat) (address : String) (row : Saved) :
    Prop :=
  ∃ file, library.world.disk.Houses path number file ∧ file.content.Holds address row

variable {others : Content → Content → Prop} {library after : Library}

theorem StandsOver.opened {stores : List Relational} {w w' : World}
    {result : Except ConfigError Relational} (h : StandsOver ⟨stores, w⟩ path number file)
    (ho : Relational.OpenedOver path number file (result, w')) :
    ∃ later, StandsOver ⟨result.toOption.toList ++ stores, w'⟩ path number later ∧
      file.content.Grows later.content := by
  obtain ⟨later, hfollows, hhouses, hgrows, hopened⟩ := ho
  refine ⟨later, ⟨hhouses, fun s hm => ?_⟩, hgrows⟩
  obtain hm | hm := List.mem_append.1 hm
  · refine hopened s ?_
    cases result with
    | error cause => simp [Except.toOption] at hm
    | ok opened => simpa [Except.toOption, eq_comm] using hm
  · exact (h.stores s hm).follow hfollows

theorem StandsOver.leaves {before rest : List Relational} {changed : Relational} {w' : World}
    (h : StandsOver ⟨before ++ s :: rest, w⟩ path number file)
    (hl : s.Leaves path number file later changed w') :
    StandsOver ⟨before ++ changed :: rest, w'⟩ path number later := by
  refine ⟨hl.houses, fun t hm => ?_⟩
  obtain hm | hm := List.mem_append.1 hm
  · exact (h.stores t (List.mem_append_left _ hm)).follow hl.follows
  · obtain rfl | hm := List.mem_cons.1 hm
    · exact (h.stores s (by simp)).leaves hl
    · exact (h.stores t (by simp [hm])).follow hl.follows

/-- All stores stand on what has become of the file. Unless it is the work of others, the table of
saved answers has its rows. -/
theorem Change.grows (hc : Change path number others library after)
    (h : library.StandsOver path number file) :
    ∃ later, after.StandsOver path number later ∧
      (file.content.Grows later.content ∨ others file.content later.content) := by
  cases hc with
  | opened leads opens =>
    obtain ⟨later, hstands, hgrows⟩ :=
      h.opened (opens ▸ Relational.openExisting_over leads h.houses _)
    exact ⟨later, hstands, .inl hgrows⟩
  | created leads creates =>
    obtain ⟨later, hstands, hgrows⟩ :=
      h.opened (creates ▸ Relational.create_over leads h.houses _)
    exact ⟨later, hstands, .inl hgrows⟩
  | @operated before rest s w operation =>
    obtain ⟨later, hleaves, hgrows⟩ :=
      Relational.operate_grows operation (h.stores s (by simp)).serves h.houses
    exact ⟨later, h.leaves hleaves, .inl hgrows⟩
  | @closed before rest s w =>
    rw [Relational.close_stands (h.stores s (by simp)) w]
    refine ⟨file, ⟨h.houses, fun t hm => h.stores t ?_⟩, .inl (.refl _)⟩
    obtain hm | hm := List.mem_append.1 hm
    · exact List.mem_append_left _ hm
    · exact List.mem_append_right _ (List.mem_cons_of_mem _ hm)
  | spoken script before after follows found left =>
    obtain rfl := Option.some.inj (before.isFile.symm.trans h.houses.isFile)
    refine ⟨_, ⟨after, fun s hm => (h.stores s hm).follow follows⟩, .inl ?_⟩
    rw [left, ← found]
    exact Script.grows_step script _
  | disturbed before after follows allowed =>
    obtain rfl := Option.some.inj (before.isFile.symm.trans h.houses.isFile)
    exact ⟨_, ⟨after, fun s hm => (h.stores s hm).follow follows⟩, .inr allowed⟩

theorem IsReached.stands (h : IsReached path number library) :
    ∃ file, library.StandsOver path number file := by
  obtain ⟨w, file, hhouses, hreached⟩ := h
  induction hreached with
  | refl => exact ⟨file, hhouses, by simp⟩
  | tail _ hc ih =>
    obtain ⟨mid, hmid⟩ := ih
    obtain ⟨later, hlater, -⟩ := hc.grows hmid
    exact ⟨later, hlater⟩

theorem Later.grows (hl : Later path number library after)
    (h : library.StandsOver path number file) :
    ∃ later, after.StandsOver path number later ∧ file.content.Grows later.content := by
  induction hl with
  | refl => exact ⟨file, h, .refl _⟩
  | tail _ hc ih =>
    obtain ⟨mid, hmid, hgrows⟩ := ih
    obtain ⟨later, hlater, hgrows'⟩ := hc.grows hmid
    exact ⟨later, hlater, hgrows.trans (hgrows'.elim id id)⟩

/-- What a file holds it holds later, and all stores that persist give it. -/
theorem StandsOver.gives (h : library.StandsOver path number file)
    (hh : file.content.Holds address row) (hl : Later path number library after) :
    after.Holds path number address row ∧
      ∀ s ∈ after.stores, s.persists = true → s.Gives after.world address row := by
  obtain ⟨later, hstands, hgrows⟩ := hl.grows h
  have hheld := hh.grow hgrows
  exact ⟨⟨later, hstands.houses, hheld⟩, fun s hm hp =>
    Relational.gives_held hp (hstands.stores s hm).serves hstands.houses hheld⟩

/-- Whatever the stores on a file do after it has come to hold a row for an address text, the row
stays as it is, and all stores that persist give its country and its region wherever they can read
it. So an answer that a store says it has saved is what all of them find saved from then on, unless
a trigger has dropped it. -/
theorem saved_answer_lasts (h : IsReached path number library) :
    (∀ address row after, library.Holds path number address row →
      Later path number library after →
      after.Holds path number address row ∧
        ∀ s ∈ after.stores, s.persists = true → s.Gives after.world address row) ∧
    (∀ before s rest w address location after, library = ⟨before ++ s :: rest, w⟩ →
      (∀ file db, w.disk.Houses path number file → file.content.database? = some db →
        db.trigger ≠ some .ignore) →
      (s.resolve w address).1 = some ⟨location, .persisted⟩ →
      Later path number
        ⟨before ++ (s.resolve w address).2.1 :: rest, (s.resolve w address).2.2⟩ after →
      ∀ t ∈ after.stores, t.persists = true → t.readsSaved after.world address = true →
        (t.resolve after.world address).1 = some ⟨location, .loaded⟩) := by
  obtain ⟨file, hstands⟩ := h.stands
  constructor
  · rintro address row after ⟨other, hhouses, hheld⟩ hl
    obtain rfl := Option.some.inj (hstands.houses.isFile.symm.trans hhouses.isFile)
    exact hstands.gives hheld hl
  · rintro before s rest w address location after rfl htrigger hanswer hl t hm hp hr
    obtain ⟨rfl, later, hleaves, hheld⟩ := Relational.resolve_persisted
      (hstands.stores s (by simp)).serves hstands.houses
      (fun db => htrigger file db hstands.houses) hanswer
    obtain ⟨_, _, ⟨⟩, ⟨⟩, hfound, -⟩ :=
      (((hstands.leaves hleaves).gives hheld hl).2 t hm hp).reads hr
    exact hfound

/-- A text that is no address has a saved answer without a country, and another answer is saved. -/
theorem saved_answer_lasts_dutch :
    ∃ (s : Relational) (w : World),
      Relational.openExisting (Relational.worldOf "geo.db" (.database { Relational.dutch with
        saved := .table [⟨.text "nowhere", .null, .text "Sea"⟩] })) "geo.db" .standard =
          (.ok s, w) ∧
      (s.resolve w "nowhere").1 = some ⟨⟨"", "Sea", "nowhere"⟩, .loaded⟩ ∧
      (s.resolve w "10.0.0.7").1 =
        some ⟨⟨"Netherlands", "North Holland", "10.0.0.7"⟩, .persisted⟩ ∧
      ((s.resolve w "10.0.0.7").2.1.resolve (s.resolve w "10.0.0.7").2.2 "10.0.0.7").1 =
        some ⟨⟨"Netherlands", "North Holland", "10.0.0.7"⟩, .loaded⟩ := by
  let row : Saved := ⟨.text "nowhere", .null, .text "Sea"⟩
  let db : Database := { Relational.dutch with saved := .table [row] }
  let world := Relational.worldOf "geo.db" (.database db)
  have hhouses : world.disk.Houses (Path.normal (FileName.ofText "geo.db")) 0
      (.ofContent (.database db)) := Disk.houses_ofFile _ _
  have hchecks : ((Relational.openExisting world "geo.db" .standard).1.toOption.any fun s =>
      let w := (Relational.openExisting world "geo.db" .standard).2
      let resolved := s.resolve w "10.0.0.7"
      s.persists && s.readsSaved w "nowhere" && resolved.2.1.persists &&
        resolved.2.1.readsSaved resolved.2.2 "10.0.0.7" &&
        decide (resolved.1 =
          some ⟨⟨"Netherlands", "North Holland", "10.0.0.7"⟩, .persisted⟩)) = true := by
    decide +kernel
  have hopened := Relational.openExisting_house Relational.leads_geo hhouses .standard
  rcases hs : Relational.openExisting world "geo.db" .standard with ⟨cause | s, w⟩
  · rw [hs] at hchecks
    cases hchecks
  rw [hs] at hchecks hopened
  obtain ⟨later, -, hlater, hcontent, -⟩ := hopened
  simp only [Except.toOption, Option.any_some, Bool.and_eq_true, decide_eq_true_eq] at hchecks
  obtain ⟨⟨⟨⟨hp, hr⟩, hp'⟩, hr'⟩, hanswer⟩ := hchecks
  have hreached : IsReached (Path.normal (FileName.ofText "geo.db")) 0 ⟨[s], w⟩ :=
    ⟨world, _, hhouses, .single (.opened Relational.leads_geo hs)⟩
  have hholds : Holds ⟨[s], w⟩ (Path.normal (FileName.ofText "geo.db")) 0 "nowhere" row :=
    ⟨later, hlater, [row], by rw [hcontent]; rfl, by decide⟩
  have htrigger (file : File) (now : Database)
      (hfile : w.disk.Houses (Path.normal (FileName.ofText "geo.db")) 0 file)
      (hnow : file.content.database? = some now) : now.trigger ≠ some .ignore := by
    obtain rfl := Option.some.inj (hlater.isFile.symm.trans hfile.isFile)
    rw [hcontent] at hnow
    obtain rfl := Option.some.inj hnow
    decide
  obtain ⟨hlasts, hsaves⟩ := saved_answer_lasts hreached
  obtain ⟨_, _, ⟨⟩, ⟨⟩, hfound, -⟩ :=
    ((hlasts "nowhere" row _ hholds .refl).2 s (by simp) hp).reads hr
  exact ⟨s, w, rfl, hfound, hanswer, hsaves [] s [] w "10.0.0.7" _ _ rfl htrigger hanswer .refl _
    (by simp) hp' hr'⟩

end Library

end Gazetteer.Store
