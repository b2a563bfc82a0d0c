/-
Gazetteer.Proofs.Store.Transparency — remembered answers change no answer.

Two layers stand in front of the blocks: the saved answers in the database and
the numbers that a store remembers. Stores come and go on one file, resolve what
they are asked, save what they can, and meet locks, triggers and faults of all
kinds in between. Through all of that each saved answer stays one that the blocks
give and each remembered number that of its address. So wherever reading works a
resolution finds the location that the blocks give, whichever store is asked and
whatever it has been asked before.
-/
import Gazetteer.Proofs.Store.Opening

namespace Gazetteer

open Gazetteer.Database

/-! ## Saved answers that the blocks give -/

namespace Database

variable {db reference : Database} {address : String}

/-- The row is that of a location which the blocks give for its address. -/
def Saved.IsGiven (row : Saved) (reference : Database) : Prop :=
  ∃ address names, reference.locate address = .ok (some names) ∧
    row = .ofLocation (names.location address)

/-- There is a table of saved answers, and the blocks give every one of them. -/
def IsFaithful (db reference : Database) : Prop :=
  ∃ rows, db.saved = .table rows ∧ ∀ row ∈ rows, row.IsGiven reference

/-- A faithful table answers as the blocks do, or not at all. -/
theorem IsFaithful.ask_saved (h : db.IsFaithful reference) (address : String) :
    db.ask (.saved address) = .ok none ∨
      ∃ names, db.ask (.saved address) = .ok (some names) ∧
        reference.locate address = .ok (some names) := by
  obtain ⟨rows, hrows, hgiven⟩ := h
  simp only [ask, hrows, Slot.rows?]
  cases hf : rows.find? fun row => decide (row.address = .text address) with
  | none => exact .inl rfl
  | some row =>
    have haddress : row.address = .text address := by simpa using List.find?_some hf
    obtain ⟨other, names, hlocate, rfl⟩ := hgiven row (List.mem_of_find?_eq_some hf)
    obtain rfl : other = address := Cell.text.inj haddress
    exact .inr ⟨names, rfl, hlocate⟩

/-- So it makes no difference whether saved answers count. -/
theorem IsFaithful.namesFor (h : db.IsFaithful reference) (hs : db.SameReference reference)
    (persists : Bool) (address : String) :
    db.namesFor persists address = reference.locate address := by
  unfold Database.namesFor
  rw [hs.locate]
  cases persists with
  | false => rfl
  | true =>
    obtain hsaved | ⟨names, hsaved, hlocate⟩ := h.ask_saved address
    · simp only [if_true, hsaved]
    · simp only [if_true, hsaved, hlocate]

/-- One more answer that the blocks give keeps a table faithful. -/
theorem IsFaithful.append {rows : List Saved} {row : Saved} (h : db.IsFaithful reference)
    (hrows : db.saved = .table rows) (hr : row.IsGiven reference) :
    IsFaithful { db with saved := .table (rows ++ [row]) } reference := by
  obtain ⟨all, hall, hgiven⟩ := h
  obtain rfl := Slot.table.inj (hrows.symm.trans hall)
  refine ⟨_, rfl, ?_⟩
  intro other hm
  obtain hm | hm := List.mem_append.1 hm
  · exact hgiven other hm
  · obtain rfl := List.mem_singleton.1 hm
    exact hr

end Database

/-! ## Lookups -/

/-- The content is a database with the same reference and a faithful table. -/
def Content.Keeps (content : Content) (reference : Database) : Prop :=
  ∃ db, content = .database db ∧ db.SameReference reference ∧ db.IsFaithful reference

namespace Store

variable {reference : Database} {path : Path} {number : Nat} {file later : File}
  {s after : Relational} {w : World}

/-- Whatever a lookup comes to, its sheet keeps the reference and a faithful table. -/
theorem keeps_of_outcome {persists : Bool} {address : String} {desk after : Desk}
    {found : Except StoreError (Option Resolved)} (ht : Desk.IsTruthful desk.encodings)
    (hk : desk.sheet.content.Keeps reference)
    (h : Script.LookupOutcome persists address desk after found) :
    after.sheet.content.Keeps reference := by
  cases h with
  | nothing hempty hc => rwa [hc]
  | loaded he hdb hsaved hc => rwa [hc]
  | @located db names writeBack hdb hu hlocate hsave =>
    cases persists with
    | false => rwa [hsave.2]
    | true =>
      obtain ⟨-, -, -, ⟨-, hc⟩ | ⟨-, db', -, ⟨-, hc⟩ | ⟨-, hgains⟩⟩⟩ := hsave
      · rwa [hc]
      · rwa [hc]
      · -- a row is added, of a location that the blocks give
        obtain ⟨here, hhere, hsame, hfaithful⟩ := hk
        obtain ⟨now, rows, hnow, hrows, hafter⟩ := hgains
        obtain rfl : here = now := by
          rw [hhere] at hnow
          exact Option.some.inj hnow
        obtain rfl : here = db := by
          have hread := (Desk.mayRead_of_readable? hdb).2
          rw [hhere] at hread
          exact Option.some.inj hread
        refine ⟨_, hafter, ⟨hsame.places, hsame.blocks, hsame.indexes⟩,
          hfaithful.append hrows ⟨address, names, ?_, rfl⟩⟩
        rw [← hsame.locate]
        exact hlocate ht

namespace Relational

/-- A resolution leaves a store in good order on a file that keeps the reference. -/
theorem resolve_keeps (address : String) (hs : s.StandsOn path number file)
    (hw : w.disk.Houses path number file) (hk : file.content.Keeps reference) :
    ∃ later, s.Leaves path number file later (s.resolve w address).2.1 (s.resolve w address).2.2 ∧
      later.content.Keeps reference := by
  obtain ⟨later, hleaves, hrun⟩ := resolve_performs address hs.serves hw
  refine ⟨later, hleaves, ?_⟩
  cases hopening : s.opening? w with
  | none =>
    rw [hopening] at hrun
    rwa [hrun.2]
  | some desk =>
    rw [hopening] at hrun
    obtain ⟨hopens, -, hcontent⟩ := hrun
    rw [hcontent]
    split
    · next hm =>
      have hdesk : desk.sheet.content.Keeps reference := by rwa [hopens.content hm]
      exact keeps_of_outcome (hopens.encodings ▸ hs.truthful) hdesk
        (Script.lookup_outcome hopens.draft rfl).2
    · exact hk

end Relational

/-! ## Histories of a library -/

/-- The open stores on one file, and the world. -/
structure Library where
  stores : List Relational
  world : World

namespace Library

/-- What can happen to the stores on the file of a path. -/
inductive Step (path : Path) (number : Nat) : Library → Library → Prop where
  /-- A store is opened on the database, or cannot be. -/
  | opened {stores : List Relational} {w w' : World} {text : String} {options : Options}
      {result : Except ConfigError Relational} (leads : Locator.Leads text path)
      (opens : Relational.openExisting w text options = (result, w')) :
      Step path number ⟨stores, w⟩ ⟨result.toOption.toList ++ stores, w'⟩
  /-- A store is opened that makes what is missing, where nothing is. -/
  | created {stores : List Relational} {w w' : World} {text : String} {options : Options}
      {result : Except ConfigError Relational} {file : File} {db : Database}
      (leads : Locator.Leads text path) (houses : w.disk.Houses path number file)
      (held : file.content = .database db) (complete : Script.IsComplete db)
      (creates : Relational.create w text options = (result, w')) :
      Step path number ⟨stores, w⟩ ⟨result.toOption.toList ++ stores, w'⟩
  /-- A store resolves an address text. -/
  | resolved {before rest : List Relational} {s : Relational} {w : World} (address : String) :
      Step path number ⟨before ++ s :: rest, w⟩
        ⟨before ++ (s.resolve w address).2.1 :: rest, (s.resolve w address).2.2⟩
  /-- A store is closed. -/
  | closed {before rest : List Relational} {s : Relational} {w : World} :
      Step path number ⟨before ++ s :: rest, w⟩ ⟨before ++ rest, (s.close w).2⟩
  /-- Time passes, locks are taken and given up, triggers are made and dropped, and faults are
  to come; blocks, places and saved answers stay. -/
  | disturbed {stores : List Relational} {w w' : World} {file later : File} {db now : Database}
      (before : w.disk.Houses path number file) (after : w'.disk.Houses path number later)
      (follows : file.Follows later) (held : file.content = .database db)
      (holds : later.content = .database now) (reference : now.SameReference db)
      (saved : now.saved = db.saved) :
      Step path number ⟨stores, w⟩ ⟨stores, w'⟩

/-- A library in which nothing is open yet comes to be another one step by step. -/
inductive Reaches (path : Path) (number : Nat) (reference : Database) : Library → Prop where
  | start {w : World} {file : File} (houses : w.disk.Houses path number file)
      (keeps : file.content.Keeps reference) : Reaches path number reference ⟨[], w⟩
  | step {library after : Library} (reached : Reaches path number reference library)
      (step : Step path number library after) : Reaches path number reference after

/-- All stores stand on the file, which keeps the reference and a faithful table. -/
def Inv (path : Path) (number : Nat) (reference : Database) (library : Library) : Prop :=
  ∃ file, library.world.disk.Houses path number file ∧ file.content.Keeps reference ∧
    ∀ s ∈ library.stores, s.StandsOn path number file

variable {library after : Library}

theorem inv_opened (options : Options) {stores : List Relational} {w w' : World}
    {result : Except ConfigError Relational} (h : Inv path number reference ⟨stores, w⟩)
    (ho : ∀ file, w.disk.Houses path number file →
      Relational.Opened options path number file (result, w')) :
    Inv path number reference ⟨result.toOption.toList ++ stores, w'⟩ := by
  obtain ⟨file, hhouses, hkeeps, hstores⟩ := h
  obtain ⟨later, hf, hlater, hcontent, hopened⟩ := ho file hhouses
  refine ⟨later, hlater, hcontent ▸ hkeeps, ?_⟩
  intro s hm
  obtain hm | hm := List.mem_append.1 hm
  · have hok : result = .ok s := by
      cases result with
      | error cause => simp [Except.toOption] at hm
      | ok opened => simpa [Except.toOption, eq_comm] using hm
    exact (hopened s hok).1
  · exact (hstores s hm).follow hf

theorem inv_step (h : Inv path number reference library) (hs : Step path number library after) :
    Inv path number reference after := by
  obtain ⟨file, hhouses, hkeeps, hstores⟩ := id h
  cases hs with
  | @opened stores w w' text options result leads opens =>
    refine inv_opened options h ?_
    intro file hw
    have := Relational.openExisting_house leads hw options
    rwa [opens] at this
  | @created stores w w' text options result file' db leads houses held complete creates =>
    refine inv_opened options h ?_
    intro file hw
    obtain rfl : file = file' := Option.some.inj (hw.isFile.symm.trans houses.isFile)
    have := Relational.create_complete leads hw held complete options
    rwa [creates] at this
  | @resolved before rest s w address =>
    have hs := hstores s (by simp)
    obtain ⟨later, hleaves, hlater⟩ := Relational.resolve_keeps address hs hhouses hkeeps
    refine ⟨later, hleaves.houses, hlater, ?_⟩
    intro t hm
    obtain hm | hm := List.mem_append.1 hm
    · exact (hstores t (List.mem_append_left _ hm)).follow hleaves.follows
    · obtain rfl | hm := List.mem_cons.1 hm
      · exact hs.leaves hleaves
      · exact (hstores t (by simp [hm])).follow hleaves.follows
  | @closed before rest s w =>
    have hs := hstores s (by simp)
    rw [Relational.close_stands hs w]
    refine ⟨file, hhouses, hkeeps, fun t hm => hstores t ?_⟩
    obtain hm | hm := List.mem_append.1 hm
    · exact List.mem_append_left _ hm
    · exact List.mem_append_right _ (List.mem_cons_of_mem _ hm)
  | @disturbed stores w w' file' later db now before after follows held holds same saved =>
    obtain rfl : file' = file := Option.some.inj (before.isFile.symm.trans hhouses.isFile)
    obtain ⟨db', hdb', hsame, rows, hrows, hgiven⟩ := hkeeps
    obtain rfl : db' = db := Content.database.inj (hdb'.symm.trans held)
    exact ⟨later, after, ⟨now, holds, same.trans hsame, rows, saved.trans hrows, hgiven⟩,
      fun s hm => (hstores s hm).follow follows⟩

theorem inv_reaches (h : Reaches path number reference library) :
    Inv path number reference library := by
  induction h with
  | start houses keeps => exact ⟨_, houses, keeps, by simp⟩
  | step _ hs ih => exact inv_step ih hs

/-- Wherever reading works, a store finds what the blocks give. -/
theorem resolve_reference {s : Relational} (h : Reaches path number reference library)
    (hs : s ∈ library.stores) (hr : s.CanRead library.world) (address : String) :
    (s.resolve library.world address).1.map (·.location) =
      (reference.locate address).toOption.join.map (·.location address) := by
  obtain ⟨file, hhouses, ⟨db, hdb, hsame, hfaithful⟩, hstores⟩ := inv_reaches h
  obtain ⟨hserves, htruth⟩ := hstores s hs
  have hread : file.content.database? = some db := by
    rw [hdb]
    rfl
  rw [Relational.resolve_of_canRead address hserves hhouses htruth hread hr,
    hfaithful.namesFor hsame]

/-- Two stores in two libraries with the same reference find the same location for an address text,
whatever each has saved, remembered and been asked, and whether it persists or not. -/
theorem resolve_transparent {path' : Path} {number' : Nat} {library' : Library}
    {s t : Relational} (h : Reaches path number reference library)
    (h' : Reaches path' number' reference library') (hs : s ∈ library.stores)
    (ht : t ∈ library'.stores) (hr : s.CanRead library.world) (hr' : t.CanRead library'.world)
    (address : String) :
    (s.resolve library.world address).1.map (·.location) =
      (t.resolve library'.world address).1.map (·.location) := by
  rw [resolve_reference h hs hr, resolve_reference h' ht hr']

/-- A store that persists and has saved its answer finds the same as one that does not persist. -/
theorem resolve_transparent_dutch :
    ∃ (s t : Relational) (w v : World),
      Relational.openExisting (Relational.worldOf "geo.db" (.database Relational.dutch)) "geo.db"
        .standard = (.ok s, w) ∧
      Relational.openExisting (Relational.worldOf "geo.db" (.database Relational.dutch)) "geo.db"
        ⟨false, 1, .standard⟩ = (.ok t, v) ∧
      ((s.resolve w "10.0.0.7").2.1.resolve (s.resolve w "10.0.0.7").2.2 "10.0.0.7").1.map
          (·.location) = some ⟨"Netherlands", "North Holland", "10.0.0.7"⟩ ∧
      (t.resolve v "10.0.0.7").1.map (·.location) =
        some ⟨"Netherlands", "North Holland", "10.0.0.7"⟩ := by
  have hhouses := Disk.houses_ofFile (FileName.ofText "geo.db") (.database Relational.dutch)
  have hkeeps : (Content.database Relational.dutch).Keeps Relational.dutch :=
    ⟨_, rfl, ⟨rfl, rfl, rfl⟩, [], rfl, by simp⟩
  have hstart : Reaches (Path.normal (FileName.ofText "geo.db")) 0 Relational.dutch
      ⟨[], Relational.worldOf "geo.db" (.database Relational.dutch)⟩ := .start hhouses hkeeps
  let world := Relational.worldOf "geo.db" (.database Relational.dutch)
  have hfirst : ((Relational.openExisting world "geo.db" .standard).1.toOption.any fun s =>
      let resolved := s.resolve (Relational.openExisting world "geo.db" .standard).2 "10.0.0.7"
      decide (resolved.2.1.CanRead resolved.2.2)) = true := by decide +kernel
  have hsecond : ((Relational.openExisting world "geo.db"
      ⟨false, 1, .standard⟩).1.toOption.any fun t =>
        let v := (Relational.openExisting world "geo.db" ⟨false, 1, .standard⟩).2
        decide (t.CanRead v) && decide ((t.resolve v "10.0.0.7").1.map (·.location) =
          some ⟨"Netherlands", "North Holland", "10.0.0.7"⟩)) = true := by decide +kernel
  rcases hs : Relational.openExisting world "geo.db" .standard with ⟨cause | s, w⟩
  · rw [hs] at hfirst
    cases hfirst
  rcases ht : Relational.openExisting world "geo.db" ⟨false, 1, .standard⟩ with ⟨cause | t, v⟩
  · rw [ht] at hsecond
    cases hsecond
  rw [hs] at hfirst
  rw [ht] at hsecond
  have hopened := (hstart.step (.opened Relational.leads_geo hs)).step
    (@Step.resolved _ _ [] [] s w "10.0.0.7")
  obtain ⟨hread, hanswer⟩ := Bool.and_eq_true_iff.1 hsecond
  have hanswer := of_decide_eq_true hanswer
  have hsame := resolve_transparent hopened (hstart.step (.opened Relational.leads_geo ht))
    (by simp) (by simp [Except.toOption]) (of_decide_eq_true hfirst) (of_decide_eq_true hread)
    "10.0.0.7"
  exact ⟨s, t, w, v, rfl, rfl, hsame.trans hanswer, hanswer⟩

end Library

end Store

end Gazetteer
