/-
Gazetteer.Proofs.Store.Seeding — a store finds what has been written through it.

A store is created on a new database and does not persist. Places and blocks are
written through it, some with success and some without, lookups come between, and
so do locks and faults. What the database holds at any time are the seeds that
have been reported as written, in order. A resolution that can read answers with
a match among these seeds, and with nothing only if they have none.
-/
import Gazetteer.Proofs.Database.Seeds
import Gazetteer.Proofs.Store.Opening

namespace Gazetteer.Store

open Gazetteer.Database

variable {path : Path} {seeds : List Seed} {s : Relational} {w : World}

/-- What has been written so far: one seed more if that was reported. -/
def grown (seeds : List Seed) (result : Except StoreError Unit) (seed : Seed) : List Seed :=
  match result with
  | .ok _ => seeds ++ [seed]
  | .error _ => seeds

theorem grown_of_isSome {result : Except StoreError Unit} {seed : Seed}
    (h : result.toOption.isSome = true) : grown seeds result seed = seeds ++ [seed] := by
  cases result with
  | ok => rfl
  | error cause => cases h

/-- A store comes to be on a new database and is worked with, and these seeds have been reported as
written. -/
inductive Seeding (path : Path) : List Seed → Relational → World → Prop where
  | created {w w' : World} {s : Relational} {text : String} {options : Options}
      (leads : Locator.Leads text path) (new : Relational.IsNew w.disk path)
      (disabled : options.persists = false)
      (creates : Relational.create w text options = (.ok s, w')) : Seeding path [] s w'
  | place {seeds : List Seed} {s : Relational} {w : World} (before : Seeding path seeds s w)
      (number : Int) (country region city : String)
      {taken : Except StoreError Unit × Relational × World}
      (writes : s.putPlace w ⟨number, .text country, .text region, .text city⟩ = taken) :
      Seeding path (grown seeds taken.1 (.place number country region city)) taken.2.1 taken.2.2
  | block {seeds : List Seed} {s : Relational} {w : World} (before : Seeding path seeds s w)
      (text : String) (number : Int) {taken : Except StoreError Unit × Relational × World}
      (writes : s.addBlock w text number = taken) :
      Seeding path (grown seeds taken.1 (.block text number)) taken.2.1 taken.2.2
  | resolved {seeds : List Seed} {s : Relational} {w : World} (before : Seeding path seeds s w)
      (address : String) :
      Seeding path seeds (s.resolve w address).2.1 (s.resolve w address).2.2
  /-- Time passes, locks are taken and given up, and faults are to come; blocks and places stay. -/
  | disturbed {seeds : List Seed} {s : Relational} {w w' : World} {number : Nat}
      {file later : File} {db now : Database} (before : Seeding path seeds s w)
      (houses : w.disk.Houses path number file) (after : w'.disk.Houses path number later)
      (follows : file.Follows later) (held : file.content.database? = some db)
      (holds : later.content.database? = some now) (places : now.places = db.places)
      (blocks : now.blocks = db.blocks) : Seeding path seeds s w'

/-- A resolution by a store that does not persist leaves what the file holds as it is, and says that
nothing was to be written. -/
theorem Relational.resolve_disabled {number : Nat} {file : File} (address : String)
    (hs : s.pool.ServesFile path number file) (hw : w.disk.Houses path number file)
    (hp : s.persists = false) :
    (∃ later, s.Leaves path number file later (s.resolve w address).2.1 (s.resolve w address).2.2 ∧
      later.content = file.content) ∧
      ∀ resolved, (s.resolve w address).1 = some resolved → resolved.writeBack = .disabled := by
  obtain ⟨later, hleaves, hrun⟩ := resolve_performs address hs hw
  cases hopening : s.opening? w with
  | none =>
    rw [hopening] at hrun
    refine ⟨⟨later, hleaves, hrun.2⟩, ?_⟩
    intro resolved hresolved
    rw [hrun.1] at hresolved
    cases hresolved
  | some desk =>
    rw [hopening, hp] at hrun
    obtain ⟨hopens, hanswer, hlater⟩ := hrun
    rcases hlook : (Script.lookup false address).run desk with ⟨found, after⟩
    rw [hlook] at hanswer hlater
    obtain ⟨hcontent, hout⟩ := (Script.lookup_outcome hopens.draft hlook).2.of_disabled
    refine ⟨⟨later, hleaves, ?_⟩, ?_⟩
    · rw [hlater]
      by_cases hm : desk.access.mayRead = true
      · rw [if_pos hm, hcontent, hopens.content hm]
      · rw [if_neg hm]
    · intro resolved hresolved
      rw [hanswer] at hresolved
      refine (hout resolved ?_).1
      match found with
      | .ok found =>
        obtain rfl : found = some resolved := hresolved
        rfl

namespace Seeding

/-- The database holds the seeds, and the store is in good order. -/
def Inv (path : Path) (seeds : List Seed) (s : Relational) (w : World) : Prop :=
  ∃ number file db, w.disk.Houses path number file ∧ file.content.database? = some db ∧
    db.Holds seeds ∧ s.StandsOn path number file ∧ s.persists = false

theorem inv_created {text : String} {options : Options} {taken : World}
    (hl : Locator.Leads text path) (hn : Relational.IsNew w.disk path)
    (hd : options.persists = false)
    (hc : Relational.create w text options = (.ok s, taken)) : Inv path [] s taken := by
  obtain ⟨number, file, hhouses, hcontent, hstands, hpersists⟩ :=
    Relational.create_new hl hn hc
  refine ⟨number, file, Script.newDatabase, hhouses, ?_, ⟨rfl, rfl⟩, hstands, hpersists.trans hd⟩
  rw [hcontent]
  rfl

/-- An operation that plants a seed or leaves everything as it is keeps the invariant. -/
theorem inv_writes {script : Script (Except StoreError Unit)}
    {effect : Database → Option Database} {taken : Except StoreError Unit × Relational × World}
    {seed : Seed} (h : Inv path seeds s w) (hw : script.Writes effect)
    (hp : ∀ number file, s.pool.ServesFile path number file → w.disk.Houses path number file →
      s.Performs w path number file script taken)
    (he : ∀ db made, db.Holds seeds → effect db = some made → made.Holds (seeds ++ [seed])) :
    Inv path (grown seeds taken.1 seed) taken.2.1 taken.2.2 := by
  obtain ⟨number, file, db, hhouses, hdb, hholds, hstands, hpersists⟩ := h
  obtain ⟨later, hleaves, hcase⟩ := (hp number file hstands.serves hhouses).writes hw
  have hafter := hstands.leaves hleaves
  have hpersists' := hleaves.persists.trans hpersists
  obtain ⟨hne, hcontent⟩ | ⟨hok, db', made, hdb', hmade, hcontent⟩ := hcase
  · have hgrown : grown seeds taken.1 seed = seeds := by
      unfold grown
      split
      · next value hvalue => exact absurd hvalue hne
      · rfl
    rw [hgrown]
    exact ⟨number, later, db, hleaves.houses, hcontent ▸ hdb, hholds, hafter, hpersists'⟩
  · obtain rfl : db' = db := Option.some.inj (hdb'.symm.trans hdb)
    rw [hok]
    exact ⟨number, later, made, hleaves.houses, hcontent, he db' made hholds hmade, hafter,
      hpersists'⟩

theorem inv_place (h : Inv path seeds s w) (number : Int) (country region city : String) :
    let taken := s.putPlace w ⟨number, .text country, .text region, .text city⟩
    Inv path (grown seeds taken.1 (.place number country region city)) taken.2.1 taken.2.2 := by
  have hw := Script.writes_single
    (c := .putPlace ⟨number, .text country, .text region, .text city⟩) trivial
  refine inv_writes h hw (fun _ _ hs hd => Relational.perform_performs _ hs hd hw.isTidy) ?_
  intro db made hholds hmade
  simp only [Command.result?, hholds.places, Slot.rows?, Option.map_some] at hmade
  obtain rfl := Option.some.inj hmade
  refine ⟨?_, ?_⟩
  · rw [List.foldl_append]
    rfl
  · rw [List.flatMap_append]
    simpa [Seed.rows] using hholds.blocks

theorem inv_block (h : Inv path seeds s w) (text : String) (number : Int) :
    let taken := s.addBlock w text number
    Inv path (grown seeds taken.1 (.block text number)) taken.2.1 taken.2.2 := by
  unfold Relational.addBlock
  cases hr : Address.Range.ofBlock? text with
  | none => exact h
  | some range =>
    have hw := Script.writes_addBlock (Address.ofRange_ne_nil hr text number)
    refine inv_writes h hw (fun _ _ hs hd => Relational.perform_performs _ hs hd hw.isTidy) ?_
    intro db made hholds hmade
    obtain rfl := Option.some.inj hmade
    refine ⟨?_, ?_⟩
    · rw [List.foldl_append]
      exact hholds.places
    · rw [List.flatMap_append, hholds.blocks]
      simp [Slot.append, Seed.rows, hr]

theorem inv_resolved (h : Inv path seeds s w) (address : String) :
    Inv path seeds (s.resolve w address).2.1 (s.resolve w address).2.2 := by
  obtain ⟨number, file, db, hhouses, hdb, hholds, hstands, hpersists⟩ := h
  obtain ⟨⟨later, hleaves, hcontent⟩, -⟩ :=
    Relational.resolve_disabled address hstands.serves hhouses hpersists
  exact ⟨number, later, db, hleaves.houses, hcontent ▸ hdb, hholds, hstands.leaves hleaves,
    hleaves.persists.trans hpersists⟩

theorem inv (h : Seeding path seeds s w) : Inv path seeds s w := by
  induction h with
  | created leads new disabled creates => exact inv_created leads new disabled creates
  | place _ number country region city writes ih =>
    subst writes
    exact inv_place ih number country region city
  | block _ text number writes ih =>
    subst writes
    exact inv_block ih text number
  | resolved _ address ih => exact inv_resolved ih address
  | @disturbed seeds s w w' number file later db now _ houses after follows held holds places
      blocks ih =>
    -- what others do leaves the places and the blocks, which is all that the seeds speak of
    obtain ⟨number', file', db', hhouses, hdb, hholds, hstands, hpersists⟩ := ih
    obtain rfl : number' = number :=
      Option.some.inj (hhouses.named.symm.trans houses.named)
    obtain rfl : file' = file := Option.some.inj (hhouses.isFile.symm.trans houses.isFile)
    obtain rfl : db' = db := Option.some.inj (hdb.symm.trans held)
    exact ⟨number', later, now, after, holds, ⟨places.trans hholds.places,
      blocks.trans hholds.blocks⟩, hstands.follow follows, hpersists⟩

/-- Where reading works, the store answers an address text with the country and the region of a match
among the seeds, or with nothing if they have none. -/
theorem resolve_seeded (h : Seeding path seeds s w) (hr : s.CanRead w) (address : String) :
    ((s.resolve w address).1 = none ↔ ∀ names, ¬ Matches seeds address names) ∧
      ∀ resolved, (s.resolve w address).1 = some resolved →
        resolved.writeBack = .disabled ∧
          ∃ names, Matches seeds address names ∧
            resolved.location = ⟨names.country, names.region, address⟩ := by
  obtain ⟨number, file, db, hhouses, hdb, hholds, hstands, hpersists⟩ := h.inv
  have hfound := Relational.resolve_of_canRead address hstands.serves hhouses hstands.truthful
    hdb hr
  have hwriteBack :=
    (Relational.resolve_disabled address hstands.serves hhouses hpersists).2
  rw [hpersists, Database.namesFor] at hfound
  obtain ⟨hlocate, hnone⟩ | ⟨names, hlocate, hmatch⟩ := hholds.locate address
  · have hanswer : (s.resolve w address).1 = none := by
      simpa [hlocate, Except.toOption] using hfound
    rw [hanswer]
    exact ⟨⟨fun _ => hnone, fun _ => rfl⟩, by simp⟩
  · have hanswer : (s.resolve w address).1.map (·.location) =
        some ⟨names.country, names.region, address⟩ := by
      simpa [hlocate, Except.toOption, Names.location] using hfound
    obtain ⟨resolved, hresolved, hlocation⟩ := Option.map_eq_some_iff.1 hanswer
    refine ⟨⟨?_, fun hn => absurd hmatch (hn names)⟩, ?_⟩
    · intro hn
      rw [hresolved] at hn
      cases hn
    · intro other hother
      obtain rfl := Option.some.inj (hresolved.symm.trans hother)
      exact ⟨hwriteBack _ hresolved, names, hmatch, hlocation⟩

/-- An address in the second area of a block has the country and the region of its place, whatever
city is on record. -/
theorem resolve_seeded_dutch :
    ∃ (s : Relational) (w : World),
      let seeds := [.place 1 "Netherlands" "North Holland" "Haarlem", .block "10.0.0.0/15" 1]
      Seeding (Path.normal (FileName.ofText "geo.db")) seeds s w ∧
      Matches seeds "10.1.2.3" ⟨"Netherlands", "North Holland"⟩ ∧
      (s.resolve w "10.1.2.3").1 =
        some ⟨⟨"Netherlands", "North Holland", "10.1.2.3"⟩, .disabled⟩ := by
  have hworks : ((Relational.create .start "geo.db" ⟨false, 1, .standard⟩).1.toOption.any fun s =>
      let w := (Relational.create .start "geo.db" ⟨false, 1, .standard⟩).2
      let named := s.putPlace w ⟨1, .text "Netherlands", .text "North Holland", .text "Haarlem"⟩
      let filled := named.2.1.addBlock named.2.2 "10.0.0.0/15" 1
      named.1.toOption.isSome && filled.1.toOption.isSome &&
        decide (filled.2.1.CanRead filled.2.2) &&
        decide ((filled.2.1.resolve filled.2.2 "10.1.2.3").1 =
          some ⟨⟨"Netherlands", "North Holland", "10.1.2.3"⟩, .disabled⟩)) = true := by
    decide +kernel
  rcases hs : Relational.create .start "geo.db" ⟨false, 1, .standard⟩ with ⟨cause | s, w⟩
  · rw [hs] at hworks
    cases hworks
  · rw [hs] at hworks
    have hnamed := Seeding.place (.created Relational.leads_geo (.inl ⟨rfl, rfl⟩) rfl hs) 1
      "Netherlands" "North Holland" "Haarlem" rfl
    have hfilled := hnamed.block "10.0.0.0/15" 1 rfl
    obtain ⟨hreads, hanswer⟩ := Bool.and_eq_true_iff.1 hworks
    obtain ⟨hoks, hread⟩ := Bool.and_eq_true_iff.1 hreads
    obtain ⟨hplace, hblock⟩ := Bool.and_eq_true_iff.1 hoks
    rw [grown_of_isSome hplace, grown_of_isSome hblock] at hfilled
    have hanswer := of_decide_eq_true hanswer
    obtain ⟨-, hfound⟩ := resolve_seeded hfilled (of_decide_eq_true hread) "10.1.2.3"
    obtain ⟨-, ⟨country, region⟩, hmatch, hlocation⟩ := hfound _ hanswer
    obtain ⟨rfl, rfl, -⟩ := Location.mk.inj hlocation
    exact ⟨_, _, hfilled, hmatch, hanswer⟩

end Seeding

end Gazetteer.Store
