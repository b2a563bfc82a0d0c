/-
Gazetteer.Proofs.Disk.Memory — what a connection remembers is what the file holds.

A connection goes by what it remembers as long as the version of the file is the
one that it remembers. `Memory.Fits` says when that is right, and the file may
change as it likes without making it wrong, as long as it `Follows` the file
before: its count of changes does not fall, a file of the same count is the same
file, and a database stays one. So every change through one connection is seen by
all others.
-/
import Gazetteer.Disk.Access

namespace Gazetteer

open Gazetteer.Database

/-! ## Files over time -/

/-- One file may have come of another by changes that are counted. -/
structure File.Follows (file later : File) : Prop where
  changes : file.changes ≤ later.changes
  same : later.changes = file.changes → later.content = file.content ∧ later.room = file.room
  stays : ∀ db, file.content = .database db → ∃ now, later.content = .database now

theorem File.Follows.refl (file : File) : file.Follows file :=
  ⟨Nat.le_refl _, fun _ => ⟨rfl, rfl⟩, fun db h => ⟨db, h⟩⟩

theorem File.version_congr {file later : File} (hc : later.content = file.content)
    (hn : later.changes = file.changes) (hr : later.room = file.room) :
    later.version = file.version := by
  unfold File.version
  rw [hc, hn, hr]

theorem File.changes_version {file : File} {db : Database} (h : file.content = .database db) :
    file.version.changes = file.changes := by
  unfold File.version
  rw [h]

/-! ## Pictures -/

theorem Database.Slot.renewed_self {ρ : Type} (slot lost : Slot ρ) (isSeen : Bool) :
    slot.renewed isSeen slot lost = slot := by
  cases slot <;> simp [Slot.renewed]

/-- Whatever has been read of it, a picture of a database shows that database. -/
theorem Database.Picture.view_self (db : Database) (seen : List Table) :
    (Picture.mk db seen).view db = db := by
  simp only [Picture.view, Slot.renewed_self]

/-! ## Memories -/

/-- What is remembered is what the file holds, as far as the version tells; nothing at all is only
remembered of a file that held no database yet. -/
def Memory.Fits (memory : Memory) (file : File) : Prop :=
  memory.version.changes ≤ file.changes ∧
    match memory.picture with
    | none => memory.version = .blank
    | some picture => ∃ db, file.content = .database db ∧
        (memory.version = file.version → picture.view db = db)

theorem Memory.Fits.follow {memory : Memory} {file later : File} (h : memory.Fits file)
    (hf : file.Follows later) : memory.Fits later := by
  unfold Memory.Fits at *
  obtain ⟨hle, hp⟩ := h
  have hchanges := hf.changes
  refine ⟨by omega, ?_⟩
  cases hpic : memory.picture with
  | none => simpa [hpic] using hp
  | some picture =>
    simp only [hpic] at hp
    obtain ⟨db, hdb, hview⟩ := hp
    obtain ⟨now, hnow⟩ := hf.stays db hdb
    refine ⟨now, hnow, ?_⟩
    intro hv
    have hn : memory.version.changes = later.changes := by rw [hv, File.changes_version hnow]
    obtain ⟨hc, hr⟩ := hf.same (by omega)
    obtain rfl : now = db := by simpa [hnow, hdb] using hc
    exact hview (hv.trans (File.version_congr hc (by omega) hr))

theorem Memory.fits_blank (file : File) : (Memory.mk .blank none).Fits file :=
  ⟨Nat.zero_le _, rfl⟩

theorem Memory.fits_picture {version : Version} {picture : Picture} {file : File}
    {db : Database} (hle : version.changes ≤ file.changes) (hdb : file.content = .database db)
    (hview : version = file.version → picture.view db = db) :
    (Memory.mk version (some picture)).Fits file :=
  ⟨hle, db, hdb, hview⟩

/-- What fits the file and has its version shows its content as it is. -/
theorem Memory.Fits.recalled {memory : Memory} {file : File} (h : memory.Fits file)
    (hv : memory.version = file.version) :
    Disk.recalled memory file.content = file.content := by
  obtain ⟨-, hp⟩ := h
  unfold Disk.recalled
  cases hpic : memory.picture with
  | none =>
    simp only [hpic] at hp
    cases hc : file.content with
    | bytes value => rfl
    | database db =>
      have htrees : file.version.trees = 0 := by rw [← hv, hp]; rfl
      simp [File.version, hc, Database.trees] at htrees
  | some picture =>
    simp only [hpic] at hp
    obtain ⟨db, hdb, hview⟩ := hp
    simp [hdb, Content.database?, hview hv]

/-- After a look at the file what is remembered fits it and has its version. -/
theorem Memory.fits_renewed {memory : Option Memory} {file : File}
    (h : ∀ m ∈ memory, m.Fits file) :
    (Disk.renewed memory file).Fits file ∧
      (Disk.renewed memory file).version = file.version := by
  unfold Disk.renewed
  split
  · next m hm =>
    obtain ⟨hmemory, hv⟩ := Option.filter_eq_some_iff.1 hm
    exact ⟨h m hmemory, by simpa using hv⟩
  · split
    · next hblank =>
      obtain ⟨value, hvalue⟩ : ∃ value, file.content = .bytes value := by
        cases hc : file.content with
        | bytes value => exact ⟨value, rfl⟩
        | database db => simp [hc, Content.isBlank] at hblank
      have hold : memory.elim Version.blank (·.version) = .blank := by
        cases memory with
        | none => rfl
        | some m =>
          obtain ⟨-, hp⟩ := h m rfl
          split at hp
          · exact hp
          · simp [hvalue] at hp
      simp only [hold]
      exact ⟨fits_blank file, by simp [File.version, hvalue]⟩
    · refine ⟨?_, rfl⟩
      cases hc : file.content with
      | bytes value =>
        have hv : file.version = .blank := by simp [File.version, hc]
        rw [hv]
        exact fits_blank file
      | database db =>
        exact fits_picture (Nat.le_of_eq (File.changes_version hc)) hc
          fun _ => Picture.view_ofFirst db

/-- What a connection has recalled it may go on to remember, whatever it has read of it. -/
theorem Memory.Fits.remember {memory : Memory} {file : File} (h : memory.Fits file)
    (seen : List Table) :
    (Memory.mk memory.version ((Disk.recalled memory file.content).written?.map fun db =>
      ⟨db, seen⟩)).Fits file := by
  obtain ⟨hle, hp⟩ := h
  refine ⟨hle, ?_⟩
  unfold Disk.recalled
  cases hpic : memory.picture with
  | none =>
    simp only [hpic] at hp
    cases file.content <;> exact hp
  | some picture =>
    simp only [hpic] at hp
    obtain ⟨db, hdb, hview⟩ := hp
    refine ⟨db, hdb, ?_⟩
    intro hv
    have hself : (Content.database db).database?.getD .empty = db := rfl
    rw [hdb, hself, hview hv]
    exact Picture.view_self db seen

end Gazetteer
