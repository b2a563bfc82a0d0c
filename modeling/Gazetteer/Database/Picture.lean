/-
Gazetteer.Database.Picture — what a connection remembers of a database.

A connection keeps what it has read, and looks at it again only when the version
of the file has changed. What tables there are it knows from its first look. The
rows of a table it finds as they are when it first reads that table. If the file
holds no such table any more by then, it finds answers and blocks that it cannot
read, and no places.

As long as every change of a file changes its version, what is remembered is what
the file holds. A file that is written over from outside can come to a version
that it had before.
-/
import Gazetteer.Database.Tables

namespace Gazetteer.Database

/-! ## What is remembered -/

/-- What a connection remembers of a database. -/
structure Picture where
  database : Database
  /-- The tables whose rows it has read. -/
  seen : List Table
  deriving DecidableEq, Repr

/-- A table as it is remembered, with its rows as they are now unless they have been read; `lost`
stands for a table that the file does not hold any more. -/
def Slot.renewed {ρ : Type} (slot : Slot ρ) (isSeen : Bool) (now lost : Slot ρ) : Slot ρ :=
  match slot, now with
  | table rows, table now => table (if isSeen then rows else now)
  | table rows, _ => if isSeen then table rows else lost
  | slot, _ => slot

/-- Something under the name of a table that cannot be read as the table. -/
def Slot.unreadable {ρ : Type} (table : Table) : Slot ρ := alien ⟨table.name, false, []⟩

namespace Picture

/-- What is remembered after the first look. -/
def ofFirst (database : Database) : Picture := ⟨database, []⟩

/-- The database as a connection that remembers it finds it. -/
def view (picture : Picture) (now : Database) : Database :=
  let isSeen := fun table => picture.seen.contains table
  let old := picture.database
  { old with
    saved := old.saved.renewed (isSeen .saved) now.saved (.unreadable .saved)
    places := old.places.renewed (isSeen .places) now.places (.table [])
    blocks := old.blocks.renewed (isSeen .blocks) now.blocks (.unreadable .blocks) }

theorem view_ofFirst (db : Database) : (ofFirst db).view db = db := by
  simp only [view, ofFirst, List.contains_nil]
  have same {ρ : Type} (slot lost : Slot ρ) : slot.renewed false slot lost = slot := by
    cases slot <;> rfl
  simp only [same]

end Picture

/-- A table after a change, of which only what the change has touched is written. -/
def Slot.written {ρ : Type} [DecidableEq ρ] (before after now : Slot ρ) : Slot ρ :=
  if after = before then now else after

/-- What a file holds after a change from one database to another, when it held something else than
the change was made to. -/
def written (before after now : Database) : Database :=
  { after with
    saved := before.saved.written after.saved now.saved
    places := before.places.written after.places now.places
    blocks := before.blocks.written after.blocks now.blocks }

theorem written_self (before after : Database) : written before after before = after := by
  have same {ρ : Type} [DecidableEq ρ] (a b : Slot ρ) : a.written b a = b := by
    unfold Slot.written
    split <;> simp_all
  simp only [written, same]

/-! ## Versions -/

/-- What tells the states of a file apart. -/
structure Version where
  /-- How often it has been changed since it was blank. -/
  changes : Nat
  /-- How many trees it has had room for. -/
  room : Nat
  /-- How many trees it holds. -/
  trees : Nat
  deriving DecidableEq, Repr

/-- The version of a file that is no database or blank. -/
def Version.blank : Version := ⟨0, 0, 0⟩

/-- How many trees what stands under a name takes, of which its own columns take some. -/
def Slot.trees {ρ : Type} (own : Nat) : Slot ρ → Nat
  | absent => 0
  | alien other => if other.isView then 0 else 1
  | table _ => own

/-- How many trees a database takes: one for each table and each index, and one for their names. An
index comes with the table of saved answers. -/
def trees (db : Database) : Nat :=
  1 + db.saved.trees 2 + db.places.trees 1 + db.blocks.trees 1 + db.indexes.length
    + db.others.countP (!·.isView)

/-- Two databases have the same trees under the same names, and the same trigger. -/
def hasSameNames (a b : Database) : Bool :=
  let names := fun (db : Database) =>
    (db.saved.trees 2, db.places.trees 2, db.blocks.trees 2, db.indexes, db.others.map (·.name),
      db.trigger)
  names a == names b

end Gazetteer.Database
