/-
Gazetteer.Database.Draft — the rows that an open transaction has written.

A transaction keeps what it writes to itself. Its own reads see its rows after
those of the database; committing appends them to the database in the order in
which they were written, and rolling back forgets them. The lists of a draft
stand newest first, so that one more row costs the same however many there are.
-/
import Gazetteer.Database.Query

namespace Gazetteer.Database

/-- What an open transaction has written, the newest row first. -/
structure Draft where
  /-- The transaction holds the right to write. -/
  isWriting : Bool
  saved : List Saved
  blocks : List Block
  deriving DecidableEq, Repr

/-- A transaction that has written nothing. -/
def Draft.begin (isWriting : Bool) : Draft := ⟨isWriting, [], []⟩

/-- The transaction has written no rows. -/
def Draft.isEmpty (draft : Draft) : Bool := draft.saved.isEmpty && draft.blocks.isEmpty

/-- A table with more rows at its end; where there is no such table nothing changes. -/
def Slot.append {ρ : Type} (slot : Slot ρ) (rows : List ρ) : Slot ρ :=
  match slot with
  | table old => table (old ++ rows)
  | other => other

/-- The database with the rows of a draft written. -/
def withDraft (db : Database) (draft : Draft) : Database :=
  { db with
    saved := db.saved.append draft.saved.reverse
    blocks := db.blocks.append draft.blocks.reverse }

theorem Slot.append_nil {ρ : Type} (slot : Slot ρ) : slot.append [] = slot := by
  cases slot <;> simp [Slot.append]

theorem withDraft_begin (db : Database) (isWriting : Bool) :
    db.withDraft (.begin isWriting) = db := by
  simp [withDraft, Draft.begin, Slot.append_nil]

end Gazetteer.Database
