/-
Gazetteer.Session.Shelf — things of one kind, by number and by name.

A thing gets its number when it is put on the shelf and keeps it. Any number of
names may lead to one thing; a name leads to what it was given to last.
-/
namespace Gazetteer.Session

/-- Things by number, some under names. -/
structure Shelf (α : Type) where
  things : List α
  /-- The number under each name, the name given last in front. -/
  names : List (String × Nat)

namespace Shelf

variable {α : Type}

/-- Nothing. -/
def empty : Shelf α := ⟨[], []⟩

/-- One more thing, and its number. -/
def add (shelf : Shelf α) (thing : α) : Nat × Shelf α :=
  (shelf.things.length, { shelf with things := shelf.things ++ [thing] })

/-- A name for a number; it leads nowhere else any more. -/
def name (shelf : Shelf α) (name : String) (number : Nat) : Shelf α :=
  { shelf with names := (name, number) :: shelf.names.filter fun entry => entry.1 != name }


def number? (shelf : Shelf α) (name : String) : Option Nat := shelf.names.lookup name

/-- The thing of a number. -/
def get? (shelf : Shelf α) (number : Nat) : Option α := shelf.things[number]?

def namedNumbers (shelf : Shelf α) : List Nat := shelf.names.map (·.2)

/-- The things that have a name. -/
def named (shelf : Shelf α) : List α := shelf.namedNumbers.filterMap shelf.get?

/-- Another thing in the place of that of a number. -/
def set (shelf : Shelf α) (number : Nat) (thing : α) : Shelf α :=
  { shelf with things := shelf.things.set number thing }

theorem get?_add (shelf : Shelf α) (thing : α) :
    (shelf.add thing).2.get? (shelf.add thing).1 = some thing := by
  simp [add, get?]

end Shelf

end Gazetteer.Session
