/-
Gazetteer.RecencyCache.History — what a cache has been asked and has answered.

Every operation on a cache is a value, so that any sequence of them can be
carried out. The history of a cache lists the operations with their answers, in
order. It tells which keys have been used: those that were written, and those
that were read and found.
-/
import Gazetteer.RecencyCache

namespace Gazetteer.RecencyCache

/-- Something that a cache is asked to do. -/
inductive Operation (κ α : Type) where
  | put (key : κ) (value : α)
  | get (key : κ)
  | contains (key : κ)
  | size
  | isEmpty
  | capacity
  | clear
  deriving DecidableEq, Repr

/-- What a cache answers. -/
inductive Answer (α : Type) where
  | done
  | value (found : Option α)
  | truth (answer : Bool)
  | number (count : Nat)
  deriving DecidableEq, Repr

/-- Operations with their answers, in order. -/
abbrev History (κ α : Type) := List (Operation κ α × Answer α)

variable {κ α : Type} [DecidableEq κ]

/-- Carry out one operation. -/
def step (c : RecencyCache κ α) : Operation κ α → Answer α × RecencyCache κ α
  | .put key value => (.done, c.put key value)
  | .get key => let (found, c) := c.get key; (.value found, c)
  | .contains key => (.truth (c.contains key), c)
  | .size => (.number c.size, c)
  | .isEmpty => (.truth c.isEmpty, c)
  | .capacity => (.number c.capacity, c)
  | .clear => (.done, c.clear)

/-- Carry out some operations, one after another. -/
def run (c : RecencyCache κ α) : List (Operation κ α) → History κ α × RecencyCache κ α
  | [] => ([], c)
  | operation :: operations =>
    let (answer, c) := c.step operation
    let (history, c) := c.run operations
    ((operation, answer) :: history, c)

namespace History

/-- The key that an operation has used, in view of its answer. -/
def usedKey? : Operation κ α × Answer α → Option κ
  | (.put key _, _) => some key
  | (.get key, .value (some _)) => some key
  | _ => none

/-- The key and the value that an operation has written. -/
def written? : Operation κ α × Answer α → Option (κ × α)
  | (.put key value, _) => some (key, value)
  | _ => none

def isClear : Operation κ α × Answer α → Bool
  | (.clear, _) => true
  | _ => false

/-- What has happened since the cache was last cleared, latest first. -/
def sinceClear (h : History κ α) : History κ α := h.reverse.takeWhile fun entry => !isClear entry

/-- The keys that have been used, latest first. -/
def uses (h : History κ α) : List κ := h.reverse.filterMap usedKey?

/-- The keys that have been written since the cache was last cleared, latest first. -/
def written (h : History κ α) : List κ :=
  h.sinceClear.filterMap fun entry => (written? entry).map (·.1)

/-- The value that was written last under a key. -/
def lastValue? (h : History κ α) (key : κ) : Option α := (h.reverse.filterMap written?).lookup key

end History

end Gazetteer.RecencyCache
