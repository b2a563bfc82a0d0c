/-
Gazetteer.RecencyCache — a bounded cache that forgets what was used longest ago.

The cache is the list of its entries, the most recently used first, no key
twice. Reading an entry and writing one put it in front; writing a new key into
a full cache drops the last entry. Asking whether a key is present, counting
and a miss change nothing.
-/
import Gazetteer.Error

namespace Gazetteer

/-- A cache of at most `capacity` entries, the most recently used first. -/
structure RecencyCache (κ α : Type) where
  capacity : Nat
  entries : List (κ × α)
  deriving Repr

namespace RecencyCache

variable {κ α : Type} [DecidableEq κ]

/-- A cache without entries. -/
def empty (capacity : Nat) : RecencyCache κ α := ⟨capacity, []⟩

/-- A new cache; its capacity has to be positive. -/
def create (capacity : Nat) : Except ConfigError (RecencyCache κ α) :=
  if capacity = 0 then .error (.invalidCacheSize 0) else .ok (empty capacity)

/-- The entries of the other keys, in order. -/
def others (c : RecencyCache κ α) (key : κ) : List (κ × α) :=
  c.entries.filter fun entry => decide (entry.1 ≠ key)

/-- The value of a key, without using it. -/
def peek? (c : RecencyCache κ α) (key : κ) : Option α :=
  (c.entries.find? fun entry => decide (entry.1 = key)).map (·.2)

/-- The value of a key, which becomes the most recently used one. -/
def get (c : RecencyCache κ α) (key : κ) : Option α × RecencyCache κ α :=
  match c.peek? key with
  | none => (none, c)
  | some value => (some value, { c with entries := (key, value) :: c.others key })

/-- The cache with a value written under a key, which becomes the most recently used one. -/
def put (c : RecencyCache κ α) (key : κ) (value : α) : RecencyCache κ α :=
  { c with entries := ((key, value) :: c.others key).take c.capacity }

def contains (c : RecencyCache κ α) (key : κ) : Bool := (c.peek? key).isSome

/-- The number of entries. -/
def size (c : RecencyCache κ α) : Nat := c.entries.length

/-- The cache holds nothing. -/
def isEmpty (c : RecencyCache κ α) : Bool := c.entries.isEmpty

/-- The cache without its entries. -/
def clear (c : RecencyCache κ α) : RecencyCache κ α := { c with entries := [] }

end RecencyCache

end Gazetteer
