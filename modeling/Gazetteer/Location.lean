/-
Gazetteer.Location — where an address is, and what became of the answer.

A location keeps the address text that was asked for, exactly as it was asked.
A location with neither a country nor a region is the sentinel for an address
that was looked up and not found.
-/
import Gazetteer.Error

namespace Gazetteer

/-- Where an address is. -/
structure Location where
  country : String
  /-- The first-level region; a saved answer has what its row says in that place. -/
  region : String
  /-- The text that was asked for. -/
  address : String
  deriving DecidableEq, Repr

/-- The sentinel for an address that was not found. -/
def Location.unknown (address : String) : Location := ⟨"", "", address⟩

/-- A location says nothing about its address. -/
def Location.isUnknown (l : Location) : Bool := l.country.isEmpty && l.region.isEmpty

/-- What became of a found location in the table of saved answers. -/
inductive WriteBack where
  /-- It was read from that table. -/
  | loaded
  /-- It was written there. -/
  | persisted
  /-- Another lookup wrote there first. -/
  | alreadyPresent
  /-- Nothing is written back. -/
  | disabled
  /-- It could not be written; the location is good all the same. -/
  | failed (cause : StoreError)
  deriving DecidableEq, Repr

/-- The write-back failed. -/
def WriteBack.isFailed : WriteBack → Bool
  | failed _ => true
  | _ => false

/-- The answer of a store that found a location. -/
structure Resolved where
  location : Location
  writeBack : WriteBack
  deriving DecidableEq, Repr

theorem Location.isUnknown_unknown (address : String) :
    (Location.unknown address).isUnknown = true := rfl

end Gazetteer
