/-
Gazetteer.Mmdb.Lookup — the location that a MaxMind database gives an address.

The record of an address may hold a country, a city and a list of subdivisions,
each with names by language. The English name of the country has to be there;
the region is the English name of the city, or of the first subdivision, or
empty. A fault anywhere in the record means that nothing was found. Nothing is
ever written back.
-/
import Gazetteer.Mmdb.Tree
import Gazetteer.Location
import Gazetteer.Notice

namespace Gazetteer.Mmdb

/-- Names by language, in the order of the file. -/
abbrev Names := List (String × String)

/-- The English name; of several the last counts. -/
def english? (names : Names) : Option String := names.reverse.lookup "en"

/-- Something with names; a missing list of names is an empty one. -/
def named (s : Section) : Reader Names := fun pos =>
  (s.fields ["names"] (fun _ old => fill old s.textMap some) none pos).map
    fun (names, pos) => (names.getD [], pos)

/-- What a record says about an address. -/
structure Record where
  country : Option Names := none
  city : Option Names := none
  subdivisions : Option (List Names) := none

/-- Read a record. -/
def record (s : Section) : Reader Record :=
  s.fields ["country", "city", "subdivisions"] field {}
where
  /-- Read the field of a number. -/
  field (number : Nat) (r : Record) : Reader Record :=
    match number with
    | 0 => fill r.country (named s) fun v => { r with country := some v }
    | 1 => fill r.city (named s) fun v => { r with city := some v }
    | _ => fill r.subdivisions (s.list (named s)) fun v => { r with subdivisions := some v }

/-- The location that a record gives an address text. -/
def Record.location? (r : Record) (address : String) : Option Location := do
  let country ← r.country.bind english?
  let region := (r.city.bind english?).or ((r.subdivisions.bind List.head?).bind english?)
  return ⟨country, region.getD "", address⟩

def Database.find? (db : Database) (numeric : Address.Numeric) (address : String) :
    Option Location := do
  let (r, _) ← record db.data (← db.position? numeric)
  r.location? address

/-- Look an address text up, with the notices given on the way. -/
def Database.resolve (db : Database) (address : String) : Option Resolved × List Notice :=
  match Address.numeric? address with
  | none => (none, [.unreadableAddress])
  | some numeric => ((db.find? numeric address).map fun location => ⟨location, .disabled⟩, [])

end Gazetteer.Mmdb
