/-
Gazetteer.Database.Tables — the three tables of a location database.

`saved` holds the answers written back, keyed by address text. `places` holds
one record for each place number. `blocks` holds the ranges of addresses and
the place each belongs to. Any of them may be absent, or be a table or view of
that name made by someone else that has none of the columns. There may be other
tables and views, whose names no index can have. Rows stand in the order in which
they were inserted.
-/
import Gazetteer.Address.Block
import Gazetteer.Database.Cell

namespace Gazetteer.Database

/-- A saved answer. -/
structure Saved where
  address : Cell
  country : Cell
  region : Cell
  deriving DecidableEq, Repr

/-- The record of a place. -/
structure Place where
  number : Int
  country : Cell
  region : Cell
  city : Cell
  deriving DecidableEq, Repr

/-- A stored range of addresses. -/
structure Block where
  block : Cell
  area : Cell
  first : Cell
  last : Cell
  place : Cell
  deriving DecidableEq, Repr

/-- The stored form of a row. -/
def Block.ofRow (row : Address.BlockRow) : Block where
  block := .text row.block
  area := .text row.area
  first := .integer row.first.toNat
  last := .integer row.last.toNat
  place := .integer row.place

/-- A table or view of one column that someone else has made. -/
structure Other where
  /-- The name as it was spelled. -/
  name : String
  isView : Bool
  /-- What has been inserted, in order; nothing can be inserted into a view. -/
  cells : List Cell
  deriving DecidableEq, Repr

/-- What stands under the name of a table. -/
inductive Slot (ρ : Type) where
  | absent
  /-- Something without the columns of the table. -/
  | alien (other : Other)
  | table (rows : List ρ)
  deriving DecidableEq, Repr

/-- The tables that the library works with. -/
inductive Table where
  | saved
  | places
  | blocks
  deriving DecidableEq, Repr

def Table.name : Table → String
  | saved => "ip_location"
  | places => "locations"
  | blocks => "blocks"

/-- What happens when an answer is inserted into the table of saved answers. -/
inductive Trigger where
  /-- Every insertion fails. -/
  | reject
  /-- Every insertion finds its address inserted by another program. -/
  | race
  /-- Every insertion is dropped without a word. -/
  | ignore
  deriving DecidableEq, Repr

end Database

/-- A location database. -/
structure Database where
  saved : Database.Slot Database.Saved
  places : Database.Slot Database.Place
  blocks : Database.Slot Database.Block
  /-- The indexes on `blocks`. -/
  indexes : List String
  /-- The tables and views under other names. -/
  others : List Database.Other
  trigger : Option Database.Trigger
  deriving DecidableEq, Repr

namespace Database

/-- The database that an empty file is. -/
def empty : Database := ⟨.absent, .absent, .absent, [], [], none⟩

/-- The rows of a table, if it has its columns. -/
def Slot.rows? {ρ : Type} : Slot ρ → Option (List ρ)
  | table rows => some rows
  | absent | alien _ => none

/-- What someone else has made under the name. -/
def Slot.alien? {ρ : Type} : Slot ρ → Option Other
  | alien other => some other
  | absent | table _ => none

/-- Nothing stands under the name. -/
def Slot.isAbsent {ρ : Type} : Slot ρ → Bool
  | absent => true
  | alien _ | table _ => false

/-- A table, not a view, stands under the name, in this spelling. -/
def Slot.isTableSpelled {ρ : Type} (name : String) : Slot ρ → Bool
  | absent => false
  | alien other => !other.isView && other.name == name
  | table _ => true

/-- A table of exactly this name exists. -/
def hasTable (db : Database) : Table → Bool
  | .saved => db.saved.isTableSpelled Table.saved.name
  | .places => db.places.isTableSpelled Table.places.name
  | .blocks => db.blocks.isTableSpelled Table.blocks.name

/-- The other is known by a name, which may be spelled in any case. -/
def Other.isNamed (name : String) (other : Other) : Bool := other.name.toLower == name.toLower

/-- Another table or view has a name. -/
def hasOther (db : Database) (name : String) : Bool := db.others.any (·.isNamed name)

/-- The name of the index that ranges are looked up by. -/
def rangeIndex : String := "idx_blocks_range"

/-! ## Writing one record or table -/

/-- The places with one record written; it replaces the record of the same number. -/
def putPlace (place : Place) (places : List Place) : List Place :=
  places.filter (fun p => decide (p.number ≠ place.number)) ++ [place]

/-- Nothing stands under the name of a table. -/
def lacks (db : Database) : Table → Bool
  | .saved => db.saved.isAbsent
  | .places => db.places.isAbsent
  | .blocks => db.blocks.isAbsent

/-- The database with an empty table under its name. -/
def withTable (db : Database) : Table → Database
  | .saved => { db with saved := .table [] }
  | .places => { db with places := .table [] }
  | .blocks => { db with blocks := .table [] }

end Database

end Gazetteer
