/-
Gazetteer.Database.Edit — what other programs do to a location database.

They insert single rows, which have to keep the rules of the table (a key once,
no null where none is allowed) and are dropped otherwise; they delete rows and
drop tables, and they make tables or views of their own, under the three names
or others. Such a table has one column, which keeps any cell. Names of tables
are the same in any case. `listing` lists a table as cells.
-/
import Gazetteer.Database.Tables

namespace Gazetteer.Database

/-- The table of a name in any case. -/
def Table.ofName? (name : String) : Option Table :=
  [Table.saved, .places, .blocks].find? fun table => table.name == name.toLower

/-- A row added to a table that has its columns. -/
def Slot.add {ρ : Type} (row : ρ) : Slot ρ → Slot ρ
  | table rows => table (rows ++ [row])
  | other => other

/-! ## Single rows -/

/-- Insert a saved answer; an address that is not null may stand there once, and a trigger keeps
every such row out. A null address is never found there already: if another program inserts the
same answer first, both rows stay. -/
def insertSaved (row : Saved) (db : Database) : Database :=
  match db.saved.rows?, db.trigger with
  | some rows, none =>
    if row.address != .null && rows.any fun old => old.address == row.address then db
    else { db with saved := db.saved.add row }
  | some _, some .race =>
    if row.address == .null then { db with saved := (db.saved.add row).add row } else db
  | _, _ => db

/-- The number of a new place: the one given, or for null the one after the greatest, the first
being one. -/
def newNumber? (places : List Place) (cell : Cell) : Option Int :=
  match cell.asInteger with
  | .integer n => some n
  | .null => some ((places.map (·.number)).max?.getD 0 + 1)
  | .real _ | .text _ | .bytes _ => none

/-- Insert the record of a place; a number may stand there once. -/
def insertPlace (number country region city : Cell) (db : Database) : Database :=
  match db.places.rows? with
  | none => db
  | some places =>
    match newNumber? places number with
    | none => db
    | some n =>
      if places.any fun p => p.number == n then db
      else { db with places := db.places.add ⟨n, country, region, city⟩ }

/-- Insert a block; only its place may be null. -/
def insertBlock (row : Block) (db : Database) : Database :=
  if row.block == .null || row.area == .null || row.first == .null || row.last == .null then db
  else { db with blocks := db.blocks.add row }

/-- Insert a row of cells in the order of the columns. -/
def insertRow (table : Table) (cells : List Cell) (db : Database) : Database :=
  match table, cells with
  | .saved, [address, country, region] =>
    db.insertSaved ⟨address.asText, country.asText, region.asText⟩
  | .places, [number, country, region, city] =>
    db.insertPlace number country.asText region.asText city.asText
  | .blocks, [block, area, first, last, place] =>
    db.insertBlock
      ⟨block.asText, area.asText, first.asInteger, last.asInteger, place.asInteger⟩
  | _, _ => db

/-! ## Others -/

/-- A row inserted into a table that someone else has made; it has one cell. -/
def Other.insert (cells : List Cell) (other : Other) : Other :=
  match cells with
  | [cell] => if other.isView then other else { other with cells := other.cells ++ [cell] }
  | _ => other

/-- The table without its rows. -/
def Other.emptied (other : Other) : Other := { other with cells := [] }

/-- The rows of a table, in the order of insertion; a view has no such order. -/
def Other.rows (other : Other) : List (List Cell) :=
  if other.isView then [] else other.cells.map fun cell => [cell]

/-- A change to what someone else has made under the name of a table. -/
def Slot.onAlien {ρ : Type} (change : Other → Other) : Slot ρ → Slot ρ
  | alien other => alien (change other)
  | slot => slot

/-- A change to what someone else has made under a name. -/
def onOther (name : String) (change : Other → Other) (db : Database) : Database :=
  match Table.ofName? name with
  | some .saved => { db with saved := db.saved.onAlien change }
  | some .places => { db with places := db.places.onAlien change }
  | some .blocks => { db with blocks := db.blocks.onAlien change }
  | none =>
    { db with others := db.others.map fun other =>
        if other.isNamed name then change other else other }

/-- What someone else has made under a name, if it can be listed: answers are listed by address,
which it does not have. -/
def other? (db : Database) (name : String) : Option Other :=
  match Table.ofName? name with
  | some .saved => none
  | some .places => db.places.alien?
  | some .blocks => db.blocks.alien?
  | none => db.others.find? (·.isNamed name)

/-- Every row of a table is kept out by a trigger. -/
def isClosed (db : Database) (name : String) : Bool :=
  Table.ofName? name == some .saved && db.trigger.isSome

def insert (name : String) (cells : List Cell) (db : Database) : Database :=
  let db := if db.isClosed name then db else db.onOther name (.insert cells)
  match Table.ofName? name with
  | some table => db.insertRow table cells
  | none => db

/-! ## Whole tables -/

/-- A table without its rows. -/
def Slot.emptied {ρ : Type} : Slot ρ → Slot ρ
  | table _ => table []
  | other => other

def deleteRows (name : String) (db : Database) : Database :=
  let db := db.onOther name .emptied
  match Table.ofName? name with
  | some .saved => { db with saved := db.saved.emptied }
  | some .places => { db with places := db.places.emptied }
  | some .blocks => { db with blocks := db.blocks.emptied }
  | none => db

/-- A name with nothing under it; a view stays. -/
def Slot.dropped {ρ : Type} : Slot ρ → Slot ρ
  | alien other => if other.isView then alien other else absent
  | absent | table _ => absent

/-- Drop a table, with its trigger or its indexes. -/
def dropTable (table : Table) (db : Database) : Database :=
  match table with
  | .saved =>
    let saved := db.saved.dropped
    { db with saved, trigger := if saved.isAbsent then none else db.trigger }
  | .places => { db with places := db.places.dropped }
  | .blocks =>
    let blocks := db.blocks.dropped
    { db with blocks, indexes := if blocks.isAbsent then [] else db.indexes }

/-- Drop the table of a name; a view stays. -/
def drop (name : String) (db : Database) : Database :=
  match Table.ofName? name with
  | some table => db.dropTable table
  | none => { db with others := db.others.filter fun other => other.isView || !other.isNamed name }

/-- A name with something of another kind under it, if it was free. -/
def Slot.occupied {ρ : Type} (other : Other) : Slot ρ → Slot ρ
  | absent => alien other
  | slot => slot

/-- Make a table or view that has none of the columns, unless the name is taken. -/
def makeOther (name : String) (isView : Bool) (db : Database) : Database :=
  let other : Other := ⟨name, isView, []⟩
  match Table.ofName? name with
  | some .saved => { db with saved := db.saved.occupied other }
  | some .places => { db with places := db.places.occupied other }
  | some .blocks => { db with blocks := db.blocks.occupied other }
  | none =>
    if db.indexes.contains name.toLower || db.hasOther name then db
    else { db with others := other :: db.others }

/-- Put a trigger, or none, in the place of the one before; only a table has triggers. -/
def setTrigger (trigger : Option Trigger) (db : Database) : Database :=
  match db.saved with
  | .table _ => { db with trigger }
  | .alien other => if other.isView then db else { db with trigger }
  | .absent => db

/-! ## Listing -/

/-- The rows of one of the three tables as cells: saved answers by address, places by number,
blocks in the order of insertion. -/
def rows (db : Database) (table : Table) : List (List Cell) :=
  match table with
  | .saved =>
    (((db.saved.rows?.getD []).mergeSort fun a b => !b.address.less a.address).map
      fun row => [row.address, row.country, row.region])
  | .places =>
    (((db.places.rows?.getD []).mergeSort fun a b => a.number ≤ b.number).map
      fun row => [.integer row.number, row.country, row.region, row.city])
  | .blocks =>
    (db.blocks.rows?.getD []).map fun row => [row.block, row.area, row.first, row.last, row.place]

/-- The rows under a name, as far as they can be listed. -/
def listing (db : Database) (name : String) : List (List Cell) :=
  match db.other? name with
  | some other => other.rows
  | none => ((Table.ofName? name).map db.rows).getD []

end Gazetteer.Database
