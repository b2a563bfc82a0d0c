/-
Gazetteer.Database.Snapshot — a location database as JSON.

A snapshot is an object with one field for each table that has its columns. A
table is an array of rows and a row an array of cells, in the order in which
they are listed; bytes are an array of numbers, and a floating-point number is
its decimal as text. Reading a snapshot inserts its rows one by one, so a row
that breaks a rule of its table is left out.
-/
import Gazetteer.Database.Edit
import Gazetteer.Json.Value

namespace Gazetteer.Database

def Cell.toJson : Cell → Json.Value
  | null => .null
  | integer value => .number (.whole value)
  | real value => .text (String.ofList (Decimal.writeDyadic value))
  | text value => .text value
  | bytes value => .array (value.map fun b => .number (.whole b.toNat))

def byteOfJson? : Json.Value → Option UInt8
  | .number (.whole n) => if 0 ≤ n ∧ n < 256 then some (UInt8.ofNat n.toNat) else none
  | _ => none

def Cell.ofJson? : Json.Value → Option Cell
  | .null => some null
  | .number (.whole n) => some (integer n)
  | .text value => some (text value)
  | .array values => (values.mapM byteOfJson?).map bytes
  | _ => none

def rowOfJson? : Json.Value → Option (List Cell)
  | .array cells => cells.mapM Cell.ofJson?
  | _ => none

/-- The table has its columns. -/
def isReady (db : Database) : Table → Bool
  | .saved => db.saved.rows?.isSome
  | .places => db.places.rows?.isSome
  | .blocks => db.blocks.rows?.isSome

def Table.all : List Table := [saved, places, blocks]

def toJson (db : Database) : Json.Value :=
  .object ((Table.all.filter db.isReady).foldl (fun fields table =>
    Json.setField table.name (.array ((db.rows table).map fun row => .array (row.map Cell.toJson)))
      fields) [])

/-- A database with a table as a field of a snapshot has it. -/
def readTable? (fields : Json.Fields) (db : Database) (table : Table) : Option Database :=
  match Json.field? table.name fields with
  | none => some db
  | some (.array rows) =>
    (rows.mapM rowOfJson?).map fun rows =>
      rows.foldl (fun db row => db.insertRow table row) (db.withTable table)
  | some _ => none

def ofJson? : Json.Value → Option Database
  | .object fields => Table.all.foldlM (readTable? fields) .empty
  | _ => none

end Gazetteer.Database
