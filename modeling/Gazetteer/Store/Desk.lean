/-
Gazetteer.Store.Desk — one connection at work, one statement at a time.

A desk is what a store's code sees while it holds a connection: the sheet that
the connection works on, the transaction that is open on it, and the cache of
address numbers. Every function here is one indivisible step.

A question needs a sheet that is a database and that nothing keeps from being
read. To write, a connection needs, besides, the right to: neither another
program nor another transaction may have it, and the file must not have been
opened for reading only. A transaction that begins immediately takes the right at
once (or nothing, if it may only read), another one with its first write; it is
given up by committing or rolling back. Whatever changes the database needs a
journal too, which a row that is dropped without a word does not, and stays only
if nobody keeps the change from being finished: rows when their transaction is
committed, anything else at once. A transaction that has the right to write
cannot be committed otherwise even if it has written nothing. `contact` keeps
what the connection has done so far. `faults` makes any statement fail for
reasons outside the database (a full disk, a read error); rolling back never
fails.
-/
import Gazetteer.Disk.Access
import Gazetteer.Pool
import Gazetteer.RecencyCache

namespace Gazetteer.Store

open Gazetteer.Database

/-- One connection at work. -/
structure Desk where
  sheet : Sheet
  /-- The open transaction. -/
  draft : Option Draft
  /-- The numbers of the addresses looked up last. -/
  encodings : RecencyCache String Address.V4
  /-- What the connection can do. -/
  access : Access
  contact : Contact
  /-- Whether each coming statement meets a fault; after the last of them none does. -/
  faults : List Bool
  notices : List Notice

/-- A statement that writes or that opens or ends a transaction. -/
inductive Command where
  /-- Begin a transaction that takes the right to write with its first write. -/
  | begin
  /-- Begin a transaction that takes the right to write at once if the connection has not only been
  opened for reading. -/
  | beginImmediate
  | commit
  | rollback
  /-- Write an answer into the table of saved answers, inside a transaction. -/
  | addSaved (location : Location)
  /-- Write one row of a block, inside a transaction. -/
  | addBlock (row : Address.BlockRow)
  /-- Write the record of a place, in place of the one of the same number. -/
  | putPlace (place : Place)
  /-- Make a table unless something stands under its name. -/
  | createTable (table : Table)
  /-- Make an index on the blocks unless it exists; no table or view may have its name. -/
  | createIndex (name : String)
  deriving DecidableEq, Repr

/-- What became of a command. -/
inductive Outcome where
  | done
  /-- A row with the same key is there already. -/
  | duplicate
  | failed
  deriving DecidableEq, Repr

namespace Desk

/-- The desk after the next statement has drawn its fault. -/
def draw (desk : Desk) : Bool × Desk :=
  match desk.faults with
  | [] => (false, desk)
  | fault :: faults => (fault, { desk with faults })

/-- The database, if it may be read. -/
def readable? (desk : Desk) : Option Database :=
  if desk.access.mayRead then desk.sheet.content.database? else none

/-- The connection may write: it holds the right to, or can take it. -/
def mayWrite (desk : Desk) : Bool :=
  desk.access.mayChange && desk.access.mayReserve
    && (!desk.sheet.hasWriter || desk.draft.any (·.isWriting))

/-- A journal can be kept. -/
def mayJournal (desk : Desk) : Bool :=
  desk.access.mayJournal && (!desk.access.isMoved || desk.sheet.content.isBlank)

/-- The connection can change the database. -/
def canChange (desk : Desk) : Bool := desk.mayWrite && desk.mayJournal

/-- The desk after a read, of the rows of some tables or of none. -/
def touch (desk : Desk) (tables : List Table) : Desk :=
  { desk with
    contact := { desk.contact with hasRead := true, seen := desk.contact.seen ++ tables } }

/-- The desk after a change of some tables has begun. -/
def alter (desk : Desk) (tables : List Table) : Desk :=
  let desk := desk.touch tables
  { desk with contact := { desk.contact with hasWritten := true } }

def store (desk : Desk) (db : Database) : Desk :=
  { desk with
    sheet := { desk.sheet with content := .database db }
    contact := { desk.contact with changes := desk.contact.changes + 1 } }

/-- The desk with rows added to the open transaction, which holds the right to write. -/
def write (desk : Desk) (draft : Draft) : Desk :=
  { desk with
    draft := some { draft with isWriting := true }
    sheet := { desk.sheet with hasWriter := true } }

def endTransaction (desk : Desk) : Desk :=
  match desk.draft with
  | some ⟨true, _, _⟩ =>
    { desk with draft := none, sheet := { desk.sheet with hasWriter := false } }
  | _ => { desk with draft := none }

/-- The database after the next statement has drawn its fault, unless it meets one. -/
def reach? (desk : Desk) : Option Database × Desk :=
  let (fault, desk) := desk.draw
  if fault then (none, desk) else (desk.readable?, desk.touch [])

/-- A question put to the database, as the open transaction sees it. -/
def ask (query : Query) (desk : Desk) : Except StoreError (Option Names) × Desk :=
  match desk.reach? with
  | (none, desk) => (.error .query, desk)
  | (some db, desk) =>
    let db := desk.draft.elim db db.withDraft
    (db.ask query, desk.touch (db.tablesFor query))

/-- Whether a table of exactly its name exists. -/
def hasTable (table : Table) (desk : Desk) : Except StoreError Bool × Desk :=
  match desk.reach? with
  | (none, desk) => (.error .query, desk)
  | (some db, desk) => (.ok (db.hasTable table), desk)

/-- Write an answer inside a transaction. -/
def addSaved (location : Location) (db : Database) (draft : Draft) (desk : Desk) :
    Outcome × Desk :=
  match db.saved.rows? with
  | none => (.failed, desk)
  | some rows =>
    match db.trigger with
    | some .reject => (.failed, desk)
    | some .race => if desk.mayJournal then (.duplicate, desk.alter [.saved]) else (.failed, desk)
    | some .ignore => (.done, desk.write draft)
    | none =>
      if (rows ++ draft.saved).any fun row => row.address == .text location.address then
        (.duplicate, desk)
      else if !desk.mayJournal then (.failed, desk)
      else
        let row : Saved := ⟨.text location.address, .text location.country, .text location.region⟩
        (.done, (desk.alter [.saved]).write { draft with saved := row :: draft.saved })

/-- Write one row of a block inside a transaction. -/
def addBlock (row : Address.BlockRow) (db : Database) (draft : Draft) (desk : Desk) :
    Outcome × Desk :=
  match db.blocks.rows? with
  | none => (.failed, desk)
  | some _ =>
    (.done, (desk.alter [.blocks]).write { draft with blocks := .ofRow row :: draft.blocks })

/-- A change of a table that is finished at once. -/
def change (table : Table) (db : Database) (desk : Desk) : Outcome × Desk :=
  if !desk.canChange then (.failed, desk)
  else if desk.access.mayFinish then (.done, (desk.alter [table]).store db)
  else (.failed, desk.alter [table])

/-- Finish the open transaction, be it with rows or without. -/
def commit (db : Database) (draft : Draft) (desk : Desk) : Outcome × Desk :=
  if draft.isWriting && !desk.access.mayFinish then (.failed, desk)
  else
    let desk := if draft.isEmpty then desk else desk.store (db.withDraft draft)
    (.done, desk.endTransaction)

/-- The effect of a command that meets no fault on a database that may be read. -/
def perform (command : Command) (db : Database) (desk : Desk) : Outcome × Desk :=
  match command, desk.draft with
  | .addSaved location, some draft =>
    if desk.mayWrite then desk.addSaved location db draft else (.failed, desk)
  | .addBlock row, some draft =>
    if desk.canChange then desk.addBlock row db draft else (.failed, desk)
  | .commit, some draft => desk.commit db draft
  | .beginImmediate, none =>
    if !desk.access.mayChange then (.done, { desk with draft := some (.begin false) })
    else if desk.mayWrite then (.done, desk.write (.begin true))
    else (.failed, desk)
  | .putPlace place, none =>
    match db.places.rows? with
    | none => (.failed, desk)
    | some rows => desk.change .places { db with places := .table (putPlace place rows) }
  | .createTable table, none =>
    if !db.lacks table then (.done, desk) else desk.change table (db.withTable table)
  | .createIndex name, none =>
    if db.hasOther name then (.failed, desk)
    else if name ∈ db.indexes then (.done, desk)
    else if db.blocks.rows?.isNone then (.failed, desk)
    else desk.change .blocks { db with indexes := name :: db.indexes }
  | _, _ => (.failed, desk)

def execute (command : Command) (desk : Desk) : Outcome × Desk :=
  match command with
  | .rollback => (.done, desk.endTransaction)
  | .begin =>
    let (fault, desk) := desk.draw
    if fault || desk.draft.isSome then (.failed, desk)
    else (.done, { desk with draft := some (.begin false) })
  | command =>
    match desk.reach? with
    | (none, desk) => (.failed, desk)
    | (some db, desk) => desk.perform command db

/-- The number of an address, from the cache or worked out and kept there. -/
def encode (address : String) (desk : Desk) : Address.V4 × Desk :=
  match desk.encodings.get address with
  | (some value, encodings) => (value, { desk with encodings })
  | (none, encodings) =>
    let value := Address.V4.encode address
    (value, { desk with encodings := encodings.put address value })

def tell (notice : Notice) (desk : Desk) : Desk :=
  { desk with notices := desk.notices ++ [notice] }

end Desk

end Gazetteer.Store
