/-
Gazetteer.Store.Relational — a store that keeps its places in a location database.

Every operation takes one connection from the store's pool, runs one script
with it and gives it back; a connection whose write-back failed is closed
instead. An operation that gets no connection does nothing. A lookup never
fails: it gives a notice and finds nothing. A store that cannot be opened closes
the connection that it tried.
-/
import Gazetteer.Store.Script
import Gazetteer.World

namespace Gazetteer.Store

open Gazetteer.Database

structure Options where
  /-- Saved answers are read, and found locations are saved. -/
  persists : Bool
  /-- How many address numbers are remembered. -/
  encodingCacheSize : Nat
  limits : Pool.Limits
  deriving DecidableEq, Repr

/-- Answers are saved, and ten thousand address numbers are remembered. -/
def Options.standard : Options := ⟨true, 10000, .standard⟩

/-- A store on a location database. -/
structure Relational where
  pool : Pool
  persists : Bool
  encodings : RecencyCache String Address.V4

namespace Relational

/-- A store that has not touched its database yet. -/
def prepare (path : String) (options : Options) : Except ConfigError Relational :=
  if path.isEmpty then .error .missingDatasource
  else if options.limits.maxConnections = 0 then .error (.invalidPoolSize 0)
  else do
    let encodings ← RecencyCache.create options.encodingCacheSize
    return ⟨.new path options.limits, options.persists, encodings⟩

/-- What a script sees of a connection that comes to its database: nothing if there is no such
file. -/
def desk? (s : Relational) (w : World) (draft : Option Draft) (a : Approach) : Option Desk :=
  a.sheet?.map fun sheet =>
    { sheet, draft, encodings := s.encodings, access := a.access, contact := .none
      faults := w.faults, notices := [] }

/-- Run a script with a connection. -/
def talk {α : Type} (s : Relational) (w : World) (slot : Pool.Slot) (script : Script α)
    (lost : α) : α × Pool.Slot × Relational × World :=
  let approach := w.disk.approach slot.connection.handle
  match s.desk? w slot.connection.draft approach with
  | none => (lost, slot, s, w)
  | some desk =>
    let (result, desk) := script.run desk
    let (disk, handle) :=
      approach.finish (w.disk, slot.connection.handle) desk.contact desk.sheet
    let connection := { slot.connection with handle, draft := desk.draft }
    (result, { slot with connection }, { s with encodings := desk.encodings },
      { w with disk, faults := desk.faults }.tell desk.notices)

/-- Take a connection, run a script with it, and give the connection back, or close it if the
result asks for that. -/
def perform {α : Type} (s : Relational) (w : World) (script : Script (Except StoreError α))
    (closes : α → Bool) : Except StoreError α × Relational × World :=
  match w.acquire s.pool with
  | (.error cause, pool, w) => (.error (.pool cause), { s with pool }, w)
  | (.ok slot, pool, w) =>
    let (result, slot, s, w) := { s with pool }.talk w slot script (.error .query)
    let isClosed := match result with
      | .ok value => closes value
      | .error _ => false
    let (pool, w) := if isClosed then w.discard s.pool slot else w.release s.pool slot
    (result, { s with pool }, w)

/-- Perform a script whose connection always goes back. -/
def performAndKeep {α : Type} (s : Relational) (w : World) (script : Script (Except StoreError α)) :
    Except StoreError α × Relational × World :=
  s.perform w script fun _ => false

/-! ## Operations -/

/-- Look an address text up. -/
def resolve (s : Relational) (w : World) (address : String) :
    Option Resolved × Relational × World :=
  match s.perform w (Script.lookup s.persists address) fun found =>
      found.any (·.writeBack.isFailed) with
  | (.ok found, s, w) => (found, s, w)
  | (.error (.pool _), s, w) => (none, s, w.tell [.noConnection])
  | (.error _, s, w) => (none, s, w.tell [.unreadableDatabase])

/-- Make the tables and indexes that are missing. -/
def createTables (s : Relational) (w : World) : Except StoreError Unit × Relational × World :=
  s.performAndKeep w Script.createTables

/-- Write the record of a place. -/
def putPlace (s : Relational) (w : World) (place : Place) :
    Except StoreError Unit × Relational × World :=
  s.performAndKeep w (Script.all [.putPlace place])

/-- Write the rows of a block for a place. -/
def addBlock (s : Relational) (w : World) (block : String) (place : Int) :
    Except StoreError Unit × Relational × World :=
  match Address.Range.ofBlock? block with
  | none => (.error (.invalidBlock block), s, w)
  | some range => s.performAndKeep w (Script.addBlock (Address.BlockRow.ofRange block place range))

/-- The world after the store is gone, and its idle connections with it. -/
def close (s : Relational) (w : World) : Relational × World :=
  ({ s with pool := { s.pool with idle := [] } }, w.closeAll s.pool.idle)

/-! ## Opening -/

/-- Open a location database that has its three tables. -/
def openExisting (w : World) (path : String) (options : Options) :
    Except ConfigError Relational × World :=
  match prepare path options with
  | .error cause => (.error cause, w)
  | .ok s =>
    match s.performAndKeep w (Script.firstMissing [.saved, .blocks, .places]) with
    | (.error _, s, w) => (.error (.cannotOpen path), w.closeAll s.pool.idle)
    | (.ok (some table), s, w) => (.error (.missingTable path table.name), w.closeAll s.pool.idle)
    | (.ok none, s, w) => (.ok s, w)

/-- Open a location database and make the tables that it lacks. -/
def create (w : World) (path : String) (options : Options) :
    Except ConfigError Relational × World :=
  match prepare path options with
  | .error cause => (.error cause, w)
  | .ok s =>
    match s.createTables w with
    | (.error _, s, w) => (.error (.cannotOpen path), w.closeAll s.pool.idle)
    | (.ok _, s, w) => (.ok s, w)

end Relational

end Gazetteer.Store
