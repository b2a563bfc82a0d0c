/-
Gazetteer.Store.Choice — a store of any kind, and the store that settings ask for.

Whatever its kind, a store answers one address text with what it found and
what became of it, or with nothing; it never fails. Settings without a
datasource build no store. Their pool size bounds the connections of a
relational store, and their cache size is also that of its address numbers.
-/
import Gazetteer.Mmdb.Lookup
import Gazetteer.Service
import Gazetteer.Settings
import Gazetteer.Store.Fixed
import Gazetteer.Store.Relational

namespace Gazetteer

/-- A store of locations. -/
inductive Store where
  | relational (tables : Store.Relational)
  | maxMind (database : Mmdb.Database)
  | fixed (answers : Store.Fixed)

namespace Store

/-- Look an address text up. -/
def resolve (store : Store) (w : World) (address : String) : Option Resolved × Store × World :=
  match store with
  | relational tables =>
    let (found, tables, w) := tables.resolve w address
    (found, relational tables, w)
  | maxMind database =>
    let (found, notices) := database.resolve address
    (found, maxMind database, w.tell notices)
  | fixed answers =>
    let (found, answers) := answers.resolve address
    (found, fixed answers, w)

/-- Look an address text up in a store in its world. -/
def ask (address : String) (state : Store × World) : Option Resolved × Store × World :=
  state.1.resolve state.2 address

/-- The store and the world after it is gone. -/
def close (store : Store) (w : World) : Store × World :=
  match store with
  | relational tables =>
    let (tables, w) := tables.close w
    (relational tables, w)
  | other => (other, w)

/-- Open a MaxMind database from the bytes of a file. -/
def openBytes (name : String) (bytes? : Option ByteArray) : Except ConfigError Store :=
  match bytes?.bind Mmdb.Database.ofBytes? with
  | none => .error (.cannotOpen name)
  | some database => .ok (maxMind database)

/-- Open a MaxMind database file. -/
def openFile (w : World) (path : String) : Except ConfigError Store :=
  if path.isEmpty then .error .missingDatasource else openBytes path (w.disk.bytes? path)

def Options.ofSettings (settings : Settings) : Options where
  persists := settings.persists
  encodingCacheSize := settings.cacheSize
  limits := { Pool.Limits.standard with maxConnections := settings.poolSize }

def ofSettings (settings : Settings) (w : World) : Except ConfigError Store × World :=
  match settings.datasource with
  | none => (.error .missingDatasource, w)
  | some path =>
    match settings.resolver with
    | .relational =>
      let (result, w) := Relational.openExisting w path (.ofSettings settings)
      (result.map relational, w)
    | .maxMind => (openFile w path, w)

end Store

/-- The store that settings ask for, and a service in front of it. -/
def Service.ofSettings (settings : Settings) (w : World) :
    Except ConfigError (Store × Service) × World :=
  match Store.ofSettings settings w with
  | (.error cause, w) => (.error cause, w)
  | (.ok store, w) =>
    match Service.create settings.cacheSize settings.cacheEnabled with
    | .error cause => (.error cause, (store.close w).2)
    | .ok service => (.ok (store, service), w)

end Gazetteer
