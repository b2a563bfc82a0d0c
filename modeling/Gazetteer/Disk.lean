/-
Gazetteer.Disk — the files and folders of one working folder.

Names are looked up from the working folder. A file keeps its number when it is
renamed, so whoever holds a file open keeps it. A file holds bytes or a
database; a file of at most one byte is a database without tables, and any other
bytes are no database.

To read a file, every place on the way to it has to be a folder. To open a
database the name is read without going there: only its normal path counts, as
long as no part of the way leads through a file. Opening makes an empty file
where the name allows it, the folder exists and the place is free. Connections
that share a database by its name find the one that is open, whatever has become
of the name.
-/
import Gazetteer.Database.Draft
import Gazetteer.Database.Picture
import Gazetteer.Disk.Locator

namespace Gazetteer

/-- What a file holds. -/
inductive Content where
  | bytes (value : ByteArray)
  | database (value : Database)

namespace Content

/-- Nothing has been written yet; a single byte counts as nothing. -/
def isBlank : Content → Bool
  | bytes value => value.size ≤ 1
  | database _ => false

/-- The database that a content is, if it is one. -/
def database? : Content → Option Database
  | bytes value => if value.size ≤ 1 then some .empty else none
  | database value => some value

/-- The database that a content is, if it is one that has been written. -/
def written? : Content → Option Database
  | bytes _ => none
  | database value => some value

/-- The first byte, if there is one; all databases that have been written begin with the same. -/
def firstByte? : Content → Option UInt8
  | bytes value => value[0]?
  | database _ => some 'S'.toUInt8

end Content

/-- A lock on a database. -/
inductive Lock where
  /-- Nobody else may finish a change. -/
  | read
  /-- Nobody else may write. -/
  | write
  /-- Nobody else may read or write. -/
  | all
  deriving DecidableEq, Repr

/-- What the connections to a database have in common. -/
structure Sheet where
  content : Content
  /-- An open transaction of this program holds the right to write. -/
  hasWriter : Bool

structure File where
  content : Content
  /-- What it is to those who use its log, once one of them has changed it. -/
  logged : Option Content
  /-- How many connections use its log. -/
  logUsers : Nat
  /-- How often it has been changed since it was blank, as its first page says. -/
  changes : Nat
  /-- How many trees it has had room for. -/
  room : Nat
  /-- An open transaction of this program holds the right to write. -/
  hasWriter : Bool

namespace File

/-- A file that nobody uses. -/
def ofContent (content : Content) : File := ⟨content, none, 0, 0, 0, false⟩

def version (file : File) : Database.Version :=
  match file.content with
  | .bytes _ => .blank
  | .database db => ⟨file.changes, file.room, db.trees⟩

/-- What a connection that uses the log, or one that does not, finds in the file. -/
def found (file : File) (usesLog : Bool) : Content :=
  if usesLog then file.logged.getD file.content else file.content

/-- The file changed to a database in a number of steps. A log keeps changes of rows away from the
first page. -/
def changed (file : File) (usesLog : Bool) (steps : Nat) (db : Database) : File :=
  let isCounted := !usesLog || !((file.found true).database?.any db.hasSameNames)
  let file := { file with
    changes := if isCounted then file.changes + steps else file.changes
    room := if file.room < db.trees then db.trees else file.room }
  if usesLog then { file with logged := some (.database db) }
  else { file with content := .database db }

end File

/-- By what connections find a database that they share. -/
inductive Key where
  /-- A name for databases in memory. -/
  | common (name : FileName)
  /-- A name in the system that keeps files in memory. -/
  | kept (name : FileName)
  | file (system : System) (path : Path)
  deriving DecidableEq, Repr

/-- A database that connections share. -/
structure Common where
  key : Key
  /-- The number of its file. -/
  file : Nat
  /-- How the first of them opened it. -/
  locator : Locator
  /-- How many connections to it are open. -/
  holders : Nat
  deriving DecidableEq, Repr

/-- What a connection remembers of a file. -/
structure Memory where
  /-- The version of the file when its first page was last read. -/
  version : Database.Version
  /-- What has been read of it; nothing of a file that was blank or no database. -/
  picture : Option Database.Picture
  deriving DecidableEq, Repr

/-- An open database. -/
structure Handle where
  /-- The number of its file. -/
  file : Nat
  /-- The path that it was opened by; a database in memory has none. -/
  path? : Option Path
  locator : Locator
  /-- By what others find it, if it is shared. -/
  key? : Option Key
  /-- It uses the log of the file. -/
  usesLog : Bool
  /-- What it remembers, once it has read. -/
  memory : Option Memory
  deriving DecidableEq, Repr

/-- Another program's connection that holds a lock. -/
structure Holder where
  handle : Handle
  /-- It holds none if the lock could not be had. -/
  lock : Option Lock
  /-- The folder that is the lock. -/
  folder? : Option Path
  /-- The journal that is there as long as the lock is held. -/
  journal? : Option Path

/-- The working folder. -/
structure Disk where
  folders : List Path
  /-- The number of the file under each name. -/
  names : List (Path × Nat)
  /-- The files, by number. -/
  files : List File
  /-- The shared databases that are open. -/
  commons : List Common
  /-- Who holds the lock of another program; only one does at a time. -/
  holder : Option Holder

namespace Disk

/-- An empty working folder. -/
def empty : Disk := ⟨[], [], [], [], none⟩

/-! ## Places -/

/-- The folder exists; the working folder, the folders around it and the root always do. -/
def hasFolder (disk : Disk) (path : Path) : Bool :=
  path == Path.working || path == Path.root || path.getLast? == some FileName.around
    || path ∈ disk.folders

def numberAt? (disk : Disk) (path : Path) : Option Nat := disk.names.lookup path

/-- A file stands at a path or on the way to it. -/
def isBehindFile (disk : Disk) (path : Path) : Bool :=
  disk.names.any fun entry => entry.1.isPrefixOf path

/-- A file may be made at a path: it is free, and its folder exists. -/
def isFree (disk : Disk) (path : Path) : Bool :=
  !disk.hasFolder path && (disk.numberAt? path).isNone && disk.hasFolder path.dropLast

/-- The path that a name leads to if every place on the way is a folder. -/
def resolve? (disk : Disk) (name : FileName) : Option Path :=
  if name.isEmpty || name.contains 0 || FileName.longest < name.length then none
  else (Path.steps name).foldlM step (Path.start name)
where
  /-- One step on from a folder. -/
  step (path : Path) (step : Path.Step) : Option Path :=
    if !disk.hasFolder path then none
    else match step with
      | .enter part =>
        if part.length ≤ FileName.longestPart then some (path.next step) else none
      | .stay | .leave => some (path.next step)

/-! ## Files -/

def file? (disk : Disk) (number : Nat) : Option File := disk.files[number]?

def setFile (disk : Disk) (number : Nat) (file : File) : Disk :=
  { disk with files := disk.files.set number file }

/-- The disk with one more file, and its number. -/
def addFile (disk : Disk) (file : File) : Nat × Disk :=
  (disk.files.length, { disk with files := disk.files ++ [file] })

def makeFile (disk : Disk) (path : Path) (content : Content) : Nat × Disk :=
  let (number, disk) := disk.addFile (.ofContent content)
  (number, { disk with names := (path, number) :: disk.names })

/-- A disk with one file under a name, and the folders on the way to it. -/
def ofFile (name : FileName) (content : Content) : Disk :=
  ({ empty with folders := (Path.stations name).dropLast }.makeFile (Path.normal name) content).2

/-- The bytes of a file that is not a database. -/
def bytes? (disk : Disk) (name : String) : Option ByteArray := do
  let name := FileName.ofText name
  let path ← disk.resolve? name
  if name.getLast? == some FileName.slash then none
  match (← disk.file? (← disk.numberAt? path)).content with
  | .bytes value => return value
  | .database _ => none

/-! ## Databases -/

/-- What follows the name of a database in that of its journal. -/
def journalEnding : FileName := FileName.ofText "-journal"

/-- What follows the name of a database in that of its log. -/
def logEnding : FileName := FileName.ofText "-wal"

/-- What follows the name of a database in that of the index of its log. -/
def indexEnding : FileName := FileName.ofText "-shm"

/-- What follows the name of a database in that of the folder that locks it. -/
def lockEnding : FileName := FileName.ofText ".lock"

/-- The greatest number of bytes in the path of a database or of its journal. -/
def longestPath : Nat := 512

/-- The path with something behind its last part. -/
def beside (path : Path) (ending : FileName) : Path :=
  path.dropLast ++ [path.getLast?.getD [] ++ ending]

/-- The path of a database name; it may leave places that do not exist, but not lead through a
file, nor be too long anywhere. -/
def databasePath? (disk : Disk) (name : FileName) : Option Path := do
  let path ← (Path.steps name).foldlM step (Path.start name)
  if path.size + journalEnding.length ≤ longestPath then some path else none
where
  /-- One step on. -/
  step (path : Path) (step : Path.Step) : Option Path :=
    match step with
    | .enter part =>
      if disk.isBehindFile path || (path.next step).size ≥ longestPath
        || (disk.hasFolder path && part.length > FileName.longestPart) then none
      else some (path.next step)
    | .stay | .leave => some (path.next step)

/-- The disk with a blank file that has no name, and its number. -/
def addBlank (disk : Disk) : Nat × Disk := disk.addFile (.ofContent (.bytes .empty))

/-- The file of a path, which is made if it is missing and may be made, as a database. -/
def openFile? (disk : Disk) (path : Path) (mayMake : Bool) : Option (Nat × Disk) :=
  match disk.numberAt? path with
  | some number => some (number, disk)
  | none =>
    if mayMake && disk.isFree path then some (disk.makeFile path (.bytes .empty)) else none

/-- One more connection to the shared database of a key, which is `make` as the first opens it. If
connections share what they have read, they work as the first was opened. -/
def join (disk : Disk) (key : Key) (path? : Option Path) (locator : Locator)
    (make : Disk → Option (Nat × Disk)) : Option (Handle × Disk) :=
  match disk.commons.find? (·.key == key) with
  | some common =>
    let locator := if locator.isShared then common.locator else locator
    some (⟨common.file, path?, locator, some key, false, none⟩,
      { disk with commons := disk.commons.map fun c =>
        if c.key == key then { c with holders := c.holders + 1 } else c })
  | none => (make disk).map fun (number, disk) =>
    (⟨number, path?, locator, some key, false, none⟩,
      { disk with commons := ⟨key, number, locator, 1⟩ :: disk.commons })

/-- One connection less to the shared database of a key, which ends with the last of them. -/
def part (disk : Disk) (key : Key) : Disk :=
  { disk with commons := disk.commons.filterMap fun c =>
      if c.key != key then some c
      else if c.holders ≤ 1 then none
      else some { c with holders := c.holders - 1 } }

def openDatabase (disk : Disk) (name : String) : Option (Handle × Disk) := do
  let locator ← Locator.ofName? name
  match locator.home with
  | .own =>
    let (number, disk) := disk.addBlank
    return (⟨number, none, locator, none, false, none⟩, disk)
  | .common name => disk.join (.common name) none locator fun disk => some disk.addBlank
  | .kept name => disk.join (.kept name) none locator fun disk => some disk.addBlank
  | .file name =>
    let path ← disk.databasePath? name
    if locator.isShared then
      disk.join (.file locator.system path) (some path) locator fun disk =>
        disk.openFile? path locator.mayMake
    else
      let (number, disk) ← disk.openFile? path locator.mayMake
      return (⟨number, some path, locator, none, false, none⟩, disk)

end Disk

end Gazetteer
