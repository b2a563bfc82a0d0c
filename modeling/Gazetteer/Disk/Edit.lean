/-
Gazetteer.Disk.Edit — what other programs do to the working folder.

They write files and make and move folders, going by the places that exist, and
they change databases and lock them, going by the names of databases. What cannot
be done leaves everything as it is. Of all other programs only one holds a lock.
-/
import Gazetteer.Disk.Access

namespace Gazetteer.Disk

/-! ## Files and folders -/

/-- A name ends with a slash, so that only a folder can have it. -/
def endsOpen (name : FileName) : Bool := name.getLast? == some FileName.slash

/-- A file written over; the changes in a log, which were made to the old content, are no database
with the new one. -/
def overwritten (file : File) (value : ByteArray) : File :=
  { file with
    content := .bytes value
    logged := file.logged.map fun _ => unreadable
    changes := 0
    room := 0 }

/-- Write a file, over the old content if there is one. -/
def writeBytes (disk : Disk) (name : String) (value : ByteArray) : Disk :=
  let name := FileName.ofText name
  match disk.resolve? name with
  | none => disk
  | some path =>
    if endsOpen name then disk
    else match disk.numberAt? path with
      | some number =>
        match disk.file? number with
        | some file => disk.setFile number (overwritten file value)
        | none => disk
      | none => if disk.isFree path then (disk.makeFile path (.bytes value)).2 else disk

def makeFolder (disk : Disk) (name : String) : Disk :=
  match disk.resolve? (FileName.ofText name) with
  | none => disk
  | some path => if disk.isFree path then { disk with folders := path :: disk.folders } else disk

/-- The path that a name leads to if its last step enters something, which alone can be moved. -/
def movable? (disk : Disk) (name : FileName) : Option Path :=
  match (Path.steps name).getLast? with
  | some (.enter _) => disk.resolve? name
  | _ => none

/-- A path with one leading path put in the place of another. -/
def moved (source target path : Path) : Path :=
  if source.isPrefixOf path then target ++ path.drop source.length else path

/-- A folder holds nothing. -/
def isBare (disk : Disk) (path : Path) : Bool :=
  !((disk.folders ++ disk.names.map (·.1)).any fun other =>
    path.isPrefixOf other && other != path)

/-- What stands at one path can be moved to another: a file to a free place or onto a file, a
folder to a free place or onto a folder that holds nothing, but never into itself. -/
def mayMove (disk : Disk) (source target : Path) : Bool :=
  disk.hasFolder target.dropLast
    && if (disk.numberAt? source).isSome then !disk.hasFolder target
      else disk.hasFolder source && (disk.numberAt? target).isNone && disk.isBare target
        && !source.isPrefixOf target

/-- Rename a file or a folder, with everything in it. -/
def rename (disk : Disk) (name target : String) : Disk :=
  let name := FileName.ofText name
  let target := FileName.ofText target
  match disk.movable? name, disk.movable? target with
  | some source, some goal =>
    let isFile := (disk.numberAt? source).isSome
    if source == goal || !disk.mayMove source goal
      || (isFile && (endsOpen name || endsOpen target)) then disk
    else
      { disk with
        folders := (disk.folders.filter (· != goal)).map (moved source goal)
        names := (disk.names.filter (·.1 != goal)).map fun entry =>
          (moved source goal entry.1, entry.2) }
  | _, _ => disk

/-! ## Databases -/

/-- Open a database, look at it or change it, and close it. Nothing can be done with what is no
database or must not be read; a change that must not be made is left out. -/
def visit (disk : Disk) (name : String) (edit : Database → Database) : Option Database × Disk :=
  match disk.openDatabase name with
  | none => (none, disk)
  | some (handle, disk) =>
    let a := disk.approach handle
    match if a.mayRead then a.sheet? else none with
    | none => (none, a.disk.leave a.handle)
    | some sheet =>
      match sheet.content.database? with
      | none => (none, a.disk.leave a.handle)
      | some db =>
        let changed := edit db
        let access := a.access
        let begins := changed ≠ db ∧ access.mayChange ∧ access.mayReserve ∧ access.mayJournal
          ∧ (!access.isMoved ∨ sheet.content.isBlank)
        let finishes := begins ∧ access.mayFinish
        let contact : Contact := ⟨true, decide begins, if finishes then 1 else 0, []⟩
        let sheet := if finishes then { sheet with content := .database changed } else sheet
        let (disk, handle) := a.finish (disk, handle) contact sheet
        (some db, disk.leave handle)

/-- Change a database, which is made if it is missing. -/
def editDatabase (disk : Disk) (name : String) (edit : Database → Database) : Disk :=
  (disk.visit name edit).2

/-- Look at a database, which is made if it is missing. -/
def readDatabase (disk : Disk) (name : String) : Option Database × Disk := disk.visit name id

/-! ## Locks -/

/-- The lock that a connection comes by if it wants one. Who may only read keeps others from
finishing a change; a blank file is written to; and the system that keeps files in memory has no
lock that others may read under. -/
def lockFor? (a : Approach) (wanted : Lock) : Option Lock :=
  let access := a.access
  if !a.mayRead || (a.sheet?.bind (·.content.database?)).isNone then none
  else if !access.mayChange then some .read
  else if !access.mayReserve then none
  else if a.disk.isBlank a.handle && !access.mayJournal then none
  else if wanted == .all && !access.mayFinish then none
  else if a.handle.locator.system == .inMemory && !a.handle.locator.isShared then some .all
  else some wanted

/-- The path of the folder that is the lock of a connection. -/
def lockFolder? (handle : Handle) : Option Path :=
  if handle.locator.guard == .folder then handle.path?.map lockPath else none

/-- The path of the journal that a connection with a lock begins for a blank file. -/
def freshJournal? (disk : Disk) (handle : Handle) : Option Path :=
  (handle.path?.map (beside · journalEnding)).filter fun journal =>
    disk.isBlank handle && handle.locator.mayChange && disk.isFree journal

/-- The disk without the lock of another program. -/
def unlock (disk : Disk) : Disk :=
  match disk.holder with
  | none => disk
  | some holder =>
    let disk := { disk with
      folders := disk.folders.filter fun path =>
        !(some path == holder.folder? && disk.isBare path)
      names := disk.names.filter fun entry => some entry.1 != holder.journal?
      holder := none }
    disk.leave holder.handle

/-- The disk with a connection that holds a lock, or that has tried to. -/
def hold (disk : Disk) (handle : Handle) (lock : Option Lock) : Disk :=
  if lock.isNone then { disk with holder := some ⟨handle, none, none, none⟩ }
  else
    let folder? := lockFolder? handle
    let journal? := disk.freshJournal? handle
    let disk := { disk with folders := folder?.toList ++ disk.folders }
    let disk := journal?.elim disk fun path => (disk.makeFile path (.bytes ⟨#[0xd9, 0xd5]⟩)).2
    { disk with holder := some ⟨handle, lock, folder?, journal?⟩ }

/-- Let a connection hold a lock on a database, in the place of the one before, which is only let
go when the new one has been asked for. -/
def setLock (disk : Disk) (name : String) (wanted : Lock) : Disk :=
  match disk.openDatabase name with
  | none => disk
  | some (handle, disk) =>
    let a := disk.approach handle
    a.disk.unlock.hold a.handle (lockFor? a wanted)

end Gazetteer.Disk
