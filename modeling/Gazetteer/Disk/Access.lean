/-
Gazetteer.Disk.Access — how connections come to the databases of the working folder.

Before it reads, a connection looks at what guards its file and at what stands
beside it. A lock on the whole file keeps it away. A journal that nobody is
writing is what a change left behind that was never finished, so the connection
has to take the change back first and clear the journal away; one that begins
with a zero says nothing and stays. Where a log stands, changes go to the log
from then on: its users only keep each other from writing, and the rest of the
world from finishing a change. The last of them carries the log over into the
file and clears it away. A blank file needs neither, so what stands beside it is
cleared away unread.

To change the file a connection needs the right to write, which one connection
has at a time, and a journal; to finish the change nobody else may be reading. A
connection that takes its file never to change looks at nothing of all this.
-/
import Gazetteer.Disk

namespace Gazetteer

/-- What a connection can do with its file. -/
structure Access where
  mayRead : Bool
  /-- It was not opened for reading only. -/
  mayChange : Bool
  /-- No other program has the right to write. -/
  mayReserve : Bool
  /-- It can keep a journal while it changes the file. -/
  mayJournal : Bool
  /-- The file has been moved, so a journal can be kept only as long as it is blank. -/
  isMoved : Bool
  /-- Nobody keeps it from finishing a change. -/
  mayFinish : Bool
  deriving DecidableEq, Repr

/-- What a connection has done with its file. -/
structure Contact where
  hasRead : Bool
  /-- It has begun to change the file, whether the change has stayed or not. -/
  hasWritten : Bool
  /-- How many changes it has finished. -/
  changes : Nat
  /-- The tables whose rows it has read or changed. -/
  seen : List Database.Table
  deriving DecidableEq, Repr

/-- Nothing. -/
def Contact.none : Contact := ⟨false, false, 0, []⟩

/-- What a connection finds when it comes to read. -/
structure Approach where
  disk : Disk
  handle : Handle
  mayRead : Bool

namespace Disk

/-! ## Locks -/

/-- The lock that someone holds on the file of a connection by locking the file itself, as a user
of the log or not. -/
def fileLock? (disk : Disk) (handle : Handle) (usesLog : Bool) : Option Lock := do
  let holder ← disk.holder
  if holder.handle.file == handle.file && holder.handle.locator.guard == .file
    && holder.handle.usesLog == usesLog then holder.lock else none

/-- Someone has the right to write, as a user of the log or not. -/
def isReserved (disk : Disk) (handle : Handle) (usesLog : Bool) : Bool :=
  match disk.fileLock? handle usesLog with
  | some .write | some .all => true
  | some .read | none => false

/-- The one who holds a lock, if a connection shares what that one has read. -/
def pinner? (disk : Disk) (handle : Handle) : Option Holder :=
  disk.holder.filter fun holder =>
    handle.path?.isSome && handle.key?.isSome && holder.handle.key? == handle.key?
      && holder.lock.isSome

/-- How many users of the log of its file there are besides a connection. -/
def otherLogUsers (disk : Disk) (handle : Handle) : Nat :=
  ((disk.file? handle.file).elim 0 (·.logUsers)) - (if handle.usesLog then 1 else 0)

/-- Someone else reads the file of a connection and will go on to. -/
def hasReader (disk : Disk) (handle : Handle) : Bool :=
  (disk.fileLock? handle false).isSome || (disk.fileLock? handle true).isSome
    || 0 < disk.otherLogUsers handle

/-- The path of the folder that locks a database. -/
def lockPath (path : Path) : Path := beside path lockEnding

/-- A part of a path is short enough for a folder. -/
def fits (path : Path) : Bool := (path.getLast?.getD []).length ≤ FileName.longestPart

/-- A lock keeps a connection from reading; a user of the log has its place already. -/
def isBarred (disk : Disk) (handle : Handle) : Bool :=
  match handle.locator.guard, handle.path? with
  | .none, _ | .folder, none => false
  | .file, _ => !handle.usesLog && disk.fileLock? handle false == some .all
  | .folder, some path => !(disk.isFree (lockPath path) && fits (lockPath path))

/-! ## What stands beside a file -/

/-- What stands at a path. -/
inductive Standing where
  | nothing
  | folder
  | file (content : Content)

/-- What stands at a path; an empty file counts as nothing. -/
def standing (disk : Disk) (path : Path) : Standing :=
  if disk.hasFolder path then .folder
  else match (disk.numberAt? path).bind disk.file? with
    | none => .nothing
    | some file => if file.content.firstByte?.isNone then .nothing else .file file.content

/-- Something stands at a path. -/
def isTaken (disk : Disk) (path : Path) : Bool :=
  disk.hasFolder path || (disk.numberAt? path).isSome

def removeFile (disk : Disk) (path : Path) : Disk :=
  { disk with names := disk.names.filter (·.1 != path) }

/-- The file of a connection is blank. -/
def isBlank (disk : Disk) (handle : Handle) : Bool :=
  (disk.file? handle.file).all (·.content.isBlank)

/-- A connection knows that someone is at work on its file. One that locks by folders has locked it
itself by then and takes that for the work of another. -/
def sensesWriter (disk : Disk) (handle : Handle) (path : Path) : Bool :=
  match handle.locator.system with
  | .standard => disk.isReserved handle false
  | .folders => handle.locator.keepsLocks || disk.isTaken (lockPath path)
  | .unguarded | .inMemory => false

/-- The disk with the journal of a file looked at, or nothing if that fails. -/
def settleJournal (disk : Disk) (handle : Handle) (path : Path) : Option Disk :=
  let journal := beside path journalEnding
  match disk.standing journal with
  | .nothing => some disk
  | found =>
    if disk.sensesWriter handle path then some disk
    else if disk.isBlank handle then
      some (if handle.locator.mayChange || handle.locator.guard == .none then
        disk.removeFile journal else disk)
    else if !disk.isTaken path then none
    else match found with
      | .nothing => some disk
      | .folder => none
      | .file content =>
        if content.firstByte? == some 0 then some disk
        else if handle.locator.mayChange
          && !(handle.locator.guard == .file && disk.hasReader handle) then
          some (disk.removeFile journal)
        else none

/-- The disk with one user of a file's log more. -/
def addLogUser (disk : Disk) (number : Nat) : Disk :=
  match disk.file? number with
  | none => disk
  | some file => disk.setFile number { file with logUsers := file.logUsers + 1 }

/-- The disk and a connection with the log of a file looked at, or nothing if that fails. Only who
locks the file itself can use a log. -/
def settleLog (disk : Disk) (handle : Handle) (path : Path) : Option (Disk × Handle) :=
  let log := beside path logEnding
  match disk.standing log with
  | .nothing => some (disk, handle)
  | .folder => none
  | .file _ =>
    if disk.isBlank handle then some (disk.removeFile log, handle)
    else if handle.locator.guard == .file && disk.isTaken path then
      some (disk.addLogUser handle.file, { handle with usesLog := true })
    else none

/-! ## Coming to read -/

/-- What is remembered after a look at a file: what has been read of it if its version is still the
same, or else its first page. A blank file has none, so the version read before stays. -/
def renewed (memory : Option Memory) (file : File) : Memory :=
  let old := memory.elim Database.Version.blank (·.version)
  match memory.filter (·.version == file.version) with
  | some memory => memory
  | none =>
    if file.content.isBlank then ⟨old, none⟩
    else ⟨file.version, file.content.written?.map .ofFirst⟩

/-- A connection that may read looks at its file. A user of the log, which tells of every change,
remembers nothing; a connection that takes its file never to change looks only once. -/
def look (disk : Disk) (handle : Handle) : Handle :=
  if handle.usesLog then { handle with memory := none }
  else if handle.locator.isFrozen && handle.memory.isSome then handle
  else { handle with memory := (disk.file? handle.file).map (renewed handle.memory) }

/-- A connection comes to read. -/
def approach (disk : Disk) (handle : Handle) : Approach :=
  match disk.pinner? handle with
  | some holder => ⟨disk, handle, holder.lock != some .all⟩
  | none =>
    if disk.isBarred handle then ⟨disk, handle, false⟩
    else match handle.path? with
      | none => ⟨disk, disk.look handle, true⟩
      | some path =>
        if handle.usesLog || handle.locator.isFrozen then ⟨disk, disk.look handle, true⟩
        else match disk.settleJournal handle path with
          | none => ⟨disk, handle, false⟩
          | some disk =>
            match disk.settleLog handle path with
            | none => ⟨disk, handle, false⟩
            | some (disk, handle) => ⟨disk, disk.look handle, true⟩

/-- A journal can be kept for the file of a connection: the name of the journal is not taken by a
folder and not too long, and something stands where the file was opened. -/
def mayJournal (disk : Disk) (path : Path) : Bool :=
  let journal := beside path journalEnding
  !disk.hasFolder journal && fits journal && disk.isTaken path

/-- The system sees that the file of a connection does not stand where it was opened. -/
def isMoved (disk : Disk) (handle : Handle) (path : Path) : Bool :=
  handle.locator.system == .standard && disk.numberAt? path != some handle.file

/-- A connection uses a log that it can only read, for a folder stands in the place of the index. -/
def hasStuckLog (disk : Disk) (handle : Handle) : Bool :=
  handle.usesLog && handle.path?.any fun path => disk.hasFolder (beside path indexEnding)

/-- What a connection can do with its file. -/
def access (disk : Disk) (handle : Handle) (mayRead : Bool) : Access where
  mayRead
  mayChange := handle.locator.mayChange
  mayReserve := match disk.pinner? handle with
    | some holder => holder.lock == some .read
    | none =>
      handle.locator.guard != .file
        || !(disk.hasStuckLog handle || disk.isReserved handle handle.usesLog)
  mayJournal := handle.usesLog || handle.path?.all disk.mayJournal
  isMoved := !handle.usesLog && handle.path?.any (disk.isMoved handle)
  mayFinish := handle.usesLog || handle.locator.guard != .file || !disk.hasReader handle

/-- A content that is neither blank nor a database. -/
def unreadable : Content := .bytes ⟨#[0, 0]⟩

/-- What a connection finds in a content that remembers something of it. One that remembers a blank
file takes a database of the same version for nothing that it could read. -/
def recalled (memory : Memory) (content : Content) : Content :=
  match memory.picture, content with
  | some picture, content => .database (picture.view (content.database?.getD .empty))
  | none, .database _ => unreadable
  | none, .bytes value => .bytes value

/-- What a connection works on: what it remembers, or what one remembers with whom it shares that,
or else the file. -/
def sheet? (disk : Disk) (handle : Handle) : Option Sheet :=
  (disk.file? handle.file).map fun file =>
    let content := file.found handle.usesLog
    let memory := match disk.pinner? handle with
      | some holder => holder.handle.memory
      | none => handle.memory
    ⟨memory.elim content (recalled · content), file.hasWriter⟩

end Disk

namespace Approach

/-- What the connection can do with its file. -/
def access (a : Approach) : Access := a.disk.access a.handle a.mayRead

/-- What the connection works on. -/
def sheet? (a : Approach) : Option Sheet := a.disk.sheet? a.handle

/-- The connection with what it remembers after it has worked on a sheet, by which its file has
become what it is now. -/
def remembering (a : Approach) (contact : Contact) (sheet : Sheet) (file : File) : Handle :=
  let memory := if a.handle.usesLog then none
    else a.handle.memory.map fun memory =>
      let seen := memory.picture.elim [] (·.seen) ++ contact.seen
      ⟨if contact.changes = 0 then memory.version else file.version,
        sheet.content.written?.map fun db => ⟨db, seen⟩⟩
  { a.handle with memory }

/-- The disk without the journal of a change that is over. -/
def withoutJournal (a : Approach) : Disk :=
  match a.handle.path? with
  | none => a.disk
  | some path =>
    if a.handle.usesLog then a.disk else a.disk.removeFile (Disk.beside path Disk.journalEnding)

/-- The disk and the connection after work on a sheet. A connection that has not even read has left
everything as it was before it came. -/
def finish (a : Approach) (before : Disk × Handle) (contact : Contact) (sheet : Sheet) :
    Disk × Handle :=
  if !contact.hasRead then before
  else
    let disk := if contact.hasWritten then a.withoutJournal else a.disk
    match disk.file? a.handle.file with
    | none => (disk, a.handle)
    | some file =>
      let file := { file with hasWriter := sheet.hasWriter }
      let file := match sheet.content with
        | .database db =>
          let before := (a.sheet?.bind (·.content.database?)).getD .empty
          let now := ((file.found a.handle.usesLog).database?).getD .empty
          if contact.changes = 0 then file
          else file.changed a.handle.usesLog contact.changes (Database.written before db now)
        | .bytes _ => file
      (disk.setFile a.handle.file file, a.remembering contact sheet file)

end Approach

namespace Disk

/-! ## Closing -/

/-- A connection carries the log over into its file when it closes as the last that reads it, if the
file is still where it was opened. -/
def endsLog (disk : Disk) (handle : Handle) (path : Path) : Bool :=
  handle.locator.mayChange && !disk.hasReader handle
    && (disk.isBlank handle || disk.numberAt? path == some handle.file)

/-- The disk after a user of a file's log is gone. -/
def leaveLog (disk : Disk) (handle : Handle) : Disk :=
  match handle.path?, disk.file? handle.file with
  | some path, some file =>
    if disk.endsLog handle path then
      (disk.removeFile (beside path logEnding)).setFile handle.file
        { file with content := file.logged.getD file.content, logged := none, logUsers := 0 }
    else disk.setFile handle.file { file with logUsers := file.logUsers - 1 }
  | _, _ => disk

/-- The disk after a connection is closed. -/
def leave (disk : Disk) (handle : Handle) : Disk :=
  let disk := if handle.usesLog then disk.leaveLog handle else disk
  handle.key?.elim disk disk.part

end Disk

end Gazetteer
