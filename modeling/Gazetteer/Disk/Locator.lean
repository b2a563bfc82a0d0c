/-
Gazetteer.Disk.Locator — what the name of a database says.

A name that begins with `file:` is a locator: after an authority, which is empty
or `localhost`, come the name of a file, options behind a question mark, and a
fragment behind a number sign, which says nothing. In name and options a percent
sign with two hexadecimal digits stands for a byte; the byte zero ends the piece
it stands in. An option is a name and a value with an equals sign between them,
and ampersands part the options.

Any other name is that of a file. The empty name and `:memory:` are no file:
each connection gets a database of its own.
-/
import Gazetteer.Disk.Path

namespace Gazetteer

/-- Where a database is. -/
inductive Home where
  | file (name : FileName)
  /-- In memory, for one connection only. -/
  | own
  /-- In memory, for all connections that share this name. -/
  | common (name : FileName)
  /-- In memory, for all connections to the system that keeps files there. -/
  | kept (name : FileName)
  deriving DecidableEq, Repr

/-- Who reads and writes the file. -/
inductive System where
  | standard
  /-- A system that locks a file by a folder beside it. -/
  | folders
  /-- A system that knows no locks. -/
  | unguarded
  /-- A system that keeps files in memory. -/
  | inMemory
  deriving DecidableEq, Repr

def System.ofName? (name : FileName) : Option System :=
  [("unix", standard), ("unix-excl", standard), ("unix-none", unguarded),
    ("unix-dotfile", folders), ("memdb", inMemory)].findSome?
    fun (text, system) => if name == FileName.ofText text then some system else none

/-- What the name of a database says. -/
structure Locator where
  home : Home
  /-- A missing file is made. -/
  mayMake : Bool
  /-- The database may be changed. -/
  mayChange : Bool
  system : System
  /-- Locks are set, and those of others are heeded. -/
  keepsLocks : Bool
  /-- The file is taken never to change. -/
  isFrozen : Bool
  /-- Connections share what they have read. -/
  isShared : Bool
  deriving DecidableEq, Repr

/-- What guards a database against others. -/
inductive Guard where
  | none
  /-- Locks on the file itself. -/
  | file
  /-- A folder beside the file, which stands for a lock of any kind. -/
  | folder
  deriving DecidableEq, Repr

namespace Locator

/-! ## Pieces of a locator -/

/-- A byte of a locator; an escaped one parts nothing. -/
structure Sign where
  byte : UInt8
  isEscaped : Bool
  deriving DecidableEq, Repr

/-- The value of a hexadecimal digit. -/
def hexValue? (b : UInt8) : Option UInt8 :=
  if 0x30 ≤ b && b ≤ 0x39 then some (b - 0x30)
  else if 0x41 ≤ b && b ≤ 0x46 then some (b - 0x37)
  else if 0x61 ≤ b && b ≤ 0x66 then some (b - 0x57)
  else none

/-- The bytes of a locator; an escape that lacks a digit stands for itself. -/
def signs : List UInt8 → List Sign
  | [] => []
  | 0x25 :: high :: low :: rest =>
    match hexValue? high, hexValue? low with
    | some h, some l => ⟨h * 16 + l, true⟩ :: signs rest
    | _, _ => ⟨0x25, false⟩ :: signs (high :: low :: rest)
  | b :: rest => ⟨b, false⟩ :: signs rest

/-- A sign parts the locator here. -/
def Sign.parts (mark : Char) (sign : Sign) : Bool :=
  !sign.isEscaped && sign.byte == mark.toUInt8

/-- The bytes that a piece spells, up to a zero. -/
def spelled (piece : List Sign) : FileName := (piece.map (·.byte)).takeWhile (· != 0)

/-- What stands before and after the first sign that parts a piece; without one all stands
before. -/
def divide (mark : Char) (piece : List Sign) : List Sign × List Sign :=
  (piece.takeWhile fun sign => !sign.parts mark,
    (piece.dropWhile fun sign => !sign.parts mark).drop 1)

/-- The options of a locator, in order; one without a name is left out. -/
def options (query : List Sign) : List (FileName × FileName) :=
  ((query.splitOnP (·.parts '&')).map fun piece =>
    let (name, value) := divide '=' piece
    (spelled name, spelled value)).filter fun option => !option.1.isEmpty

/-! ## Options -/

/-- How a database is opened. -/
inductive Mode where
  | readOnly
  | existing
  | ordinary
  | memory
  deriving DecidableEq, Repr

def Mode.ofName? (name : FileName) : Option Mode :=
  [("ro", readOnly), ("rw", existing), ("rwc", ordinary), ("memory", memory)].findSome?
    fun (text, mode) => if name == FileName.ofText text then some mode else none

/-- How much a mode asks for. -/
def Mode.demand : Mode → Nat
  | memory => 0
  | readOnly => 1
  | existing => 2
  | ordinary => 3

/-- How much may be asked for after a mode. -/
def Mode.allowance : Mode → Nat
  | memory => 3
  | mode => mode.demand

/-- What the options say. -/
structure Wishes where
  mode : Mode
  isShared : Bool
  /-- The name of the system. -/
  system : FileName
  deriving DecidableEq, Repr

/-- The wishes without any option. -/
def Wishes.standard : Wishes := ⟨.ordinary, false, FileName.ofText "unix"⟩

/-- The wishes with one option more; a value that is not known or not allowed is a fault, a name
that is not known says nothing. -/
def Wishes.add (wishes : Wishes) (option : FileName × FileName) : Option Wishes :=
  let (name, value) := option
  if name == FileName.ofText "vfs" then some { wishes with system := value }
  else if name == FileName.ofText "cache" then
    if value == FileName.ofText "shared" then some { wishes with isShared := true }
    else if value == FileName.ofText "private" then some { wishes with isShared := false }
    else none
  else if name == FileName.ofText "mode" then
    match Mode.ofName? value with
    | none => none
    | some mode =>
      if mode.demand ≤ wishes.mode.allowance then some { wishes with mode } else none
  else some wishes

/-- A value means yes: a number other than zero, or one of three words in any case. -/
def isYes (value : FileName) : Bool :=
  let isDigit := fun (b : UInt8) => 0x30 ≤ b && b ≤ 0x39
  let lower := value.map fun b => if 0x41 ≤ b && b ≤ 0x5A then b + 0x20 else b
  match value with
  | b :: _ =>
    if isDigit b then (value.takeWhile isDigit).any (· != 0x30)
    else ["on", "yes", "true"].any fun word => lower == FileName.ofText word
  | [] => false

/-- The first option of a name means yes. -/
def asks (options : List (FileName × FileName)) (name : String) : Bool :=
  (options.lookup (FileName.ofText name)).any isYes

/-! ## Reading a name -/

/-- The name that stands for a database in memory. -/
def memoryName : FileName := FileName.ofText ":memory:"

/-- The database is kept by no system, but in memory or in a file without a name. -/
def isFleeting (name : FileName) (wishes : Wishes) : Bool :=
  name.isEmpty || wishes.mode == .memory || name == memoryName

/-- Where a locator leads. A database in memory is shared if that is asked for and it has a name;
the system that keeps files in memory shares those whose name starts with a slash, too. -/
def homeOf (name : FileName) (wishes : Wishes) (system : System) : Home :=
  if isFleeting name wishes then
    if wishes.isShared && !name.isEmpty then .common name else .own
  else if system == .inMemory then
    if wishes.isShared || (name.head? == some FileName.slash && 1 < name.length) then .kept name
    else .own
  else .file name

def ofOptions? (name : FileName) (options : List (FileName × FileName)) : Option Locator := do
  let wishes ← options.foldlM Wishes.add .standard
  let system ← System.ofName? wishes.system
  let isFrozen := !isFleeting name wishes && asks options "immutable"
  return {
    home := homeOf name wishes system
    mayMake := wishes.mode == .ordinary
    mayChange := wishes.mode != .readOnly && !isFrozen
    system
    keepsLocks := !isFrozen && !asks options "nolock"
    isFrozen
    isShared := wishes.isShared }

/-- What guards the database. Connections that share one in memory need no system to see each
other's locks. -/
def guard (locator : Locator) : Guard :=
  match locator.home, locator.system with
  | .common _, _ => .file
  | _, .standard | _, .inMemory => if locator.keepsLocks then .file else .none
  | _, .folders => if locator.keepsLocks then .folder else .none
  | _, .unguarded => .none

/-- What follows the authority, if that is empty or `localhost`; without two slashes there is
none. -/
def withoutAuthority? (rest : List UInt8) : Option (List UInt8) :=
  match rest with
  | 0x2F :: 0x2F :: rest =>
    let authority := rest.takeWhile (· != FileName.slash)
    if authority.isEmpty || authority == FileName.ofText "localhost" then
      some (rest.dropWhile (· != FileName.slash))
    else none
  | _ => some rest

/-- What a locator says, given what follows its `file:`. -/
def read? (rest : List UInt8) : Option Locator := do
  let rest ← withoutAuthority? rest
  let (name, query) := divide '?' (signs (rest.takeWhile (· != '#'.toUInt8)))
  ofOptions? (spelled name) (options query)

/-- The bytes that a locator begins with. -/
def scheme : List UInt8 := FileName.ofText "file:"

/-- What the name of a database says; a zero byte is in no name. -/
def ofName? (name : String) : Option Locator :=
  let bytes := FileName.ofText name
  if bytes.contains 0 then none
  else if scheme.isPrefixOf bytes then read? (bytes.drop scheme.length)
  else ofOptions? bytes []

end Locator

end Gazetteer
