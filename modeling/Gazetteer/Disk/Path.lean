/-
Gazetteer.Disk.Path — names of files and folders, and the paths they spell.

A name is a sequence of bytes in which slashes part it. An empty part stands for
nothing, `.` for the place itself, `..` for the place around it, and any other
part for something in the place. Read this way without a look at the disk, a
name has a normal path.
-/
namespace Gazetteer

/-- The bytes of a name, or of one part of it. -/
abbrev FileName := List UInt8

/-- Where a file or folder is, part by part: from the working folder, or from the root if the first
part is a slash. -/
abbrev Path := List FileName

namespace FileName

/-- The bytes that spell a text. -/
def ofText (s : String) : FileName := s.toUTF8.data.toList

/-- The byte that parts a name. -/
def slash : UInt8 := 0x2F

/-- The part that stands for the place itself. -/
def here : FileName := [0x2E]

/-- The part that stands for the place around. -/
def around : FileName := [0x2E, 0x2E]

/-- The greatest number of bytes in one part. -/
def longestPart : Nat := 255

/-- The greatest number of bytes in a name. -/
def longest : Nat := 4095

end FileName

namespace Path

/-- What one part of a name means. -/
inductive Step where
  /-- The place itself. -/
  | stay
  /-- The place around. -/
  | leave
  /-- Something in the place. -/
  | enter (part : FileName)
  deriving DecidableEq, Repr

def steps (name : FileName) : List Step :=
  ((name.splitOn FileName.slash).filter fun part => !part.isEmpty).map fun part =>
    if part == FileName.here then .stay
    else if part == FileName.around then .leave
    else .enter part

def working : Path := []

def root : Path := [[FileName.slash]]

/-- Where a name starts from. -/
def start (name : FileName) : Path :=
  if name.head? == some FileName.slash then root else working

/-- The place around; the root has none but itself. -/
def parent (path : Path) : Path :=
  if path == root then root
  else match path.getLast? with
    | none => [FileName.around]
    | some part => if part == FileName.around then path ++ [FileName.around] else path.dropLast

def next (path : Path) : Step → Path
  | .stay => path
  | .leave => path.parent
  | .enter part => path ++ [part]

def normal (name : FileName) : Path := (steps name).foldl next (start name)

/-- The paths on the way to the one that a name spells, which is the last of them. -/
def stations (name : FileName) : List Path :=
  go (start name) (steps name)
where
  /-- The paths from one on. -/
  go (path : Path) : List Step → List Path
    | [] => [path]
    | step :: steps => path :: go (path.next step) steps

def name (path : Path) : FileName :=
  if path == working then FileName.here
  else if root.isPrefixOf path then FileName.slash :: [FileName.slash].intercalate (path.drop 1)
  else [FileName.slash].intercalate path

/-- The number of bytes of the working folder's own path. -/
def workingSize : Nat := 24

/-- The number of bytes of a path written from the root with a slash before each part. -/
def size (path : Path) : Nat :=
  let count := fun (n : Nat) (part : FileName) => n + part.length + 1
  if root.isPrefixOf path then (path.drop 1).foldl count 0 else path.foldl count workingSize

theorem getLast?_go (path : Path) (steps : List Step) :
    (stations.go path steps).getLast? = some (steps.foldl next path) := by
  induction steps generalizing path with
  | nil => rfl
  | cons step steps ih =>
    have hne : stations.go (path.next step) steps ≠ [] := by
      cases steps <;> simp [stations.go]
    rw [stations.go, List.getLast?_cons, List.foldl_cons]
    simp [ih]

theorem getLast?_stations (name : FileName) : (stations name).getLast? = some (normal name) :=
  getLast?_go (start name) (steps name)

end Path

end Gazetteer
