/-
Gazetteer.Main — the program.

It reads its configuration from the environment, takes the standard input line
by line and writes the answers to the standard output. The datasource is one
file: a MaxMind database, or a snapshot of a location database, which is written
back if answers have been saved in it. Notices and the reason of a failure go to
the standard error.
-/
import Gazetteer.CommandLine
import Gazetteer.Database.Snapshot
import Gazetteer.Json.Reader

namespace Gazetteer.Main

/-- What the bytes of a file are: a snapshot, or just bytes. -/
def contentOf (bytes : ByteArray) : Content :=
  match String.fromUTF8? bytes with
  | none => .bytes bytes
  | some s => match Json.read s with
    | .error _ => .bytes bytes
    | .ok json => (Database.ofJson? json).elim (.bytes bytes) .database

def bytesOf : Content → ByteArray
  | .bytes value => value
  | .database db => db.toJson.toText.toUTF8

/-- The variables that the configuration reads. -/
def variableNames : List String :=
  Configuration.settingVariables.map (·.1)
    ++ [Configuration.workersVariable, Configuration.addressFieldVariable,
      Configuration.debugVariable]

/-- The name of the file that a datasource is, if it is one. -/
def fileName? (resolver : ResolverKind) (datasource : String) : Option String :=
  match resolver with
  | .maxMind => some datasource
  | .relational => do
    match (← Locator.ofName? datasource).home with
    | .file name => String.fromUTF8? ⟨(Path.normal name).name.toArray⟩
    | .own | .common _ | .kept _ => none

/-- The file of the datasource, if one is set and there is such a file. -/
def datasource (environment : String → Option String) : IO (Option (String × Content)) := do
  match (Configuration.load environment).1 with
  | .error _ => return none
  | .ok configuration =>
    let settings := configuration.settings
    match settings.datasource.bind (fileName? settings.resolver) with
    | none => return none
    | some name =>
      try return some (name, contentOf (← IO.FS.readBinFile name))
      catch _ => return none

/-- Write the file of the datasource if it has changed. -/
def save (name : String) (content : Content) (disk : Disk) : IO Unit := do
  match disk.numberAt? (Path.normal (FileName.ofText name)) with
  | none => return
  | some number => match disk.file? number with
    | none => return
    | some file =>
      let bytes := bytesOf file.content
      if bytes != bytesOf content then IO.FS.writeBinFile name bytes

/-- The lines that report a failure. -/
def failureLines (failure : CommandLine.Failure) : List String :=
  ("Error: " ++ failure.message) :: match failure.cause? with
    | none => []
    | some cause => ["", "Caused by:", "    " ++ cause]

end Gazetteer.Main

open Gazetteer in
/-- Run the program. -/
def main : IO UInt32 := do
  let bindings ← Main.variableNames.filterMapM fun name => do
    return (← IO.getEnv name).map fun value => (name, value)
  let environment := fun name => bindings.lookup name
  let file ← Main.datasource environment
  let disk := file.elim Disk.empty fun (name, content) =>
    .ofFile (FileName.ofText name) content
  let input ← (← IO.getStdin).readBinToEnd
  let (report, w) := CommandLine.run environment input.toList { World.start with disk }
  for notice in w.notices do IO.eprintln notice.line
  IO.print report.output
  if let some (name, content) := file then Main.save name content w.disk
  for line in report.failure.elim [] Main.failureLines do IO.eprintln line
  return UInt32.ofNat report.code
