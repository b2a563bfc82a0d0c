/-
Gazetteer.CommandLine — answering the lines of the standard input.

The configuration comes from the environment and one service answers all lines.
Lines are gathered in batches of as many as there are workers; the lookups of a
batch may run at once, and when they have all finished their answers are
written in the order of the lines. The output is gathered until the input has
ended, so a line that cannot be read loses all of it, though the lines before
it have been looked up.

This leaves out that the writer's buffer holds 8 KiB: of a longer output the
parts that have filled the buffer are written before the input ends, and a line
that cannot be read loses only what the buffer still holds.
-/
import Gazetteer.Configuration
import Gazetteer.Enrichment
import Gazetteer.Store.Choice
import Gazetteer.Text.Lines

namespace Gazetteer.CommandLine

/-- Why the program ends with an error. -/
inductive Failure where
  | configuration (cause : ConfigError)
  /-- The resolver did not start. -/
  | start (cause : ConfigError)
  /-- A line of the input is not UTF-8. -/
  | input (fault : Text.Utf8.Fault)
  deriving DecidableEq, Repr

/-- What failed. -/
def Failure.message : Failure → String
  | configuration cause => cause.message
  | start _ => "failed to start the resolver"
  | input _ => "failed to read from stdin"

/-- Why it failed, if the message does not say so. -/
def Failure.cause? : Failure → Option String
  | configuration _ => none
  | start cause => some cause.message
  | input fault => some fault.message

/-- What a run of the program leaves behind. -/
structure Report where
  output : String
  failure : Option Failure
  deriving DecidableEq, Repr

/-- The exit code of a run. -/
def Report.code (report : Report) : Nat := if report.failure.isSome then 1 else 0

/-! ## Batches of lines -/

/-- The lines before the first that cannot be read, and its fault. -/
def readLines : List (List UInt8) → List String × Option Text.Utf8.Fault
  | [] => ([], none)
  | line :: lines =>
    match Text.readLine line with
    | .error fault => ([], some fault)
    | .ok text =>
      let (texts, fault) := readLines lines
      (text :: texts, fault)

/-- The batches of some lines behind those of a batch that is being gathered; a batch is full when
it holds one line for each worker. -/
def batches {α : Type} (workers : Nat) (gathered : List α) : List α → List (List α)
  | [] => if gathered.isEmpty then [] else [gathered]
  | line :: lines =>
    let gathered := gathered ++ [line]
    if workers ≤ gathered.length then gathered :: batches workers [] lines
    else batches workers gathered lines

variable {σ : Type}

/-- The answers to the lines of one batch that have one, in the order of the lines. -/
def answerBatch (answer : String → σ → Option (List Char) × σ) :
    List String → σ → List (List Char) × σ
  | [], state => ([], state)
  | line :: lines, state =>
    let (first, state) := answer line state
    let (others, state) := answerBatch answer lines state
    (first.toList ++ others, state)

/-- The answers to the lines of some batches, batch by batch. -/
def answerAll (answer : String → σ → Option (List Char) × σ) :
    List (List String) → σ → List (List Char) × σ
  | [], state => ([], state)
  | batch :: batches, state =>
    let (first, state) := answerBatch answer batch state
    let (others, state) := answerAll answer batches state
    (first ++ others, state)

/-- Answers as output, a line for each. -/
def output (answers : List (List Char)) : List Char := answers.flatMap (· ++ ['\n'])

/-! ## A run of the program -/

/-- A service with the store behind it and its world. -/
abbrev Running := Service × Store × World

def ask (address : String) (running : Running) : Location × Running :=
  running.1.resolve Store.ask address running.2

/-- Run the program in a world; the input is given in full. Where a line cannot be read the output is
that of a run whose answers all fit the writer's buffer. -/
def run (environment : String → Option String) (input : List UInt8) (w : World) : Report × World :=
  match (Configuration.load environment).1 with
  | .error cause => (⟨"", some (.configuration cause)⟩, w)
  | .ok configuration =>
    match Service.ofSettings configuration.settings w with
    | (.error cause, w) => (⟨"", some (.start cause)⟩, w)
    | (.ok (store, service), w) =>
      let (lines, fault) := readLines (Text.lines input)
      let (answers, _, store, w) := answerAll (Enrichment.answer configuration.addressField ask)
        (batches configuration.workers [] lines) (service, store, w)
      let w := (store.close w).2
      match fault with
      | some fault => (⟨"", some (.input fault)⟩, w)
      | none => (⟨String.ofList (output answers), none⟩, w)

end Gazetteer.CommandLine
