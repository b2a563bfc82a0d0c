/-
Gazetteer.CommandLine.Crew — the lines of the input, answered by many workers at once.

A reader takes one line after another and hands each to a worker of its own. The
workers go their ways in any order, one step at a time, and share a service and the
store behind it. When as many lines are gathered as the batch has room for, and when
the input ends, the reader waits for the workers of these lines in the order of the
lines, and writes what each has to say before it waits for the next.
-/
import Gazetteer.CommandLine
import Gazetteer.Enrichment.Plan
import Gazetteer.Service.Crowd

namespace Gazetteer.CommandLine

open Gazetteer.Enrichment (Plan plan)

variable {σ : Type}

/-- Where the worker of a line stands. -/
inductive Task where
  /-- It has not looked at the line yet. -/
  | spawned (line : String)
  /-- It is on its way through a request, and makes the answer of the location. -/
  | asking (caller : Service.Caller) (finish : Location → List Char)
  /-- It is through; this is the answer, if there is one. -/
  | done (text : Option (List Char))

/-- The task of a plan. -/
def Task.ofPlan : Plan → Task
  | .done text => done text
  | .lookUp address finish => asking ⟨address, .consulting⟩ finish

/-- The task after a step of its request has led to a place. -/
def Task.ofPlace (address : String) (finish : Location → List Char) : Service.Place → Task
  | .returned location => done (some (finish location))
  | place => asking ⟨address, place⟩ finish

/-- The next step of a worker. -/
def Task.step (ask : String → σ → Option Resolved × σ) (addressField : String) (service : Service)
    (store : σ) : Task → Task × Service × σ
  | spawned line => (ofPlan (plan addressField line), service, store)
  | asking caller finish =>
    let (place, service, store) := caller.place.step ask caller.address service store
    (ofPlace caller.address finish place, service, store)
  | done text => (done text, service, store)

/-- The reader, the workers of the lines that it has gathered, and what all have in common. -/
structure Crew (σ : Type) where
  service : Service
  store : σ
  /-- The lines that have not been read yet. -/
  unread : List String
  /-- The workers of the lines that have been read and not been answered, in order. -/
  gathered : List Task
  /-- The reader waits for the workers instead of reading on. -/
  isDraining : Bool
  output : List Char

namespace Crew

/-- Whose step comes next. -/
inductive Turn where
  | reader
  /-- The worker of one of the lines that are gathered. -/
  | worker (number : Nat)
  deriving DecidableEq, Repr

def start (service : Service) (store : σ) (lines : List String) : Crew σ :=
  ⟨service, store, lines, [], false, []⟩

/-- Write what the first worker has to say, if it is through. -/
def drain (c : Crew σ) : Crew σ :=
  match c.gathered with
  | .done text :: gathered =>
    { c with
      gathered
      isDraining := !gathered.isEmpty
      output := c.output ++ CommandLine.output text.toList }
  | _ => c

/-- Read a line for a worker of its own. -/
def read (workers : Nat) (c : Crew σ) : Crew σ :=
  match c.unread with
  | [] => { c with isDraining := !c.gathered.isEmpty }
  | line :: unread =>
    let gathered := c.gathered ++ [.spawned line]
    { c with unread, gathered, isDraining := workers ≤ gathered.length }

/-- The crew after one step of the reader or of a worker. -/
def next (workers : Nat) (ask : String → σ → Option Resolved × σ) (addressField : String)
    (c : Crew σ) : Turn → Crew σ
  | .reader => if c.isDraining then c.drain else c.read workers
  | .worker number =>
    match c.gathered[number]? with
    | none => c
    | some task =>
      let (task, service, store) := task.step ask addressField c.service c.store
      { c with service, store, gathered := c.gathered.set number task }

/-- The crew after some turns. -/
def run (workers : Nat) (ask : String → σ → Option Resolved × σ) (addressField : String)
    (c : Crew σ) (turns : List Turn) : Crew σ :=
  turns.foldl (next workers ask addressField) c

end Crew

end Gazetteer.CommandLine
