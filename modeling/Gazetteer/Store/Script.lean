/-
Gazetteer.Store.Script — what a store does with a connection, as data.

A script is a tree of single statements: each one names a step of the desk and
says how to go on with its answer. Written this way the code of a store can be
run from end to end (`run`) or one statement at a time among the statements of
others (`step`).
-/
import Gazetteer.Store.Desk

namespace Gazetteer.Store

open Gazetteer.Database

/-- A conversation with a connection. -/
inductive Script (α : Type) where
  | done (result : α)
  | tell (notice : Notice) (next : Script α)
  | encode (address : String) (next : Address.V4 → Script α)
  | ask (query : Query) (next : Except StoreError (Option Names) → Script α)
  | hasTable (table : Table) (next : Except StoreError Bool → Script α)
  | execute (command : Command) (next : Outcome → Script α)

namespace Script

/-- One script after another. -/
def bind {α β : Type} : Script α → (α → Script β) → Script β
  | done result, f => f result
  | tell notice next, f => .tell notice (next.bind f)
  | encode address next, f => .encode address fun value => (next value).bind f
  | ask query next, f => .ask query fun answer => (next answer).bind f
  | hasTable table next, f => .hasTable table fun answer => (next answer).bind f
  | execute command next, f => .execute command fun outcome => (next outcome).bind f

instance : Monad Script where
  pure := done
  bind := bind

/-- The first statement of a script; a finished script stays as it is. -/
def step {α : Type} (desk : Desk) : Script α → Script α × Desk
  | done result => (done result, desk)
  | tell notice next => (next, desk.tell notice)
  | encode address next => let (value, desk) := desk.encode address; (next value, desk)
  | ask query next => let (answer, desk) := desk.ask query; (next answer, desk)
  | hasTable table next => let (answer, desk) := desk.hasTable table; (next answer, desk)
  | execute command next => let (outcome, desk) := desk.execute command; (next outcome, desk)

/-- All statements of a script, one after another. -/
def run {α : Type} (desk : Desk) : Script α → α × Desk
  | done result => (result, desk)
  | tell notice next => next.run (desk.tell notice)
  | encode address next => let (value, desk) := desk.encode address; (next value).run desk
  | ask query next => let (answer, desk) := desk.ask query; (next answer).run desk
  | hasTable table next => let (answer, desk) := desk.hasTable table; (next answer).run desk
  | execute command next => let (outcome, desk) := desk.execute command; (next outcome).run desk

/-! ## Single statements -/

/-- Give a notice. -/
def say (notice : Notice) : Script Unit := .tell notice (.done ())

def number (address : String) : Script Address.V4 := .encode address .done

/-- Put a question. -/
def query (q : Query) : Script (Except StoreError (Option Names)) := .ask q .done

/-- Give a command. -/
def command (c : Command) : Script Outcome := .execute c .done

/-! ## The conversations of a store -/

/-- The place of an address text among the blocks. -/
def find (address : String) : Script (Except StoreError (Option Names)) :=
  match Address.kind address with
  | .v4 => do
    let value ← number address
    query (.covering value.area value)
  | .block => query (.named address)
  | .v6 => pure (.ok none)
  | .invalid => do
    say .unreadableAddress
    pure (.ok none)

/-- End the transaction without its rows. -/
def giveUp {α : Type} (result : α) : Script α := do
  let _ ← command .rollback
  pure result

/-- Save an answer unless one for the same address is there. -/
def save (location : Location) : Script WriteBack := do
  match ← command .beginImmediate with
  | .duplicate | .failed => pure (.failed .query)
  | .done =>
    match ← query (.saved location.address) with
    | .error cause => giveUp (.failed cause)
    | .ok (some _) => giveUp .alreadyPresent
    | .ok none =>
      match ← command (.addSaved location) with
      | .duplicate => giveUp .alreadyPresent
      | .failed => giveUp (.failed .query)
      | .done =>
        match ← command .commit with
        | .done => pure .persisted
        | .duplicate | .failed => giveUp (.failed .query)

/-- Look an address text up; with `persists`, saved answers are read first and a found location is
saved. -/
def lookup (persists : Bool) (address : String) : Script (Except StoreError (Option Resolved)) := do
  let saved ← if persists then query (.saved address) else pure (.ok none)
  match saved with
  | .error cause => pure (.error cause)
  | .ok (some names) => pure (.ok (some ⟨names.location address, .loaded⟩))
  | .ok none =>
    match ← find address with
    | .error cause => pure (.error cause)
    | .ok none => pure (.ok none)
    | .ok (some names) =>
      let location := names.location address
      if persists then
        let writeBack ← save location
        if writeBack.isFailed then say .notSaved
        pure (.ok (some ⟨location, writeBack⟩))
      else pure (.ok (some ⟨location, .disabled⟩))

/-- Write rows inside the open transaction and commit them, all or none. -/
def addRows : List Address.BlockRow → Script (Except StoreError Unit)
  | [] => do
    match ← command .commit with
    | .done => pure (.ok ())
    | .duplicate | .failed => giveUp (.error .query)
  | row :: rows => do
    match ← command (.addBlock row) with
    | .done => addRows rows
    | .duplicate | .failed => giveUp (.error .query)

/-- Write the rows of a block, all or none. -/
def addBlock (rows : List Address.BlockRow) : Script (Except StoreError Unit) := do
  match ← command .begin with
  | .done => addRows rows
  | .duplicate | .failed => pure (.error .query)

/-- Give commands one by one until one fails. -/
def all : List Command → Script (Except StoreError Unit)
  | [] => pure (.ok ())
  | c :: commands => do
    match ← command c with
    | .done => all commands
    | .duplicate | .failed => pure (.error .query)

def indexNames : List String := ["idx_blocks_cidr", rangeIndex]

/-- Make the tables and indexes that are missing. -/
def createTables : Script (Except StoreError Unit) :=
  all ([Table.saved, .places, .blocks].map .createTable ++ indexNames.map .createIndex)

/-- The first of some tables that does not exist. -/
def firstMissing : List Table → Script (Except StoreError (Option Table))
  | [] => pure (.ok none)
  | table :: tables => .hasTable table fun
    | .error cause => pure (.error cause)
    | .ok true => firstMissing tables
    | .ok false => pure (.ok (some table))

end Script

end Gazetteer.Store
