/-
Gazetteer.Proofs.Store.Checked — a store with all checks on.

A lookup is written a second time with its checks: an address text is weighed only if it
is dotted, the number it weighs has an area, and once a location has been saved, or has
not been, its connection is outside any transaction. To know that, the lookup watches its
connection from the outcome of one command to the next. The blocks are read and cut with
checks too. What every check asks for is seen to elsewhere: by the kind of the text, by
the length of a mask, by the end of a loop, by the end of a transaction. So a store that
has been opened never raises an alarm, alone or among others, and nothing that it does
changes if the checks are left out.
-/
import Gazetteer.Proofs.Address.Checked
import Gazetteer.Proofs.Store.Return

namespace Gazetteer.Store

open Gazetteer.Database
open Gazetteer.Address (V4 BlockRow)

variable {α β γ : Type} {inside : Bool} {s : Relational} {w opened : World}
  {limits : Pool.Limits} {closed : List Pool.Slot} {path : String} {options : Options}

namespace Script

/-! ## Watching a connection -/

/-- A script that also tells whether its connection is inside a transaction at the end, if it is
`inside` one at the beginning. -/
def watched (inside : Bool) : Script α → Script (α × Bool)
  | done result => done (result, inside)
  | tell notice next => .tell notice (next.watched inside)
  | encode address next => .encode address fun value => (next value).watched inside
  | ask query next => .ask query fun answer => (next answer).watched inside
  | hasTable table next => .hasTable table fun answer => (next answer).watched inside
  | execute c next => .execute c fun outcome =>
    (next outcome).watched (c.leavesInside inside outcome)

/-- The watch keeps up with the connection: it is right after every statement if it was right
before. -/
theorem step_watched (script : Script α) (desk : Desk) :
    (script.watched desk.draft.isSome).step desk =
      ((script.step desk).1.watched (script.step desk).2.draft.isSome, (script.step desk).2) := by
  cases script with
  | done result => rfl
  | tell notice next => rfl
  | encode address next =>
    simp only [watched, Script.step, (desk.encode_frame address).1]
  | ask query next =>
    simp only [watched, Script.step, (desk.ask_frame query).1]
  | hasTable table next =>
    simp only [watched, Script.step, (desk.hasTable_frame table).1]
  | execute c next =>
    simp only [watched, Script.step, (desk.obeys_execute c).draft]

/-- So at the end it tells where the connection is. -/
theorem run_watched (script : Script α) (desk : Desk) :
    (script.watched desk.draft.isSome).run desk =
      (((script.run desk).1, (script.run desk).2.draft.isSome), (script.run desk).2) := by
  have hstep (script : Script α) (desk : Desk) : (script.watched desk.draft.isSome).run desk =
      ((script.step desk).1.watched (script.step desk).2.draft.isSome).run
        (script.step desk).2 := by
    rw [← run_step, step_watched]
  induction script generalizing desk with
  | done result => rfl
  | tell notice next ih => exact ih _
  | encode address next ih => exact (hstep _ desk).trans (ih _ _)
  | ask query next ih => exact (hstep _ desk).trans (ih _ _)
  | hasTable table next ih => exact (hstep _ desk).trans (ih _ _)
  | execute c next ih => exact (hstep _ desk).trans (ih _ _)

/-- The watch over a script that settles always ends outside. -/
theorem Settles.watched {n : Nat} {script : Script α} (h : script.Settles n inside) :
    script.watched inside = do return (← script, false) := by
  show script.watched inside = script.bind fun result => .done (result, false)
  -- Where the connection is changes with every command, so the induction is on what settles.
  induction n generalizing script inside with
  | zero =>
    cases script with
    | done result => rw [settles_done.1 h]; rfl
    | _ => cases h
  | succ n ih =>
    cases script with
    | done result => rw [settles_done.1 h]; rfl
    | tell notice next => exact congrArg _ (ih h.2)
    | encode address next => exact congrArg _ (funext fun value => ih (h value))
    | ask query next => exact congrArg _ (funext fun answer => ih (h answer))
    | hasTable table next => exact congrArg _ (funext fun answer => ih (h answer))
    | execute c next => exact congrArg _ (funext fun outcome => ih (h outcome))

/-! ## Lookups -/

/-- Scripts may be put together in any order. -/
theorem bind_bind (x : Script α) (f : α → Script β) (g : β → Script γ) :
    (x >>= f) >>= g = x >>= fun result => f result >>= g := by
  show (x.bind f).bind g = x.bind fun result => (f result).bind g
  induction x with
  | done result => rfl
  | tell notice next ih => exact congrArg _ ih
  | encode address next ih => exact congrArg _ (funext ih)
  | ask query next ih => exact congrArg _ (funext ih)
  | hasTable table next ih => exact congrArg _ (funext ih)
  | execute c next ih => exact congrArg _ (funext ih)

/-- What follows a script that settles, and is told so by the watch. -/
theorem Settles.watched_bind {n : Nat} {script : Script α} (h : script.Settles n inside)
    (f : α × Bool → Script β) :
    script.watched inside >>= f = script >>= fun result => f (result, false) := by
  rw [h.watched]
  exact bind_bind script _ f

/-- The place of an address text among the blocks. A text that is weighed must be dotted, and its
number must have an area. -/
def findChecked (address : String) :
    Script (Except Alarm (Except StoreError (Option Names))) :=
  match Address.kind address with
  | .v4 =>
    match V4.encodeChecked address with
    | .error alarm => pure (.error alarm)
    | .ok _ => do
      let value ← number address
      match value.areaChecked with
      | .error alarm => pure (.error alarm)
      | .ok area => return .ok (← query (.covering area value))
  | .block | .v6 | .invalid => return .ok (← find address)

/-- Save a found location. Whatever comes of that, the connection must be outside any transaction
then. -/
def saveChecked (inside : Bool) (location : Location) :
    Script (Except Alarm (Option Resolved)) := do
  let (writeBack, inside) ← (save location).watched inside
  if writeBack.isFailed then say .notSaved
  if inside then return .error .inside
  return .ok (some ⟨location, writeBack⟩)

/-- Look an address text up among the blocks with all checks on; the connection is `inside` a
transaction at the beginning, or it is not. -/
def lookupBlocksChecked (persists inside : Bool) (address : String) :
    Script (Except StoreError (Except Alarm (Option Resolved))) := do
  let (found, inside) ← (findChecked address).watched inside
  match found with
  | .error alarm => pure (.ok (.error alarm))
  | .ok (.error cause) => pure (.error cause)
  | .ok (.ok none) => pure (.ok (.ok none))
  | .ok (.ok (some names)) =>
    let location := names.location address
    if persists then return .ok (← saveChecked inside location)
    else pure (.ok (.ok (some ⟨location, .disabled⟩)))

/-- Look an address text up with all checks on. -/
def lookupChecked (persists inside : Bool) (address : String) :
    Script (Except StoreError (Except Alarm (Option Resolved))) :=
  if persists then do
    let (saved, inside) ← (query (.saved address)).watched inside
    match saved with
    | .error cause => pure (.error cause)
    | .ok (some names) => pure (.ok (.ok (some ⟨names.location address, .loaded⟩)))
    | .ok none => lookupBlocksChecked persists inside address
  else lookupBlocksChecked persists inside address

theorem findChecked_eq (address : String) :
    findChecked address = do return .ok (← find address) := by
  unfold findChecked
  cases hkind : Address.kind address with
  | v4 =>
    simp only [V4.encodeChecked_of_v4 hkind, V4.areaChecked_eq, find, hkind]
    rfl
  | block => rfl
  | v6 => rfl
  | invalid => rfl

theorem saveChecked_eq (location : Location) : saveChecked false location = do
    let writeBack ← save location
    if writeBack.isFailed then say .notSaved
    return .ok (some ⟨location, writeBack⟩) :=
  (settles_save location).watched_bind _

theorem lookupBlocksChecked_eq (persists : Bool) (address : String) :
    lookupBlocksChecked persists false address =
      do return (← lookupBlocks persists address).map .ok := by
  have hfind : (findChecked address).Settles (2 + 0) false := by
    rw [findChecked_eq]
    exact (settles_find address).bind fun _ => settles_done.2 rfl
  unfold lookupBlocksChecked lookupBlocks
  -- What is found has come without an alarm, and the rest differs by the watch over `save` alone.
  rw [hfind.watched_bind, findChecked_eq, bind_bind, bind_bind]
  refine congrArg _ (funext fun found => ?_)
  match found with
  | .error cause => rfl
  | .ok none => rfl
  | .ok (some names) =>
    cases persists with
    | false => rfl
    | true =>
      show (saveChecked false _ >>= _) = (save _ >>= _) >>= _
      rw [saveChecked_eq, bind_bind, bind_bind]
      refine congrArg _ (funext fun writeBack => ?_)
      cases writeBack <;> rfl

/-- Where a lookup begins outside any transaction none of its checks fails on any way through it, and
it is the same conversation without them. -/
theorem lookupChecked_eq (persists : Bool) (address : String) :
    lookupChecked persists false address = do return (← lookup persists address).map .ok := by
  cases persists with
  | false => exact lookupBlocksChecked_eq false address
  | true =>
    show Script.ask _ _ = Script.ask _ _
    refine congrArg _ (funext fun saved => ?_)
    match saved with
    | .error cause => rfl
    | .ok (some names) => rfl
    | .ok none => exact lookupBlocksChecked_eq true address

end Script

/-! ## Operations -/

namespace Relational

/-- The connection that an operation would get is inside a transaction. -/
def startsInside (s : Relational) (w : World) : Bool :=
  (w.acquire s.pool).1.toOption.any (·.connection.isInTransaction)

/-- Look an address text up with all checks on. -/
def resolveChecked (s : Relational) (w : World) (address : String) :
    Except Alarm (Option Resolved) × Relational × World :=
  match s.perform w (Script.lookupChecked s.persists (s.startsInside w) address) fun answer =>
      answer.toOption.any fun found => found.any (·.writeBack.isFailed) with
  | (.ok answer, s, w) => (answer, s, w)
  | (.error (.pool _), s, w) => (.ok none, s, w.tell [.noConnection])
  | (.error _, s, w) => (.ok none, s, w.tell [.unreadableDatabase])

/-- Write the rows of a block for a place with all checks on. -/
def addBlockChecked (s : Relational) (w : World) (block : String) (place : Int) :
    Except Alarm (Except StoreError Unit) × Relational × World :=
  match BlockRow.ofBlockChecked block place with
  | .error alarm => (.error alarm, s, w)
  | .ok none => (.ok (.error (.invalidBlock block)), s, w)
  | .ok (some rows) =>
    let (result, s, w) := s.performAndKeep w (Script.addBlock rows)
    (.ok result, s, w)

/-- No check of a lookup fails where the idle connections are outside any transaction. -/
theorem resolveChecked_eq
    (hfree : ∀ idle ∈ s.pool.idle, idle.connection.isInTransaction = false) (w : World)
    (address : String) :
    s.resolveChecked w address = (.ok (s.resolve w address).1, (s.resolve w address).2) := by
  have houtside : s.startsInside w = false := by
    unfold startsInside
    rcases hacquire : w.acquire s.pool with ⟨cause | slot, pool, mid⟩
    · rfl
    · have hdraft := World.acquire_outside hfree hacquire
      simp [Except.toOption, Connection.isInTransaction, hdraft]
  unfold resolveChecked resolve
  rw [houtside, Script.lookupChecked_eq, perform_map]
  dsimp only [Except.toOption, Option.any_some]
  rcases hperform : s.perform w (Script.lookup s.persists address)
    (fun found => found.any (·.writeBack.isFailed)) with ⟨result, after, later⟩
  rw [hperform]
  cases result with
  | ok found => rfl
  | error cause => cases cause <;> rfl

/-- No check of a block fails. -/
theorem addBlockChecked_eq (s : Relational) (w : World) (block : String) (place : Int) :
    s.addBlockChecked w block place =
      (.ok (s.addBlock w block place).1, (s.addBlock w block place).2) := by
  unfold addBlockChecked addBlock
  rw [Address.rows_checked]
  cases Address.Range.ofBlock? block <;> rfl

end Relational

/-! ## The counter of a pool -/

/-- No borrower of a pool takes more off its counter than there is, and none counts it up beyond its
bound: the idle connections have been counted, and so has what every borrower has. -/
structure CountsDown (pool : Pool) (borrowers : List Pool.Borrower) : Prop where
  stale : ∀ time, (pool.stale time).length ≤ pool.openCount
  given : ∀ borrower ∈ borrowers, (borrower.isHolding || borrower.isOpening) = true →
    0 < pool.openCount
  bound : pool.openCount ≤ pool.limits.maxConnections

theorem countsDown {crowd : Pool.Crowd} (h : Pool.Crowd.Inv limits crowd) :
    CountsDown crowd.pool crowd.borrowers := by
  have hcount := h.count
  refine ⟨fun time => ?_, fun borrower hm hhas => ?_, h.limited ▸ h.bound⟩
  · have hstale : (crowd.pool.stale time).length ≤ crowd.pool.idle.length :=
      (List.takeWhile_sublist _).length_le
    omega
  · obtain hheld | hopening := Bool.or_eq_true_iff.1 hhas
    · have hheld : 0 < crowd.held := List.countP_pos_iff.2 ⟨borrower, hm, hheld⟩
      omega
    · have hopening : 0 < crowd.opening := List.countP_pos_iff.2 ⟨borrower, hm, hopening⟩
      omega

/-! ## Stores -/

/-- The store alone in a world: its lookups and its blocks raise no alarm and are what they are
without checks, and its pool counts right before a connection is taken and while it is held. -/
structure Relational.PassesChecks (s : Relational) (w : World) : Prop where
  resolve : ∀ address, s.resolveChecked w address =
    (.ok (s.resolve w address).1, (s.resolve w address).2)
  addBlock : ∀ block place, s.addBlockChecked w block place =
    (.ok (s.addBlock w block place).1, (s.addBlock w block place).2)
  before : CountsDown s.pool []
  holding : CountsDown (w.acquire s.pool).2.1 [Pool.Crowd.settled (w.acquire s.pool).1]

theorem Relational.IsAtRest.passesChecks (h : s.IsAtRest limits closed) (w : World) :
    s.PassesChecks w := by
  obtain ⟨events, hevents⟩ := Pool.Crowd.run_acquire w s.pool closed
  have hrun := (h.at_time w.now).run events
  rw [show Pool.Crowd.run ⟨s.pool, w.now, [], closed⟩ events = _ from hevents] at hrun
  exact ⟨resolveChecked_eq h.free w, addBlockChecked_eq s w, countsDown h, countsDown hrun⟩

/-- The store among many callers, wherever each of them stands: its pool counts right, and a caller
begins outside any transaction and is outside when it has nothing left to say. -/
structure Team.PassesChecks (t : Team) : Prop where
  counts : CountsDown t.pool (t.callers.map (·.borrower))
  begins : ∀ caller ∈ t.callers, caller.borrower.isHolding = false →
    ∀ move, (caller.borrower.step t.pool t.now move).1.isInside = false
  ends : ∀ caller ∈ t.callers, ∀ result, caller.rest = .done result →
    caller.borrower.isInside = false

theorem Team.Inv.passesChecks {t : Team} (h : Inv limits t) : t.PassesChecks := by
  refine ⟨countsDown h.pool, ?_, ?_⟩
  · intro caller _ hseeks move
    exact isInside_step h.pool.free hseeks t.now move
  · intro caller hm result hdone
    obtain ⟨n, hn⟩ := h.settles caller hm
    rw [hdone] at hn
    exact Script.settles_done.1 hn

/-- Of a store that has been opened no check ever fails, whatever its texts are, whatever has
happened to the world, and whatever its statements come to: alone after any number of operations,
among any number of callers, and on every way through a lookup. When a location has been saved, or
has not been, the watch says that its connection is outside any transaction, and so it is. -/
theorem no_check_fails
    (h : Relational.openExisting w path options = (.ok s, opened) ∨
      Relational.create w path options = (.ok s, opened)) :
    (∀ (steps : List ((World → World) × Operation)) (change : World → World),
      let now := s.operateAll opened steps
      now.1.PassesChecks (change now.2)) ∧
    (∃ closed, ∀ events : List Team.Event,
      ((Team.atStore s opened.now closed).run events).PassesChecks) ∧
    (∀ (persists : Bool) (address : String), Script.lookupChecked persists false address =
      do return (← Script.lookup persists address).map .ok) ∧
    ∀ (location : Location) (desk : Desk), desk.draft = none →
      let told := ((Script.save location).watched false).run desk
      told.1.2 = false ∧ told.2.draft = none := by
  obtain ⟨hroom, closed, hrest⟩ := h.elim Relational.openExisting_isAtRest
    Relational.create_isAtRest
  refine ⟨?_, ⟨closed, ?_⟩, Script.lookupChecked_eq, ?_⟩
  · intro steps change now
    obtain ⟨more, hnow⟩ := Relational.operateAll_settled hrest hroom opened steps
    exact hnow.passesChecks (change now.2)
  · intro events
    exact ((Team.inv_atStore hrest opened.now).run events).passesChecks
  · intro location desk hdraft told
    have hrun := Script.run_watched (Script.save location) desk
    have hend := ((Script.settles_save location).run_outside hdraft).1
    rw [hdraft, hend] at hrun
    exact ⟨congrArg (·.1.2) hrun, (congrArg (·.2.draft) hrun).trans hend⟩

/-- A block that ends with the greatest address is written, and that address is looked up with a
fault when its location is to be saved. -/
theorem no_check_fails_greatest :
    ∃ (s now : Relational) (w mid : World),
      Relational.create .start "geo.db" single = (.ok s, w) ∧
        s.operateAll w [
          (id, .putPlace ⟨1, .text "Netherlands", .text "North Holland", .text "Haarlem"⟩),
          (id, .addBlock "255.254.0.0/15" 1)] = (now, mid) ∧
        (∃ after, now.addBlockChecked mid "255.254.0.0/15" 1 = (.ok (.ok ()), after)) ∧
        ∃ after, now.resolveChecked { mid with faults := [false, false, true] } "255.255.255.255" =
          (.ok (some ⟨⟨"Netherlands", "North Holland", "255.255.255.255"⟩, .failed .query⟩),
            after) := by
  let steps : List ((World → World) × Operation) := [
    (id, .putPlace ⟨1, .text "Netherlands", .text "North Holland", .text "Haarlem"⟩),
    (id, .addBlock "255.254.0.0/15" 1)]
  let hurt (w : World) : World := { w with faults := [false, false, true] }
  have hworks : ((Relational.create .start "geo.db" single).1.toOption.any fun s =>
      let now := s.operateAll (Relational.create .start "geo.db" single).2 steps
      (now.1.addBlock now.2 "255.254.0.0/15" 1).1.toOption == some () &&
        (now.1.resolve (hurt now.2) "255.255.255.255").1 ==
          some ⟨⟨"Netherlands", "North Holland", "255.255.255.255"⟩, .failed .query⟩) = true := by
    decide +kernel
  rcases hs : Relational.create .start "geo.db" single with ⟨cause | s, w⟩
  · rw [hs] at hworks
    cases hworks
  obtain ⟨halone, -⟩ := no_check_fails (.inr hs)
  have hwritten := (halone steps id).addBlock "255.254.0.0/15" 1
  have hfound := (halone steps hurt).resolve "255.255.255.255"
  rw [hs] at hworks
  rcases hnow : s.operateAll w steps with ⟨now, mid⟩
  simp only [hnow, id, Except.toOption, Option.any_some, Bool.and_eq_true, beq_iff_eq]
    at hworks hwritten hfound
  obtain ⟨hdone, hunsaved⟩ := hworks
  have hdone : (now.addBlock mid "255.254.0.0/15" 1).1 = .ok () := by
    rcases hresult : (now.addBlock mid "255.254.0.0/15" 1).1 with cause | done
    · rw [hresult] at hdone
      cases hdone
    · rfl
  rw [hdone] at hwritten
  rw [hunsaved] at hfound
  exact ⟨s, now, w, mid, rfl, hnow, ⟨_, hwritten⟩, _, hfound⟩

end Gazetteer.Store
