/-
Gazetteer.Proofs.Store.Settled — every conversation ends outside any transaction.

Whether a connection is inside a transaction can be told from the outcomes of its
commands alone. So whether a script ends outside can be read off the script: on every
way through it, whatever its statements come to. All scripts of a store do, and they
all come to an end.
-/
import Gazetteer.Proofs.Store.Filling
import Gazetteer.Proofs.Store.Progress
import Gazetteer.Store.Team

namespace Gazetteer.Store

open Gazetteer.Database

variable {α β : Type} {inside : Bool} {desk : Desk} {script : Script α}

/-! ## Inside and outside -/

/-- Whether a connection is inside a transaction after a command has come to an outcome. -/
def Command.leavesInside (inside : Bool) : Command → Outcome → Bool
  | rollback, _ | commit, .done => false
  | begin, .done | beginImmediate, .done => true
  | _, _ => inside

namespace Desk

/-- What a command does to the transaction of a desk; it gives no notices. -/
structure Obeys (desk : Desk) (c : Command) (taken : Outcome × Desk) : Prop where
  draft : taken.2.draft.isSome = c.leavesInside desk.draft.isSome taken.1
  notices : taken.2.notices = desk.notices

theorem notices_endTransaction (desk : Desk) : desk.endTransaction.notices = desk.notices := by
  unfold endTransaction
  split <;> rfl

theorem notices_reach? (desk : Desk) : desk.reach?.2.notices = desk.notices := by
  rw [reach?_eq]
  split <;> rfl

theorem draft_reach? (desk : Desk) : desk.reach?.2.draft = desk.draft := by
  rw [reach?_eq]
  split <;> rfl

theorem obeys_failed {c : Command} (hc : c ≠ .rollback) (desk : Desk) :
    desk.Obeys c (.failed, desk) := by
  refine ⟨?_, rfl⟩
  cases c <;> first | rfl | exact absurd rfl hc

/-- To write a row leaves the connection inside its transaction. -/
theorem obeys_addSaved {location : Location} {draft : Draft} (hd : desk.draft = some draft)
    (db : Database) : desk.Obeys (.addSaved location) (desk.addSaved location db draft) := by
  have halter (tables : List Table) : desk.Obeys (.addSaved location)
      (.duplicate, desk.alter tables) := ⟨rfl, rfl⟩
  have hwrite (outcome : Outcome) {after : Desk} (row : Draft) (hn : after.notices = desk.notices) :
      desk.Obeys (.addSaved location) (outcome, after.write row) :=
    ⟨by simp [write, Command.leavesInside, hd], hn⟩
  unfold addSaved
  split
  · exact obeys_failed (by simp) desk
  · split
    · exact obeys_failed (by simp) desk
    · split
      · exact halter _
      · exact obeys_failed (by simp) desk
    · exact hwrite _ _ rfl
    · split
      · exact ⟨rfl, rfl⟩
      · split
        · exact obeys_failed (by simp) desk
        · exact hwrite _ _ rfl

theorem obeys_addBlock {row : Address.BlockRow} {draft : Draft} (hd : desk.draft = some draft)
    (db : Database) : desk.Obeys (.addBlock row) (desk.addBlock row db draft) := by
  unfold addBlock
  split
  · exact obeys_failed (by simp) desk
  · exact ⟨by simp [write, Command.leavesInside, hd], rfl⟩

theorem obeys_change {c : Command} (hc : c ≠ .rollback)
    (hsame : c.leavesInside desk.draft.isSome .done = desk.draft.isSome) (table : Table)
    (db : Database) : desk.Obeys c (desk.change table db) := by
  unfold change
  split
  · exact obeys_failed hc desk
  · split
    · exact ⟨hsame.symm, rfl⟩
    · exact ⟨(obeys_failed hc desk).draft, rfl⟩

theorem obeys_commit {draft : Draft} (db : Database) : desk.Obeys .commit
    (desk.commit db draft) := by
  unfold commit
  split
  · exact obeys_failed (by simp) desk
  · refine ⟨?_, ?_⟩
    · simp [Command.leavesInside, (endTransaction_sheet _).1]
    · rw [notices_endTransaction]
      split <;> rfl

theorem obeys_perform {c : Command} (hc : c ≠ .rollback ∧ c ≠ .begin) (db : Database)
    (desk : Desk) : desk.Obeys c (desk.perform c db) := by
  have hfailed := obeys_failed hc.1 desk
  unfold perform
  split
  · next location draft hd =>
    split
    · exact obeys_addSaved hd db
    · exact hfailed
  · next row draft hd =>
    split
    · exact obeys_addBlock hd db
    · exact hfailed
  · exact obeys_commit db
  · split
    · exact ⟨rfl, rfl⟩
    · split
      · exact ⟨rfl, rfl⟩
      · exact hfailed
  · split
    · exact hfailed
    · exact obeys_change hc.1 rfl _ _
  · split
    · exact ⟨rfl, rfl⟩
    · exact obeys_change hc.1 rfl _ _
  · split
    · exact hfailed
    · split
      · exact ⟨rfl, rfl⟩
      · split
        · exact hfailed
        · exact obeys_change hc.1 rfl _ _
  · exact hfailed

theorem obeys_execute (c : Command) (desk : Desk) : desk.Obeys c (desk.execute c) := by
  by_cases h1 : c = .rollback
  · subst h1
    exact ⟨by simp [execute, Command.leavesInside, (endTransaction_sheet desk).1],
      notices_endTransaction desk⟩
  · by_cases h2 : c = .begin
    · subst h2
      simp only [execute, draw_eq]
      split
      · exact ⟨rfl, rfl⟩
      · exact ⟨rfl, rfl⟩
    · rw [execute_eq ⟨h1, h2⟩]
      have hdraft := draft_reach? desk
      have hnotices := notices_reach? desk
      split
      · next d hr =>
        rw [hr] at hdraft hnotices
        exact ⟨hdraft ▸ (obeys_failed h1 d).draft, hnotices⟩
      · next db d hr =>
        rw [hr] at hdraft hnotices
        obtain ⟨hleaves, hsame⟩ := obeys_perform ⟨h1, h2⟩ db d
        exact ⟨hleaves.trans (by rw [hdraft]), hsame.trans hnotices⟩

theorem ask_frame (q : Query) (desk : Desk) :
    (desk.ask q).2.draft = desk.draft ∧ (desk.ask q).2.notices = desk.notices := by
  refine ⟨(ask_cases rfl).2.1, ?_⟩
  rw [ask]
  split
  · next d hr => rw [← notices_reach? desk, hr]
  · next db d hr =>
    rw [← notices_reach? desk, hr]
    rfl

theorem hasTable_frame (table : Table) (desk : Desk) :
    (desk.hasTable table).2.draft = desk.draft ∧
      (desk.hasTable table).2.notices = desk.notices := by
  refine ⟨(hasTable_cases table desk).2.2, ?_⟩
  unfold hasTable
  split
  · next d hr => rw [← notices_reach? desk, hr]
  · next db d hr => rw [← notices_reach? desk, hr]

theorem encode_frame (address : String) (desk : Desk) :
    (desk.encode address).2.draft = desk.draft ∧
      (desk.encode address).2.notices = desk.notices := by
  unfold encode
  split <;> exact ⟨rfl, rfl⟩

end Desk

namespace Script

/-- After a number of statements at the most, whatever they come to, the script has ended and the
connection is outside any transaction. It has not reported a leak. -/
def Settles : Nat → Bool → Script α → Prop
  | _, inside, .done _ => inside = false
  | 0, _, _ => False
  | n + 1, inside, .tell notice next => notice ≠ .leakedTransaction ∧ Settles n inside next
  | n + 1, inside, .encode _ next => ∀ value, Settles n inside (next value)
  | n + 1, inside, .ask _ next => ∀ answer, Settles n inside (next answer)
  | n + 1, inside, .hasTable _ next => ∀ answer, Settles n inside (next answer)
  | n + 1, inside, .execute c next =>
    ∀ outcome, Settles n (c.leavesInside inside outcome) (next outcome)

theorem settles_done {n : Nat} {result : α} :
    (done result).Settles n inside ↔ inside = false := by
  cases n <;> rfl

/-- A statement brings a script nearer to its end. -/
theorem Settles.step {n : Nat} (h : script.Settles n desk.draft.isSome) :
    (script.step desk).1.Settles (n - 1) (script.step desk).2.draft.isSome ∧
      (.leakedTransaction ∉ desk.notices →
        .leakedTransaction ∉ (script.step desk).2.notices) := by
  cases script with
  | done result => exact ⟨settles_done.2 (settles_done.1 h), id⟩
  | tell notice next =>
    cases n with
    | zero => cases h
    | succ n =>
      refine ⟨h.2, fun hn => ?_⟩
      simp only [Script.step, Desk.tell, List.mem_append, List.mem_singleton, not_or]
      exact ⟨hn, Ne.symm h.1⟩
  | encode address next =>
    cases n with
    | zero => cases h
    | succ n =>
      obtain ⟨hdraft, hnotices⟩ := desk.encode_frame address
      simp only [Script.step, hdraft, hnotices]
      exact ⟨h _, id⟩
  | ask query next =>
    cases n with
    | zero => cases h
    | succ n =>
      obtain ⟨hdraft, hnotices⟩ := desk.ask_frame query
      simp only [Script.step, hdraft, hnotices]
      exact ⟨h _, id⟩
  | hasTable table next =>
    cases n with
    | zero => cases h
    | succ n =>
      obtain ⟨hdraft, hnotices⟩ := desk.hasTable_frame table
      simp only [Script.step, hdraft, hnotices]
      exact ⟨h _, id⟩
  | execute command next =>
    cases n with
    | zero => cases h
    | succ n =>
      obtain ⟨hdraft, hnotices⟩ := desk.obeys_execute command
      simp only [Script.step, hdraft, hnotices]
      exact ⟨h _, id⟩

/-- A whole conversation ends outside any transaction. -/
theorem Settles.run {n : Nat} (h : script.Settles n desk.draft.isSome) :
    (script.run desk).2.draft = none ∧
      (.leakedTransaction ∉ desk.notices →
        .leakedTransaction ∉ (script.run desk).2.notices) := by
  induction n generalizing script desk with
  | zero =>
    cases script with
    | done result => exact ⟨by simpa [Script.run] using settles_done.1 h, id⟩
    | _ => cases h
  | succ n ih =>
    obtain ⟨hrest, hquiet⟩ := h.step
    obtain ⟨hend, hlater⟩ := ih hrest
    rw [run_step] at hend hlater
    exact ⟨hend, fun hn => hlater (hquiet hn)⟩

theorem Settles.run_outside {n : Nat} (h : script.Settles n false) (hd : desk.draft = none) :
    (script.run desk).2.draft = none ∧
      (.leakedTransaction ∉ desk.notices →
        .leakedTransaction ∉ (script.run desk).2.notices) :=
  Settles.run (by rwa [hd])

theorem Settles.succ {n : Nat} (h : script.Settles n inside) : script.Settles (n + 1) inside := by
  induction n generalizing script inside with
  | zero =>
    cases script with
    | done result => exact h
    | _ => cases h
  | succ n ih =>
    cases script with
    | done result => exact h
    | tell notice next => exact ⟨h.1, ih h.2⟩
    | _ => exact fun answer => ih (h answer)

theorem Settles.mono {n m : Nat} (h : script.Settles n inside) (hle : n ≤ m) :
    script.Settles m inside := by
  induction hle with
  | refl => exact h
  | step _ ih => exact ih.succ

theorem Settles.bind {n m : Nat} {f : α → Script β} (h : script.Settles n inside)
    (hf : ∀ result, (f result).Settles m false) : (script >>= f).Settles (n + m) inside := by
  show (script.bind f).Settles (n + m) inside
  induction n generalizing script inside with
  | zero =>
    cases script with
    | done result =>
      obtain rfl := settles_done.1 h
      exact (hf result).mono (Nat.le_add_left _ _)
    | _ => cases h
  | succ n ih =>
    rw [Nat.succ_add]
    cases script with
    | done result =>
      obtain rfl := settles_done.1 h
      exact (hf result).mono (by omega)
    | tell notice next => exact ⟨h.1, ih h.2⟩
    | _ => exact fun answer => ih (h answer)

/-! ## The conversations of a store -/

theorem settles_giveUp (n : Nat) (result : α) : (giveUp result).Settles (n + 1) inside := by
  intro outcome
  exact settles_done.2 rfl

theorem settles_commitSaved : commitSaved.Settles 2 true := by
  intro outcome
  cases outcome with
  | done => exact settles_done.2 rfl
  | duplicate => exact settles_giveUp 0 _
  | failed => exact settles_giveUp 0 _

theorem settles_addAndCommit (location : Location) : (addAndCommit location).Settles 3 true := by
  intro outcome
  cases outcome with
  | done => exact settles_commitSaved
  | duplicate => exact settles_giveUp 1 _
  | failed => exact settles_giveUp 1 _

theorem settles_saveBegun (location : Location) : (saveBegun location).Settles 4 true := by
  intro answer
  match answer with
  | .error cause => exact settles_giveUp 2 _
  | .ok (some names) => exact settles_giveUp 2 _
  | .ok none => exact settles_addAndCommit location

theorem settles_save (location : Location) : (save location).Settles 5 false := by
  intro outcome
  cases outcome with
  | done => exact settles_saveBegun location
  | duplicate => exact settles_done.2 rfl
  | failed => exact settles_done.2 rfl

theorem settles_find (address : String) : (find address).Settles 2 false := by
  unfold find
  cases Address.kind address with
  | v4 => exact fun value answer => settles_done.2 rfl
  | block => exact fun answer => settles_done.2 rfl
  | v6 => exact settles_done.2 rfl
  | invalid => exact ⟨by simp, settles_done.2 rfl⟩

theorem settles_lookupBlocks (persists : Bool) (address : String) :
    (lookupBlocks persists address).Settles (2 + (5 + 1)) false := by
  unfold lookupBlocks
  refine (settles_find address).bind fun answer => ?_
  match answer with
  | .error cause => exact settles_done.2 rfl
  | .ok none => exact settles_done.2 rfl
  | .ok (some names) =>
    cases persists with
    | false => exact settles_done.2 rfl
    | true =>
      refine (settles_save (names.location address)).bind fun writeBack => ?_
      cases writeBack with
      | failed cause => exact ⟨by simp, settles_done.2 rfl⟩
      | _ => exact settles_done.2 rfl

theorem settles_lookup (persists : Bool) (address : String) :
    (lookup persists address).Settles 9 false := by
  cases persists with
  | false => exact (settles_lookupBlocks false address).succ
  | true =>
    intro answer
    match answer with
    | .error cause => exact settles_done.2 rfl
    | .ok (some names) => exact settles_done.2 rfl
    | .ok none => exact settles_lookupBlocks true address

theorem settles_all {commands : List Command} (hc : ∀ c ∈ commands, c.IsSingle) :
    (all commands).Settles commands.length false := by
  induction commands with
  | nil => exact settles_done.2 rfl
  | cons c commands ih =>
    have hsingle := hc c List.mem_cons_self
    intro outcome
    have hinside : c.leavesInside false outcome = false := by
      cases c <;> cases outcome <;> first | rfl | cases hsingle
    rw [hinside]
    cases outcome with
    | done => exact ih fun other hm => hc other (List.mem_cons_of_mem _ hm)
    | duplicate => exact settles_done.2 rfl
    | failed => exact settles_done.2 rfl

theorem settles_firstMissing (tables : List Table) :
    (firstMissing tables).Settles tables.length false := by
  induction tables with
  | nil => exact settles_done.2 rfl
  | cons table tables ih =>
    intro answer
    match answer with
    | .error cause => exact settles_done.2 rfl
    | .ok false => exact settles_done.2 rfl
    | .ok true => exact ih

theorem settles_createTables : createTables.Settles creation.length false :=
  settles_all isSingle_creation

theorem settles_addRows (rows : List Address.BlockRow) :
    (addRows rows).Settles (rows.length + 2) true := by
  induction rows with
  | nil =>
    intro outcome
    cases outcome with
    | done => exact settles_done.2 rfl
    | duplicate => exact settles_giveUp 0 _
    | failed => exact settles_giveUp 0 _
  | cons row rows ih =>
    intro outcome
    cases outcome with
    | done => exact ih
    | duplicate => exact settles_giveUp _ _
    | failed => exact settles_giveUp _ _

theorem settles_addBlock (rows : List Address.BlockRow) :
    (addBlock rows).Settles (rows.length + 3) false := by
  intro outcome
  cases outcome with
  | done => exact settles_addRows rows
  | duplicate => exact settles_done.2 rfl
  | failed => exact settles_done.2 rfl

end Script

end Gazetteer.Store
