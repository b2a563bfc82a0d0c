/-
Gazetteer.Proofs.Store.Right — the right to write, statement by statement.

A transaction that writes holds the right to, and the sheet shows it. It takes the
right only while nobody has it and gives it up at its end, whatever statement of
whatever script is carried out. So of many callers on one sheet at most one holds
the right at any time.
-/
import Gazetteer.Proofs.Members
import Gazetteer.Proofs.Store.Command
import Gazetteer.Store.Crowd

namespace Gazetteer.Store

open Gazetteer.Database

/-- The transaction of a caller holds the right to write. -/
def Caller.holds (caller : Caller) : Bool := caller.draft.any (·.isWriting)

namespace Desk

variable {desk after : Desk}

/-- The open transaction holds the right to write. -/
def holds (desk : Desk) : Bool := desk.draft.any (·.isWriting)

/-- The right to write goes from hand to hand: it is taken only while it is free, and the sheet
shows whether somebody has it. -/
structure Hands (desk after : Desk) : Prop where
  taken : after.holds = true → desk.holds = true ∨ desk.sheet.hasWriter = false
  shown : after.sheet.hasWriter = (after.holds || (desk.sheet.hasWriter && !desk.holds))

/-- Only the draft and the sheet's mark matter. -/
theorem Hands.of_draft (mid : Desk) (hs : mid.sheet.hasWriter = desk.sheet.hasWriter)
    (hd : mid.draft = desk.draft) (h : mid.Hands after) : desk.Hands after := by
  have hholds : mid.holds = desk.holds := by rw [holds, hd, holds]
  exact ⟨hs ▸ hholds ▸ h.taken, by rw [h.shown, hs, hholds]⟩

theorem Hands.of_same (h : desk.holds = true → desk.sheet.hasWriter = true)
    (hs : after.sheet.hasWriter = desk.sheet.hasWriter) (hd : after.holds = desk.holds) :
    desk.Hands after := by
  refine ⟨fun ha => .inl (hd ▸ ha), ?_⟩
  rw [hs, hd]
  cases hh : desk.holds with
  | false => simp
  | true => simp [h hh]

theorem hands_write (draft : Draft) (h : desk.mayWrite = true) : desk.Hands (desk.write draft) := by
  refine ⟨?_, rfl⟩
  intro _
  simp only [mayWrite, Bool.and_eq_true, Bool.or_eq_true, Bool.not_eq_true'] at h
  exact h.2.symm

theorem hands_endTransaction (desk : Desk) : desk.Hands desk.endTransaction := by
  obtain ⟨hd, -, hw⟩ := endTransaction_sheet desk
  have hholds : desk.endTransaction.holds = false := by rw [holds, hd, Option.any_none]
  refine ⟨?_, ?_⟩
  · intro h
    rw [hholds] at h
    cases h
  · rw [hholds, hw, Bool.false_or]
    rfl

section
variable (h : desk.holds = true → desk.sheet.hasWriter = true)
include h

theorem hands_refl : desk.Hands desk := .of_same h rfl rfl

theorem hands_addSaved (location : Location) (db : Database) (draft : Draft)
    (hw : desk.mayWrite = true) : desk.Hands (desk.addSaved location db draft).2 := by
  unfold addSaved
  repeat' split
  all_goals first
    | exact hands_refl h
    | exact .of_same h rfl rfl
    | exact hands_write _ hw
    | exact .of_draft (desk.alter _) rfl rfl (hands_write _ hw)

theorem hands_addBlock (row : Address.BlockRow) (db : Database) (draft : Draft)
    (hw : desk.canChange = true) : desk.Hands (desk.addBlock row db draft).2 := by
  have hw : desk.mayWrite = true := (Bool.and_eq_true_iff.1 hw).1
  unfold addBlock
  split
  · exact hands_refl h
  · exact .of_draft (desk.alter _) rfl rfl (hands_write _ hw)

theorem hands_change (table : Table) (db : Database) : desk.Hands (desk.change table db).2 := by
  unfold change
  repeat' split
  all_goals exact .of_same h rfl rfl

theorem hands_commit (db : Database) (draft : Draft) : desk.Hands (desk.commit db draft).2 := by
  unfold commit
  split
  · exact hands_refl h
  · split
    · exact hands_endTransaction desk
    · exact .of_draft (desk.store _) rfl rfl (hands_endTransaction _)

theorem hands_perform (c : Command) (db : Database) : desk.Hands (desk.perform c db).2 := by
  unfold perform
  split
  · next location draft hd =>
    split
    · next hw => exact hands_addSaved h _ _ _ hw
    · exact hands_refl h
  · next row draft hd =>
    split
    · next hw => exact hands_addBlock h _ _ _ hw
    · exact hands_refl h
  · exact hands_commit h _ _
  · next hd =>
    have hholds : desk.holds = false := by rw [holds, hd, Option.any_none]
    split
    · exact .of_same h rfl (by rw [hholds]; rfl)
    · split
      · next hw => exact hands_write _ hw
      · exact hands_refl h
  · split
    · exact hands_refl h
    · exact hands_change h _ _
  · split
    · exact hands_refl h
    · exact hands_change h _ _
  · repeat' split
    all_goals first
      | exact hands_refl h
      | exact hands_change h _ _
  · exact hands_refl h

theorem hands_execute (c : Command) : desk.Hands (desk.execute c).2 := by
  -- these two are carried out without a look at the database
  by_cases h1 : c = .rollback
  · subst h1
    exact hands_endTransaction desk
  by_cases h2 : c = .begin
  · subst h2
    simp only [execute, draw_eq]
    split
    · exact .of_same h rfl rfl
    · next hd =>
      rw [Bool.or_eq_true, not_or, Option.not_isSome_iff_eq_none] at hd
      have hnone : desk.draft = none := hd.2
      exact .of_same h rfl (by rw [holds, holds, hnone]; rfl)
  · rw [execute_eq ⟨h1, h2⟩]
    split
    · next d hr =>
      obtain ⟨hs, hd, -⟩ := reach?_none hr
      exact .of_same h (by rw [hs]) (by rw [holds, hd, holds])
    · next db d hr =>
      obtain ⟨-, rfl⟩ := reach?_some hr
      have h : desk.arrived.holds = true → desk.arrived.sheet.hasWriter = true := h
      exact .of_draft desk.arrived rfl rfl (hands_perform h c db)

/-- Whatever statement comes next, the right to write goes from hand to hand. -/
theorem hands_step {α : Type} (script : Script α) : desk.Hands (script.step desk).2 := by
  cases script with
  | done result => exact hands_refl h
  | tell notice next => exact .of_same h rfl rfl
  | encode address next =>
    refine .of_same h ?_ ?_
    · exact congrArg Sheet.hasWriter (encode_sheet address desk)
    · exact congrArg (Option.any Draft.isWriting) (encode_draft address desk)
  | ask query next =>
    obtain ⟨hs, hd, -⟩ := ask_cases (rfl : desk.ask query = (_, (desk.ask query).2))
    exact .of_same h (congrArg Sheet.hasWriter hs) (congrArg (Option.any Draft.isWriting) hd)
  | hasTable table next =>
    obtain ⟨-, hs, hd⟩ := hasTable_cases table desk
    exact .of_same h (congrArg Sheet.hasWriter hs) (congrArg (Option.any Draft.isWriting) hd)
  | execute command next => exact hands_execute h command

end

end Desk

/-! ## Events -/

namespace Crowd

open Members

variable {c after : Crowd} {event : Event} {number : Nat} {caller other : Caller}
  {script : Script (Except StoreError (Option Resolved))}

/-- What an event comes to. -/
inductive Changes (c : Crowd) : Event → Crowd → Prop where
  /-- There is no such caller, or the caller waits for something else. -/
  | idle {event : Event} : Changes c event c
  | called (store : Nat) (address : String) :
      Changes c (.call store address)
        { c with callers := c.callers ++ [⟨store, address, none, none, .none⟩] }
  | connected {number : Nat} {caller : Caller} (named : c.callers[number]? = some caller)
      (waits : caller.lookup = none) :
      Changes c (.connect number) { c with
        callers := c.callers.set number
          { caller with lookup := some (.lookup true caller.address) } }
  | refused {number : Nat} {cause : PoolError} {caller : Caller}
      (named : c.callers[number]? = some caller) (waits : caller.lookup = none) :
      Changes c (.refuse number cause) { c with
        callers := c.callers.set number
          { caller with lookup := some (.done (.error (.pool cause))) } }
  | spoken {number : Nat} {access : Access} {caller : Caller}
      {script : Script (Except StoreError (Option Resolved))}
      (named : c.callers[number]? = some caller) (begun : caller.lookup = some script) :
      Changes c (.speak number access)
        (c.left number caller (script.step (c.desk caller access)).1
          (script.step (c.desk caller access)).2)

theorem speaker?_some (h : c.speaker? number = some (caller, script)) :
    c.callers[number]? = some caller ∧ caller.lookup = some script := by
  unfold speaker? at h
  simp only [Option.bind_eq_bind, Option.bind_eq_some_iff] at h
  obtain ⟨mid, hnamed, left, hbegun, heq⟩ := h
  obtain ⟨rfl, rfl⟩ := Prod.mk.inj (Option.some.inj heq)
  exact ⟨hnamed, hbegun⟩

theorem speaker?_eq (hnamed : c.callers[number]? = some caller)
    (hbegun : caller.lookup = some script) : c.speaker? number = some (caller, script) := by
  simp only [speaker?, hnamed, hbegun, Option.bind_eq_bind, Option.bind_some, Option.pure_def]

theorem begin_cases (c : Crowd) (number : Nat)
    (lookup : String → Script (Except StoreError (Option Resolved))) :
    c.begin number lookup = c ∨
      ∃ caller, c.callers[number]? = some caller ∧ caller.lookup = none ∧
        c.begin number lookup = { c with
          callers := c.callers.set number
            { caller with lookup := some (lookup caller.address) } } := by
  unfold begin
  split
  · next caller hnamed =>
    split
    · exact .inl rfl
    · next hwaits => exact .inr ⟨caller, hnamed, Option.not_isSome_iff_eq_none.1 hwaits, rfl⟩
  · exact .inl rfl

theorem changes_next (c : Crowd) (event : Event) : c.Changes event (c.next event) := by
  cases event with
  | call store address => exact .called store address
  | connect number =>
    show c.Changes _ (c.begin number (Script.lookup true))
    obtain heq | ⟨caller, hnamed, hwaits, heq⟩ := c.begin_cases number (Script.lookup true)
    · rw [heq]
      exact .idle
    · rw [heq]
      exact .connected hnamed hwaits
  | refuse number cause =>
    show c.Changes _ (c.begin number fun _ => .done (.error (.pool cause)))
    obtain heq | ⟨caller, hnamed, hwaits, heq⟩ :=
      c.begin_cases number fun _ => .done (.error (.pool cause))
    · rw [heq]
      exact .idle
    · rw [heq]
      exact .refused hnamed hwaits
  | speak number access =>
    simp only [next]
    split
    · exact .idle
    · next caller script hspeaker =>
      obtain ⟨hnamed, hbegun⟩ := speaker?_some hspeaker
      exact .spoken hnamed hbegun

theorem fails_speak (access : Access) (hnamed : c.callers[number]? = some caller)
    (hbegun : caller.lookup = some script) :
    c.fails (.speak number access) = script.fails (c.desk caller access) := by
  simp only [fails, speaker?_eq hnamed hbegun]

/-! ## One writer at a time -/

/-- At most one caller holds the right to write, and if one does the sheet shows it. -/
structure IsExclusive (c : Crowd) : Prop where
  shown : ∀ (i : Nat) (caller : Caller), c.callers[i]? = some caller → caller.holds = true →
    c.sheet.hasWriter = true
  alone : ∀ (i j : Nat) (a b : Caller), c.callers[i]? = some a → c.callers[j]? = some b →
    a.holds = true → b.holds = true → i = j

/-- When the right to write goes from hand to hand with one caller, at most one holds it. -/
theorem IsExclusive.of_hands (h : c.IsExclusive) (hnamed : c.callers[number]? = some caller)
    (hafter : after.callers = c.callers.set number other)
    (htaken : other.holds = true → caller.holds = true ∨ c.sheet.hasWriter = false)
    (hshown : after.sheet.hasWriter = (other.holds || (c.sheet.hasWriter && !caller.holds))) :
    after.IsExclusive := by
  constructor
  · intro i a ha hholds
    rw [hafter] at ha
    obtain ⟨-, rfl⟩ | ⟨hi, ha⟩ := getElem?_set_cases ha
    · rw [hshown, hholds, Bool.true_or]
    · have hfree : caller.holds = false := by
        cases hc : caller.holds with
        | false => rfl
        | true => exact absurd (h.alone _ _ _ _ ha hnamed hholds hc) hi
      rw [hshown, h.shown i a ha hholds, hfree]
      simp
  · intro i j a b ha hb hholds hholds'
    rw [hafter] at ha hb
    -- a writer beside the one who has just gone on would have kept the right from being taken
    have hother {k : Nat} {d : Caller} (hk : k ≠ number) (hd : c.callers[k]? = some d)
        (hd' : d.holds = true) : other.holds ≠ true := by
      intro ho
      obtain hc | hc := htaken ho
      · exact hk (h.alone _ _ _ _ hd hnamed hd' hc)
      · rw [h.shown k d hd hd'] at hc
        cases hc
    obtain ⟨hi, rfl⟩ | ⟨hi, ha'⟩ := getElem?_set_cases ha
    · obtain ⟨hj, rfl⟩ | ⟨hj, hb'⟩ := getElem?_set_cases hb
      · rw [hi, hj]
      · exact absurd hholds (hother hj hb' hholds')
    · obtain ⟨hj, rfl⟩ | ⟨hj, hb'⟩ := getElem?_set_cases hb
      · exact absurd hholds' (hother hi ha' hholds)
      · exact h.alone i j a b ha' hb' hholds hholds'

theorem IsExclusive.next (h : c.IsExclusive) (hc : c.Changes event after) : after.IsExclusive := by
  have hsame {number : Nat} {caller : Caller} (hnamed : c.callers[number]? = some caller) :
      c.sheet.hasWriter = (caller.holds || (c.sheet.hasWriter && !caller.holds)) := by
    cases hh : caller.holds with
    | false => simp
    | true => simp [h.shown number caller hnamed hh]
  cases hc with
  | idle => exact h
  | called store address =>
    have hold {i : Nat} {a : Caller}
        (ha : (c.callers ++ [⟨store, address, none, none, .none⟩])[i]? = some a)
        (hholds : a.holds = true) : c.callers[i]? = some a := by
      obtain ha | ⟨-, rfl⟩ := getElem?_append_cases ha
      · exact ha
      · cases hholds
    exact ⟨fun i a ha hh => h.shown i a (hold ha hh) hh,
      fun i j a b ha hb hh hh' => h.alone i j a b (hold ha hh) (hold hb hh') hh hh'⟩
  | @connected number caller named waits =>
    have hshown := hsame named
    exact h.of_hands named rfl .inl hshown
  | @refused number cause caller named waits =>
    have hshown := hsame named
    exact h.of_hands named rfl .inl hshown
  | @spoken number access caller script named begun =>
    have hheld : (c.desk caller access).holds = true → c.sheet.hasWriter = true :=
      h.shown number caller named
    have hhands := Desk.hands_step hheld script
    exact h.of_hands named rfl hhands.taken hhands.shown

/-- However statements follow each other, two callers never hold the right at once. -/
theorem isExclusive_run (h : c.IsExclusive) (events : List Event) : (c.run events).IsExclusive := by
  induction events generalizing c with
  | nil => exact h
  | cons event events ih => exact ih (h.next (changes_next c event))

end Crowd

end Gazetteer.Store
