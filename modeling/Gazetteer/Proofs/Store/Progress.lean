/-
Gazetteer.Proofs.Store.Progress — callers come to their answers.

A lookup has nine statements at the most, so a caller whose connection has carried
out nine has an answer, whatever the others have done between them. A caller whom
nobody disturbs is answered what the store answers to a resolution.
-/
import Gazetteer.Proofs.Store.Relational
import Gazetteer.Proofs.Store.Turn

namespace Gazetteer.Store

open Gazetteer.Database

namespace Script

variable {α : Type}

/-! ## How long a lookup takes -/

/-- The script is done after some statements at the most, whatever they come to. -/
def EndsWithin : Nat → Script α → Prop
  | 0, script => ∃ result, script = .done result
  | n + 1, script => ∀ desk, EndsWithin n (script.step desk).1

theorem endsWithin_done (n : Nat) (result : α) : EndsWithin n (.done result) := by
  induction n with
  | zero => exact ⟨result, rfl⟩
  | succ n ih => exact fun _ => ih

theorem EndsWithin.succ {n : Nat} {script : Script α} (h : EndsWithin n script) :
    EndsWithin (n + 1) script := by
  induction n generalizing script with
  | zero =>
    obtain ⟨result, rfl⟩ := h
    exact endsWithin_done 1 result
  | succ n ih => exact fun desk => ih (h desk)

theorem endsWithin_report (location : Location) (writeBack : WriteBack) :
    EndsWithin 1 (report location writeBack) := by
  cases writeBack with
  | failed cause => exact fun _ => ⟨_, rfl⟩
  | loaded => exact endsWithin_done 1 _
  | persisted => exact endsWithin_done 1 _
  | alreadyPresent => exact endsWithin_done 1 _
  | disabled => exact endsWithin_done 1 _

theorem endsWithin_giveUp (location : Location) (writeBack : WriteBack) :
    EndsWithin 2 (giveUp writeBack >>= report location) :=
  fun _ => endsWithin_report location writeBack

theorem endsWithin_commitSaved (location : Location) :
    EndsWithin 3 (commitSaved >>= report location) := by
  intro desk
  show EndsWithin 2 (committed (desk.execute .commit).1 >>= report location)
  cases (desk.execute .commit).1 with
  | done => exact endsWithin_done 2 _
  | duplicate => exact endsWithin_giveUp location _
  | failed => exact endsWithin_giveUp location _

theorem endsWithin_addAndCommit (location : Location) :
    EndsWithin 4 (addAndCommit location >>= report location) := by
  intro desk
  show EndsWithin 3 (added (desk.execute (.addSaved location)).1 >>= report location)
  cases (desk.execute (.addSaved location)).1 with
  | done => exact endsWithin_commitSaved location
  | duplicate => exact (endsWithin_giveUp location _).succ
  | failed => exact (endsWithin_giveUp location _).succ

theorem endsWithin_saveBegun (location : Location) :
    EndsWithin 5 (saveBegun location >>= report location) := by
  intro desk
  show EndsWithin 4 (checked location (desk.ask (.saved location.address)).1 >>= report location)
  match (desk.ask (.saved location.address)).1 with
  | .error cause => exact (endsWithin_giveUp location _).succ.succ
  | .ok (some _) => exact (endsWithin_giveUp location _).succ.succ
  | .ok none => exact endsWithin_addAndCommit location

theorem endsWithin_save (location : Location) :
    EndsWithin 6 (save location >>= report location) := by
  intro desk
  show EndsWithin 5 (begun location (desk.execute .beginImmediate).1 >>= report location)
  have hfailed : EndsWithin 1 (report location (.failed .query)) := endsWithin_report location _
  cases (desk.execute .beginImmediate).1 with
  | done => exact endsWithin_saveBegun location
  | duplicate => exact hfailed.succ.succ.succ.succ
  | failed => exact hfailed.succ.succ.succ.succ

theorem endsWithin_located (address : String) (answer : Except StoreError (Option Names)) :
    EndsWithin 6 (located address answer) := by
  match answer with
  | .error cause => exact endsWithin_done 6 _
  | .ok none => exact endsWithin_done 6 _
  | .ok (some names) => exact endsWithin_save (names.location address)

/-- A lookup that persists is done after nine statements at the most. -/
theorem endsWithin_lookup (address : String) : EndsWithin 9 (lookup true address) := by
  intro desk
  show EndsWithin 8 (answered address (desk.ask (.saved address)).1)
  match (desk.ask (.saved address)).1 with
  | .error cause => exact endsWithin_done 8 _
  | .ok (some names) => exact endsWithin_done 8 _
  | .ok none =>
    unfold answered
    cases hk : Address.kind address with
    | v4 =>
      rw [lookupBlocks_v4 hk]
      exact fun _ _ => endsWithin_located address _
    | block =>
      rw [lookupBlocks_block hk]
      exact fun _ => (endsWithin_located address _).succ
    | v6 =>
      rw [lookupBlocks_v6 hk]
      exact endsWithin_done 8 _
    | invalid =>
      rw [lookupBlocks_invalid hk]
      exact fun _ => endsWithin_done 7 _

/-- A statement that does not make a script shorter does not make it longer. -/
theorem EndsWithin.step {n : Nat} {script : Script α} (h : EndsWithin n script) (desk : Desk) :
    EndsWithin n (script.step desk).1 := by
  cases n with
  | zero =>
    obtain ⟨result, rfl⟩ := h
    exact ⟨result, rfl⟩
  | succ n => exact (h desk).succ

theorem run_step (script : Script α) (desk : Desk) :
    (script.step desk).1.run (script.step desk).2 = script.run desk := by
  cases script <;> rfl

end Script

/-! ## Among others -/

/-- The event is a statement of a caller. -/
def Event.isOf (number : Nat) : Event → Bool
  | speak other _ => other == number
  | call _ _ | connect _ | refuse _ _ => false

namespace Crowd

variable {c : Crowd} {event : Event} {number : Nat} {caller : Caller}
  {script : Script (Except StoreError (Option Resolved))}

theorem next_speak (access : Access) (hnamed : c.callers[number]? = some caller)
    (hbegun : caller.lookup = some script) :
    c.next (.speak number access) = c.left number caller (script.step (c.desk caller access)).1
      (script.step (c.desk caller access)).2 := by
  simp only [next, speaker?_eq hnamed hbegun]

theorem getElem?_left {rest : Script (Except StoreError (Option Resolved))} {desk : Desk}
    (hnamed : c.callers[number]? = some caller) :
    (c.left number caller rest desk).callers[number]? = some
      { caller with lookup := some rest, draft := desk.draft, contact := desk.contact } := by
  obtain ⟨hlt, -⟩ := List.getElem?_eq_some_iff.1 hnamed
  exact List.getElem?_set_self hlt

/-- What is not a statement of a caller leaves the caller alone. -/
theorem getElem?_next (hnamed : c.callers[number]? = some caller)
    (hbegun : caller.lookup = some script) (hof : event.isOf number = false) :
    (c.next event).callers[number]? = some caller := by
  have hchanges := changes_next c event
  generalize c.next event = after at hchanges
  have hother {k : Nat} {waiting other : Caller} (hk : c.callers[k]? = some waiting)
      (hl : waiting.lookup = none) : (c.callers.set k other)[number]? = some caller := by
    have hne : k ≠ number := by
      rintro rfl
      rw [Option.some.inj (hk.symm.trans hnamed), hbegun] at hl
      cases hl
    rw [List.getElem?_set_ne hne, hnamed]
  cases hchanges with
  | idle => exact hnamed
  | called store address =>
    obtain ⟨hlt, -⟩ := List.getElem?_eq_some_iff.1 hnamed
    exact (List.getElem?_append_left hlt).trans hnamed
  | connected named waits => exact hother named waits
  | refused named waits => exact hother named waits
  | @spoken k access speaker other named begun =>
    have hne : k ≠ number := by simpa [Event.isOf] using hof
    exact (List.getElem?_set_ne hne).trans hnamed

/-- A caller whose connection has carried out enough statements has an answer, whatever the others
have done between them. -/
theorem answered_of_speaks {n : Nat} (hnamed : c.callers[number]? = some caller)
    (hbegun : caller.lookup = some script) (hends : script.EndsWithin n) (events : List Event)
    (hcount : n ≤ events.countP (·.isOf number)) :
    ∃ later, (c.run events).callers[number]? = some later ∧ later.address = caller.address ∧
      later.answer?.isSome = true := by
  -- on the events: only the caller's own statements take something off the bound
  induction events generalizing c caller script n with
  | nil =>
    obtain rfl : n = 0 := Nat.le_zero.1 hcount
    obtain ⟨result, rfl⟩ := hends
    refine ⟨caller, hnamed, rfl, ?_⟩
    rw [Caller.answer?, hbegun]
    rfl
  | cons event events ih =>
    show ∃ later, ((c.next event).run events).callers[number]? = some later ∧ _
    rw [List.countP_cons] at hcount
    cases hof : event.isOf number with
    | false =>
      rw [hof] at hcount
      exact ih (getElem?_next hnamed hbegun hof) hbegun hends hcount
    | true =>
      rw [hof, if_pos rfl] at hcount
      cases event with
      | call store address => cases hof
      | connect other => cases hof
      | refuse other cause => cases hof
      | speak other access =>
        obtain rfl : other = number := beq_iff_eq.1 hof
        rw [next_speak access hnamed hbegun]
        have hstep : (script.step (c.desk caller access)).1.EndsWithin (n - 1) := by
          cases n with
          | zero => exact hends.step _
          | succ n => exact hends _
        obtain ⟨later, hlater, haddress, hanswer⟩ :=
          ih (getElem?_left hnamed) rfl hstep (by omega)
        exact ⟨later, hlater, haddress, hanswer⟩

/-- In particular one that has been connected and has carried out nine. -/
theorem answered_of_nine (hnamed : c.callers[number]? = some caller)
    (hwaits : caller.lookup = none) (events : List Event)
    (hcount : 9 ≤ events.countP (·.isOf number)) :
    ∃ later, (c.run (.connect number :: events)).callers[number]? = some later ∧
      later.address = caller.address ∧ later.answer?.isSome = true := by
  have hconnected : (c.next (.connect number)).callers[number]? =
      some { caller with lookup := some (.lookup true caller.address) } := by
    obtain ⟨hlt, -⟩ := List.getElem?_eq_some_iff.1 hnamed
    simp only [next, begin, hnamed, hwaits, Option.isSome_none, Bool.false_eq_true, if_false]
    exact List.getElem?_set_self hlt
  exact answered_of_speaks hconnected rfl (Script.endsWithin_lookup caller.address) events hcount

/-! ## Alone -/

variable {rest : Script (Except StoreError (Option Resolved))} {desk : Desk}

/-- Another statement of the caller who has just carried one out comes to the desk that is left. -/
theorem desk_left (c : Crowd) (number : Nat) (caller : Caller)
    (rest : Script (Except StoreError (Option Resolved))) (desk : Desk) :
    (c.left number caller rest desk).desk
      { caller with lookup := some rest, draft := desk.draft, contact := desk.contact }
      desk.access = desk := by
  simp only [Crowd.desk, left, if_true]

theorem left_left (c : Crowd) (number : Nat) (caller : Caller)
    (rest last : Script (Except StoreError (Option Resolved))) (desk later : Desk) :
    (c.left number caller rest desk).left number
      { caller with lookup := some rest, draft := desk.draft, contact := desk.contact } last later =
      c.left number caller last later := by
  simp only [left, List.set_set, Crowd.mk.injEq, and_true, true_and]
  funext store
  split <;> rfl

/-- The crowd comes to what a lookup comes to at once if one caller alone carries it out. -/
def ComesTo (access : Access) (number : Nat)
    (script : Script (Except StoreError (Option Resolved))) : Prop :=
  ∀ (c : Crowd) (caller : Caller), c.callers[number]? = some caller →
    caller.lookup = some script →
    ∃ n, c.run (List.replicate n (.speak number access)) =
      c.left number caller (.done (script.run (c.desk caller access)).1)
        (script.run (c.desk caller access)).2

theorem ComesTo.of_step {access : Access}
    (h : ∀ desk, ComesTo access number (script.step desk).1) : ComesTo access number script := by
  intro c caller hnamed hbegun
  have haccess := (Script.continues_step script (c.desk caller access)).access
  have hrun := Script.run_step script (c.desk caller access)
  have hnext := next_speak access hnamed hbegun
  have hrest := h (c.desk caller access)
  rcases hstep : script.step (c.desk caller access) with ⟨rest, desk⟩
  rw [hstep] at haccess hrun hnext hrest
  obtain rfl : desk.access = access := haccess
  obtain ⟨n, hn⟩ := hrest (c.left number caller rest desk)
    { caller with lookup := some rest, draft := desk.draft, contact := desk.contact }
    (getElem?_left hnamed) rfl
  rw [desk_left, left_left] at hn
  refine ⟨n + 1, ?_⟩
  rw [← hrun, ← hn, ← hnext]
  rfl

/-- Statement by statement a caller alone comes to what the lookup comes to at once. -/
theorem comesTo (access : Access) (number : Nat)
    (script : Script (Except StoreError (Option Resolved))) : ComesTo access number script := by
  induction script with
  | done result => exact fun c caller hnamed hbegun => ⟨1, next_speak access hnamed hbegun⟩
  | tell notice next ih => exact .of_step fun _ => ih
  | encode address next ih => exact .of_step fun desk => ih (desk.encode address).1
  | ask query next ih => exact .of_step fun desk => ih (desk.ask query).1
  | hasTable table next ih => exact .of_step fun desk => ih (desk.hasTable table).1
  | execute command next ih => exact .of_step fun desk => ih (desk.execute command).1

/-- One caller, who has a connection and is alone on a desk's sheet. -/
def single (desk : Desk) (address : String) : Crowd :=
  ⟨desk.sheet, fun _ => desk.encodings, desk.faults, desk.notices,
    [⟨0, address, some (.lookup true address), desk.draft, desk.contact⟩]⟩

/-- A caller alone is answered as a resolution of the store is. -/
theorem answers_single {path : Path} {file : File} {place : Nat} {s : Relational} {w : World}
    {desk : Desk} (address : String) (hp : s.persists = true)
    (hs : s.pool.ServesFile path place file) (hw : w.disk.Houses path place file)
    (ho : s.opening? w = some desk) :
    ∃ n, ((single desk address).run (List.replicate n (.speak 0 desk.access))).answers address =
      (s.resolve w address).1.toList := by
  obtain ⟨later, -, hresolves⟩ := Relational.resolve_performs address hs hw
  rw [ho, hp] at hresolves
  obtain ⟨-, hanswer, -⟩ := hresolves
  obtain ⟨n, hn⟩ := comesTo desk.access 0 (.lookup true address) (single desk address) _ rfl rfl
  refine ⟨n, ?_⟩
  rw [hn, hanswer]
  show (List.filterMap _ [_]) = _
  have hdesk : (single desk address).desk
      ⟨0, address, some (.lookup true address), desk.draft, desk.contact⟩ desk.access = desk := rfl
  rw [hdesk]
  generalize ((Script.lookup true address).run desk).1 = found
  simp only [List.filterMap_cons, List.filterMap_nil, if_true, Caller.answer?, Option.join_some]
  cases found.toOption.join <;> rfl

end Crowd

end Gazetteer.Store
