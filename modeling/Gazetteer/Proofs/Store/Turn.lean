/-
Gazetteer.Proofs.Store.Turn — a lookup among others, statement by statement.

A lookup that persists stands at one of a dozen places between its first question
and its answer. At each place something is known of the database that stays true
whatever rows others add: that there was no saved answer to begin with, or the
names that the blocks give. Only a lookup that is about to commit knows something
that others could make false, that there still is no row for its address text; but
then it holds the right to write, and no others add rows.
-/
import Gazetteer.Proofs.Database.Additions
import Gazetteer.Proofs.Store.Right

namespace Gazetteer.Store

open Gazetteer.Database

/-! ## The parts of a lookup -/

namespace Script

/-- The end of a lookup that has found a location and tried to save it. -/
def report (location : Location) (writeBack : WriteBack) :
    Script (Except StoreError (Option Resolved)) := do
  if writeBack.isFailed then say .notSaved
  pure (.ok (some ⟨location, writeBack⟩))

/-- The rest of a lookup after the question about the blocks. -/
def located (address : String) :
    Except StoreError (Option Names) → Script (Except StoreError (Option Resolved))
  | .error cause => pure (.error cause)
  | .ok none => pure (.ok none)
  | .ok (some names) => save (names.location address) >>= report (names.location address)

/-- The rest of a lookup after the question about saved answers. -/
def answered (address : String) :
    Except StoreError (Option Names) → Script (Except StoreError (Option Resolved))
  | .error cause => pure (.error cause)
  | .ok (some names) => pure (.ok (some ⟨names.location address, .loaded⟩))
  | .ok none => lookupBlocks true address

theorem lookupBlocks_v4 {address : String} (h : Address.kind address = .v4) :
    lookupBlocks true address = .encode address fun value =>
      .ask (.covering value.area value) (located address) := by
  show find address >>= located address = _
  simp only [find, h]
  rfl

theorem lookupBlocks_block {address : String} (h : Address.kind address = .block) :
    lookupBlocks true address = .ask (.named address) (located address) := by
  show find address >>= located address = _
  simp only [find, h]
  rfl

theorem lookupBlocks_v6 {address : String} (h : Address.kind address = .v6) :
    lookupBlocks true address = .done (.ok none) := by
  show find address >>= located address = _
  simp only [find, h]
  rfl

theorem lookupBlocks_invalid {address : String} (h : Address.kind address = .invalid) :
    lookupBlocks true address = .tell .unreadableAddress (.done (.ok none)) := by
  show find address >>= located address = _
  simp only [find, h]
  rfl

/-- The rest of saving, after each of its statements. -/
def begun (location : Location) : Outcome → Script WriteBack
  | .duplicate | .failed => pure (.failed .query)
  | .done => saveBegun location

def checked (location : Location) : Except StoreError (Option Names) → Script WriteBack
  | .error cause => giveUp (.failed cause)
  | .ok (some _) => giveUp .alreadyPresent
  | .ok none => addAndCommit location

def added : Outcome → Script WriteBack
  | .duplicate => giveUp .alreadyPresent
  | .failed => giveUp (.failed .query)
  | .done => commitSaved

def committed : Outcome → Script WriteBack
  | .done => pure .persisted
  | .duplicate | .failed => giveUp (.failed .query)

/-- The lookup has come to an answer that says its location has been saved. -/
def hasSaved : Script (Except StoreError (Option Resolved)) → Bool
  | done (.ok (some resolved)) => resolved.writeBack == .persisted
  | _ => false

end Script

/-! ## Places -/

section
variable (db : Database) (address : String) (added : List Saved) (clean : Bool)

/-- There is a saved answer for the address text, or a trigger has lied about it. -/
def IsPresent : Prop := db.trigger = none → (db.adding added).ask (.saved address) ≠ .ok none

/-- What is reported of saving, of which only a failure is not clean. -/
def IsHonest : WriteBack → Prop
  | .persisted => True
  | .loaded | .alreadyPresent => IsPresent db address added
  | .failed _ => clean = false
  | .disabled => False

/-- What a lookup answers. -/
def IsSound : Except StoreError (Option Resolved) → Prop
  | .error _ => clean = false
  | .ok none => db.namesFor true address = .ok none
  | .ok (some resolved) => ∃ names, db.namesFor true address = .ok (some names) ∧
      resolved.location = names.location address ∧
      IsHonest db address added clean resolved.writeBack

/-- Where a lookup stands, with its transaction and what is left of it. -/
inductive Stands : Option Draft → Script (Except StoreError (Option Resolved)) → Prop where
  | reading : Stands none (.ask (.saved address) (.answered address))
  | numbering (unsaved : db.ask (.saved address) = .ok none) (v4 : Address.kind address = .v4) :
      Stands none (.encode address fun value =>
        .ask (.covering value.area value) (.located address))
  | asking {q : Query} (unsaved : db.ask (.saved address) = .ok none)
      (same : ∀ db : Database, db.ask q = db.locate address) :
      Stands none (.ask q (.located address))
  | complaining (nothing : db.namesFor true address = .ok none) :
      Stands none (.tell .unreadableAddress (.done (.ok none)))
  | opening {names : Names} (finds : db.Finds address names) :
      Stands none (.execute .beginImmediate fun outcome =>
        .begun (names.location address) outcome >>= .report (names.location address))
  | checking {names : Names} {isWriting : Bool} (finds : db.Finds address names) :
      Stands (some (.begin isWriting)) (.ask (.saved address) fun answer =>
        .checked (names.location address) answer >>= .report (names.location address))
  | adding {names : Names} {isWriting : Bool} (finds : db.Finds address names) :
      Stands (some (.begin isWriting)) (.execute (.addSaved (names.location address)) fun outcome =>
        .added outcome >>= .report (names.location address))
  | committing {names : Names} (finds : db.Finds address names)
      (new : ∀ row ∈ added, row.address ≠ .text address) :
      Stands (some ⟨true, [.ofLocation (names.location address)], []⟩)
        (.execute .commit fun outcome =>
          .committed outcome >>= .report (names.location address))
  | leaving {names : Names} {draft : Option Draft} {writeBack : WriteBack}
      (finds : db.Finds address names) (tried : writeBack ≠ .persisted)
      (honest : IsHonest db address added clean writeBack) :
      Stands draft (.execute .rollback fun _ => .report (names.location address) writeBack)
  | warning {names : Names} {cause : StoreError} (finds : db.Finds address names)
      (failed : clean = false) :
      Stands none (.tell .notSaved (.done (.ok (some ⟨names.location address, .failed cause⟩))))
  | finished {found : Except StoreError (Option Resolved)}
      (sound : IsSound db address added clean found) : Stands none (.done found)

end

variable {db : Database} {address : String} {added : List Saved} {clean : Bool}
  {draft : Option Draft} {script : Script (Except StoreError (Option Resolved))}

/-! ## What stays known -/

theorem IsPresent.append (h : IsPresent db address added) (rows : List Saved) :
    IsPresent db address (added ++ rows) := by
  intro ht hn
  rw [← adding_adding] at hn
  exact h ht (ask_adding_eq_none.1 hn).1

theorem IsHonest.later {clean' : Bool} {writeBack : WriteBack} (rows : List Saved)
    (hc : clean = false → clean' = false) (h : IsHonest db address added clean writeBack) :
    IsHonest db address (added ++ rows) clean' writeBack := by
  cases writeBack with
  | persisted => trivial
  | loaded => exact IsPresent.append h rows
  | alreadyPresent => exact IsPresent.append h rows
  | failed cause => exact hc h
  | disabled => exact h

theorem IsSound.later {clean' : Bool} {found : Except StoreError (Option Resolved)}
    (rows : List Saved) (hc : clean = false → clean' = false)
    (h : IsSound db address added clean found) :
    IsSound db address (added ++ rows) clean' found := by
  match found with
  | .error cause => exact hc h
  | .ok none => exact h
  | .ok (some resolved) =>
    obtain ⟨names, hnames, hlocation, hhonest⟩ := h
    exact ⟨names, hnames, hlocation, hhonest.later rows hc⟩

/-- What is known at a place stays true when rows are added, unless the lookup has the right to
write. -/
theorem Stands.later {clean' : Bool} (rows : List Saved)
    (h : Stands db address added clean draft script) (hc : clean = false → clean' = false)
    (hr : rows = [] ∨ draft.any (·.isWriting) = false) :
    Stands db address (added ++ rows) clean' draft script := by
  cases h with
  | reading => exact .reading
  | numbering unsaved v4 => exact .numbering unsaved v4
  | asking unsaved same => exact .asking unsaved same
  | complaining nothing => exact .complaining nothing
  | opening finds => exact .opening finds
  | checking finds => exact .checking finds
  | adding finds => exact .adding finds
  | committing finds new =>
    obtain rfl | hw := hr
    · exact .committing finds (by simpa using new)
    · cases hw
  | leaving finds tried honest => exact .leaving finds tried (honest.later rows hc)
  | warning finds failed => exact .warning finds (hc failed)
  | finished sound => exact .finished (sound.later rows hc)

/-! ## One statement -/

/-- What a statement of a lookup comes to. -/
inductive Turn (db : Database) (address : String) (added : List Saved) (clean : Bool)
    (desk : Desk) (script : Script (Except StoreError (Option Resolved))) (after : Desk)
    (rest : Script (Except StoreError (Option Resolved))) : Prop where
  /-- The database stays as it is, and so does what the lookup says about saving. -/
  | still (content : after.sheet.content = desk.sheet.content)
      (saved : rest.hasSaved = script.hasSaved)
      (stands : Stands db address added clean after.draft rest)
  /-- The row of the location is added, and the lookup answers that it is. -/
  | adds {names : Names} (holds : desk.holds = true) (finds : db.Finds address names)
      (new : ∀ row ∈ added, row.address ≠ .text address)
      (content : after.sheet.content.database? =
        some (db.adding (added ++ [.ofLocation (names.location address)])))
      (before : script.hasSaved = false) (draft : after.draft = none)
      (answer : rest = .done (.ok (some ⟨names.location address, .persisted⟩)))

section
variable {clean' : Bool} {desk : Desk}

/-- A question outside a transaction, or inside one without rows, is answered by the database with
what has been added, or not at all. -/
theorem turn_ask {q : Query}
    {next : Except StoreError (Option Names) → Script (Except StoreError (Option Resolved))}
    (hg : ∀ here, desk.sheet.content.database? = some here → here = db.adding added)
    (hd : desk.draft = none ∨ ∃ isWriting, desk.draft = some (.begin isWriting))
    (hf : (Script.ask q next).fails desk = true → clean' = false)
    (hn : ∀ answer, (∀ cause, answer = .error cause → clean' = false) →
      (∀ names?, answer = .ok names? → (db.adding added).ask q = .ok names?) →
      (next answer).hasSaved = false ∧
        Stands db address added clean' desk.draft (next answer)) :
    Turn db address added clean' desk (.ask q next) ((Script.ask q next).step desk).2
      ((Script.ask q next).step desk).1 := by
  rcases hq : desk.ask q with ⟨answer, after⟩
  obtain ⟨hs, hdraft, -, hcase⟩ := Desk.ask_cases hq
  have hstep : (Script.ask q next).step desk = (next answer, after) := by
    show ((next (desk.ask q).1, (desk.ask q).2) : _ × _) = _
    rw [hq]
  have hfail (cause : StoreError) (he : answer = .error cause) : clean' = false := by
    refine hf ?_
    show (!(desk.ask q).1.isOk) = true
    rw [hq, he]
    rfl
  have hanswer (names? : Option Names) (ha : answer = .ok names?) :
      (db.adding added).ask q = .ok names? := by
    obtain he | ⟨here, hhere, he⟩ := hcase
    · rw [he] at ha
      cases ha
    · obtain rfl := hg here (Desk.mayRead_of_readable? hhere).2
      rw [← ha, he]
      obtain hd | ⟨isWriting, hd⟩ := hd
      · rw [hd]
        rfl
      · rw [hd]
        exact congrArg (·.ask q) (withDraft_begin _ isWriting).symm
  obtain ⟨hsaved, hstands⟩ := hn answer hfail hanswer
  rw [hstep]
  exact .still (by rw [hs]) hsaved (hdraft ▸ hstands)

theorem turn_reading (hr : ∀ row ∈ added, db.IsFound row)
    (hg : ∀ here, desk.sheet.content.database? = some here → here = db.adding added)
    (hd : desk.draft = none)
    (hf : (Script.ask (.saved address) (.answered address)).fails desk = true → clean' = false) :
    Turn db address added clean' desk (.ask (.saved address) (.answered address))
      ((Script.ask (.saved address) (.answered address)).step desk).2
      ((Script.ask (.saved address) (.answered address)).step desk).1 := by
  refine turn_ask hg (.inl hd) hf ?_
  intro answer herror hanswer
  rw [hd]
  match answer with
  | .error cause => exact ⟨rfl, .finished (herror cause rfl)⟩
  | .ok (some names) =>
    have hsaved := hanswer _ rfl
    refine ⟨rfl, .finished ⟨names, namesFor_of_ask hr hsaved, rfl, ?_⟩⟩
    intro _ hn
    rw [hsaved] at hn
    cases hn
  | .ok none =>
    have hunsaved := (ask_adding_eq_none.1 (hanswer _ rfl)).1
    have hnothing (hl : db.locate address = .ok none) : db.namesFor true address = .ok none := by
      rw [Database.namesFor, if_pos rfl, hunsaved]
      exact hl
    show (Script.lookupBlocks true address).hasSaved = false ∧ _
    unfold Script.answered
    cases hk : Address.kind address with
    | v4 =>
      rw [Script.lookupBlocks_v4 hk]
      exact ⟨rfl, .numbering hunsaved hk⟩
    | block =>
      rw [Script.lookupBlocks_block hk]
      refine ⟨rfl, .asking hunsaved ?_⟩
      intro db
      simp only [Database.locate, hk]
    | v6 =>
      rw [Script.lookupBlocks_v6 hk]
      exact ⟨rfl, .finished (hnothing (by simp only [Database.locate, hk]))⟩
    | invalid =>
      rw [Script.lookupBlocks_invalid hk]
      exact ⟨rfl, .complaining (hnothing (by simp only [Database.locate, hk]))⟩

theorem turn_asking {q : Query}
    (hg : ∀ here, desk.sheet.content.database? = some here → here = db.adding added)
    (hd : desk.draft = none) (hunsaved : db.ask (.saved address) = .ok none)
    (hsame : ∀ db : Database, db.ask q = db.locate address)
    (hf : (Script.ask q (.located address)).fails desk = true → clean' = false) :
    Turn db address added clean' desk (.ask q (.located address))
      ((Script.ask q (.located address)).step desk).2
      ((Script.ask q (.located address)).step desk).1 := by
  refine turn_ask hg (.inl hd) hf ?_
  intro answer herror hanswer
  rw [hsame, locate_adding] at hanswer
  rw [hd]
  match answer with
  | .error cause => exact ⟨rfl, .finished (herror cause rfl)⟩
  | .ok (some names) => exact ⟨rfl, .opening ⟨hunsaved, hanswer _ rfl⟩⟩
  | .ok none =>
    refine ⟨rfl, .finished ?_⟩
    show db.namesFor true address = .ok none
    rw [Database.namesFor, if_pos rfl, hunsaved]
    exact hanswer _ rfl

variable {names : Names}

/-- A command comes to one of its outcomes, of which only a failure is not clean. -/
theorem turn_execute {command : Command}
    {next : Outcome → Script (Except StoreError (Option Resolved))}
    (hf : (Script.execute command next).fails desk = true → clean' = false)
    (hn : ∀ outcome after, desk.execute command = (outcome, after) →
      (outcome = .failed → clean' = false) →
      Turn db address added clean' desk (.execute command next) after (next outcome)) :
    Turn db address added clean' desk (.execute command next)
      ((Script.execute command next).step desk).2 ((Script.execute command next).step desk).1 := by
  refine hn _ _ rfl fun hfailed => hf ?_
  exact beq_iff_eq.2 hfailed

variable {next : Outcome → Script (Except StoreError (Option Resolved))}

theorem turn_opening (hd : desk.draft = none) (hfinds : db.Finds address names)
    {outcome : Outcome} {after : Desk} (hc : desk.execute .beginImmediate = (outcome, after))
    (hf : outcome = .failed → clean' = false) :
    Turn db address added clean' desk (.execute .beginImmediate next) after
      (.begun (names.location address) outcome >>= .report (names.location address)) := by
  obtain ⟨rfl, hs, hdraft⟩ | ⟨rfl, -, hbegun⟩ := Desk.execute_beginImmediate hc
  · refine .still (by rw [hs]) rfl ?_
    rw [hdraft, hd]
    exact .warning hfinds (hf rfl)
  · obtain ⟨-, hs, hdraft⟩ | ⟨-, hs, hdraft⟩ := hbegun
    · refine .still (by rw [hs]) rfl ?_
      rw [hdraft]
      exact .checking hfinds
    · refine .still (by rw [hs]) rfl ?_
      rw [hdraft]
      exact .checking hfinds

theorem turn_checking {isWriting : Bool}
    (hg : ∀ here, desk.sheet.content.database? = some here → here = db.adding added)
    (hd : desk.draft = some (.begin isWriting)) (hfinds : db.Finds address names)
    (hf : (Script.ask (.saved address) fun answer =>
      .checked (names.location address) answer >>= .report (names.location address)).fails desk
        = true → clean' = false) :
    let script := Script.ask (.saved address) fun answer =>
      .checked (names.location address) answer >>= .report (names.location address)
    Turn db address added clean' desk script (script.step desk).2 (script.step desk).1 := by
  refine turn_ask hg (.inr ⟨isWriting, hd⟩) hf ?_
  intro answer herror hanswer
  rw [hd]
  match answer with
  | .error cause => exact ⟨rfl, .leaving hfinds nofun (herror cause rfl)⟩
  | .ok (some given) =>
    refine ⟨rfl, .leaving hfinds nofun ?_⟩
    intro _ hn
    rw [hanswer _ rfl] at hn
    cases hn
  | .ok none => exact ⟨rfl, .adding hfinds⟩

theorem turn_adding {isWriting : Bool} (ht : db.trigger ≠ some .ignore)
    (hg : ∀ here, desk.sheet.content.database? = some here → here = db.adding added)
    (hd : desk.draft = some (.begin isWriting)) (hfinds : db.Finds address names)
    {outcome : Outcome} {after : Desk}
    (hc : desk.execute (.addSaved (names.location address)) = (outcome, after))
    (hf : outcome = .failed → clean' = false) :
    Turn db address added clean' desk (.execute (.addSaved (names.location address)) next) after
      (.added outcome >>= .report (names.location address)) := by
  obtain ⟨hout, hs, hdraft⟩ | ⟨here, draft, rows, rfl, hhere, hdraft, -, hrows, hs, hcase⟩ :=
    Desk.execute_addSaved hc
  · refine .still (by rw [hs]) ?_ ?_
    · cases outcome <;> rfl
    · cases outcome with
      | done => exact absurd rfl hout
      | failed => exact .leaving hfinds nofun (hf rfl)
      | duplicate =>
        refine .leaving hfinds nofun ?_
        intro htrigger hn
        -- without a trigger, what is in the way is a row that the question would have found
        obtain ⟨here, draft, hhere, hdraft', hrow⟩ := Desk.execute_addSaved_duplicate hc
        obtain rfl := hg here (Desk.mayRead_of_readable? hhere).2
        obtain rfl := Option.some.inj (hd.symm.trans hdraft')
        obtain ⟨rows, hrows, row, hm, he⟩ := hrow htrigger
        obtain ⟨all, hall, hnone⟩ := ask_saved_eq_none.1 hn
        obtain rfl := Slot.table.inj (hrows.symm.trans hall)
        exact hnone row (by simpa [Draft.begin] using hm) he
  · obtain rfl := hg here (Desk.mayRead_of_readable? hhere).2
    obtain rfl := Option.some.inj (hd.symm.trans hdraft)
    obtain ⟨hignore, -⟩ | ⟨-, hnew, hafter⟩ := hcase
    · exact absurd hignore ht
    · refine .still (by rw [hs]) rfl ?_
      rw [hafter]
      exact .committing hfinds fun row hm =>
        hnew row (List.mem_append_left _ (mem_saved_adding hrows hm))

theorem turn_committing
    (hg : ∀ here, desk.sheet.content.database? = some here → here = db.adding added)
    (hd : desk.draft = some ⟨true, [.ofLocation (names.location address)], []⟩)
    (hfinds : db.Finds address names) (hnew : ∀ row ∈ added, row.address ≠ .text address)
    {outcome : Outcome} {after : Desk} (hc : desk.execute .commit = (outcome, after))
    (hf : outcome = .failed → clean' = false) :
    Turn db address added clean' desk (.execute .commit next) after
      (.committed outcome >>= .report (names.location address)) := by
  obtain ⟨rfl, hs, hdraft⟩ | ⟨here, draft, rfl, hhere, hdraft, hnone, -, hcontent⟩ :=
    Desk.execute_commit hc
  · refine .still (by rw [hs]) rfl ?_
    exact .leaving hfinds nofun (hf rfl)
  · obtain rfl := hg here (Desk.mayRead_of_readable? hhere).2
    obtain rfl := Option.some.inj (hd.symm.trans hdraft)
    refine .adds ?_ hfinds hnew ?_ rfl hnone rfl
    · rw [Desk.holds, hd]
      rfl
    · rw [hcontent, withDraft_saved, adding_adding]
      rfl

theorem turn_leaving {writeBack : WriteBack} (hfinds : db.Finds address names)
    (htried : writeBack ≠ .persisted) (hhonest : IsHonest db address added clean' writeBack) :
    Turn db address added clean' desk (.execute .rollback next) (desk.execute .rollback).2
      (.report (names.location address) writeBack) := by
  obtain ⟨hnone, hcontent, -⟩ := Desk.endTransaction_sheet desk
  have hfinished : IsSound db address added clean'
      (.ok (some ⟨names.location address, writeBack⟩)) :=
    ⟨names, hfinds.namesFor, rfl, hhonest⟩
  have hdraft : (desk.execute .rollback).2.draft = none := hnone
  cases writeBack with
  | persisted => exact absurd rfl htried
  | disabled => cases hhonest
  | failed cause => exact .still hcontent rfl (hdraft ▸ .warning hfinds hhonest)
  | loaded => exact .still hcontent rfl (hdraft ▸ .finished hfinished)
  | alreadyPresent => exact .still hcontent rfl (hdraft ▸ .finished hfinished)

end

/-- One statement of a lookup, wherever it stands. -/
theorem Stands.turn {clean' : Bool} (desk : Desk) (ht : db.trigger ≠ some .ignore)
    (hr : ∀ row ∈ added, db.IsFound row)
    (hg : ∀ here, desk.sheet.content.database? = some here → here = db.adding added)
    (htruth : Desk.IsTruthful desk.encodings)
    (h : Stands db address added clean desk.draft script) (hclean : clean = false → clean' = false)
    (hf : script.fails desk = true → clean' = false) :
    Turn db address added clean' desk script (script.step desk).2 (script.step desk).1 := by
  -- the place tells which statement comes next and what is known before it
  generalize hd : desk.draft = draft at h
  cases h with
  | reading => exact turn_reading hr hg hd hf
  | numbering unsaved v4 =>
    have hvalue := Desk.encode_fst address htruth
    refine .still (by simp [Script.step]) rfl ?_
    simp only [Script.step, hvalue, Desk.encode_draft, hd]
    exact .asking unsaved fun db => by simp only [Database.locate, v4]
  | asking unsaved same => exact turn_asking hg hd unsaved same hf
  | complaining nothing => exact .still rfl rfl (hd ▸ .finished nothing)
  | opening finds => exact turn_execute hf fun outcome after => turn_opening hd finds
  | checking finds => exact turn_checking hg hd finds hf
  | adding finds => exact turn_execute hf fun outcome after => turn_adding ht hg hd finds
  | committing finds new =>
    exact turn_execute hf fun outcome after => turn_committing hg hd finds new
  | leaving finds tried honest =>
    exact turn_leaving finds tried (by simpa using honest.later [] hclean)
  | @warning names cause finds failed =>
    exact .still rfl rfl (hd ▸ .finished ⟨names, finds.namesFor, rfl, hclean failed⟩)
  | finished sound => exact .still rfl rfl (hd ▸ .finished (by simpa using sound.later [] hclean))

end Gazetteer.Store
