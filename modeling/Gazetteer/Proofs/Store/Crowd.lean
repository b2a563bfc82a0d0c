/-
Gazetteer.Proofs.Store.Crowd — concurrent lookups save an answer once.

Many callers look address texts up at once, in stores that persist, and their
statements come in any order, with any locks and faults between them. The rows
that they add are the rows of those who are answered that theirs has been saved,
and no address text gets a second one. All who are answered with a location for
one address text get the same, that of the saved row if there is one. Where
nothing fails, one of the callers for an address text that is found saves it, and
the others see that it is there.
-/
import Gazetteer.Proofs.Store.Relational
import Gazetteer.Proofs.Store.Turn

namespace Gazetteer.Store

open Gazetteer.Database

variable {db : Database} {added : List Saved} {clean : Bool} {caller other : Caller}
  {address : String}

/-! ## Callers -/

/-- The caller looks an address text up and is answered that it has been saved. -/
def Caller.hasSaved (address : String) (caller : Caller) : Bool :=
  caller.address == address && caller.lookup.any (·.hasSaved)

/-- The caller waits for a connection or stands at a place of a lookup. -/
def Caller.Fits (db : Database) (added : List Saved) (clean : Bool) (caller : Caller) : Prop :=
  match caller.lookup with
  | none => caller.draft = none
  | some script => Stands db caller.address added clean caller.draft script

theorem Caller.Fits.later {clean' : Bool} (rows : List Saved) (h : caller.Fits db added clean)
    (hc : clean = false → clean' = false) (hr : rows = [] ∨ caller.holds = false) :
    caller.Fits db (added ++ rows) clean' := by
  unfold Fits at *
  split
  · next hl => rwa [hl] at h
  · next script hl =>
    rw [hl] at h
    exact h.later rows hc hr

theorem Caller.Fits.cleaner {clean' : Bool} (h : caller.Fits db added clean)
    (hc : clean = false → clean' = false) : caller.Fits db added clean' := by
  have hlater := h.later [] hc (.inl rfl)
  rwa [List.append_nil] at hlater

namespace Crowd

open Members

variable {c after : Crowd} {event : Event} {number : Nat}

/-! ## What every event keeps -/

/-- The crowd works on a database to which some rows have been added, one each for the address texts
whose callers say so; nothing has failed if the run is clean. -/
structure Inv (db : Database) (added : List Saved) (clean : Bool) (c : Crowd) : Prop where
  exclusive : c.IsExclusive
  truthful : ∀ store, Desk.IsTruthful (c.encodings store)
  content : (c.sheet.content.database? = none ∧ added = [] ∧ db.saved.rows? = none) ∨
    c.sheet.content.database? = some (db.adding added)
  found : ∀ row ∈ added, db.IsFound row
  distinct : (added.map (·.address)).Nodup
  counted : ∀ address, c.callers.countP (·.hasSaved address) =
    added.countP fun row => decide (row.address = .text address)
  fits : ∀ (i : Nat) (caller : Caller), c.callers[i]? = some caller → caller.Fits db added clean

/-- A caller goes on without adding a row. -/
theorem Inv.of_still {clean' : Bool} (h : Inv db added clean c)
    (hclean : clean = false → clean' = false) (hexclusive : after.IsExclusive)
    (htruth : ∀ store, Desk.IsTruthful (after.encodings store))
    (hcontent : after.sheet.content = c.sheet.content)
    (hnamed : c.callers[number]? = some caller)
    (hcallers : after.callers = c.callers.set number other)
    (hsaved : ∀ address, other.hasSaved address = caller.hasSaved address)
    (hfits : other.Fits db added clean') : Inv db added clean' after where
  exclusive := hexclusive
  truthful := htruth
  content := hcontent ▸ h.content
  found := h.found
  distinct := h.distinct
  counted address := by rw [hcallers, countP_set_of_eq hnamed (hsaved address), h.counted]
  fits i a ha := by
    rw [hcallers] at ha
    obtain ⟨-, rfl⟩ | ⟨-, ha⟩ := getElem?_set_cases ha
    · exact hfits
    · exact (h.fits i a ha).cleaner hclean

/-- A caller adds the row of its location; nobody else has the right to write then. -/
theorem Inv.of_adds {clean' : Bool} {names : Names} (h : Inv db added clean c)
    (hclean : clean = false → clean' = false) (hexclusive : after.IsExclusive)
    (htruth : ∀ store, Desk.IsTruthful (after.encodings store))
    (hnamed : c.callers[number]? = some caller) (hholds : caller.holds = true)
    (hfinds : db.Finds caller.address names)
    (hnew : ∀ row ∈ added, row.address ≠ .text caller.address)
    (hcontent : after.sheet.content.database? =
      some (db.adding (added ++ [.ofLocation (names.location caller.address)])))
    (hcallers : after.callers = c.callers.set number other)
    (hbefore : ∀ address, caller.hasSaved address = false)
    (hafter : ∀ address, other.hasSaved address = (caller.address == address))
    (hfits : other.Fits db (added ++ [.ofLocation (names.location caller.address)]) clean') :
    Inv db (added ++ [.ofLocation (names.location caller.address)]) clean' after where
  exclusive := hexclusive
  truthful := htruth
  content := .inr hcontent
  found row hm := by
    obtain hm | hm := List.mem_append.1 hm
    · exact h.found row hm
    · obtain rfl := List.mem_singleton.1 hm
      exact ⟨caller.address, names, hfinds, rfl⟩
  distinct := by
    rw [List.map_append, List.nodup_append]
    refine ⟨h.distinct, by simp, ?_⟩
    intro a ha b hb
    obtain ⟨row, hm, rfl⟩ := List.mem_map.1 ha
    obtain rfl : b = .text caller.address := List.mem_singleton.1 hb
    exact hnew row hm
  counted address := by
    have hrow : decide ((Saved.ofLocation (names.location caller.address)).address = .text address)
        = (caller.address == address) := by
      rw [Bool.eq_iff_iff, decide_eq_true_iff, beq_iff_eq]
      exact Cell.text.injEq _ _ ▸ Iff.rfl
    rw [hcallers, List.countP_append, List.countP_singleton, hrow, ← h.counted]
    by_cases ha : (caller.address == address) = true
    · rw [countP_set_of_new hnamed (hbefore address) ((hafter address).trans ha), if_pos ha]
    · have hn : other.hasSaved address = caller.hasSaved address := by
        rw [hafter, hbefore]
        simpa using ha
      rw [countP_set_of_eq hnamed hn, if_neg ha]
      rfl
  fits i a ha := by
    rw [hcallers] at ha
    obtain ⟨-, rfl⟩ | ⟨hi, ha⟩ := getElem?_set_cases ha
    · exact hfits
    · -- a new row could only disturb another who has the right to write, and there is none
      refine (h.fits i a ha).later _ hclean (.inr ?_)
      cases hh : a.holds with
      | false => rfl
      | true => exact absurd (h.exclusive.alone i number a caller ha hnamed hh hholds) hi

/-- A caller who says nothing yet comes to the crowd. -/
theorem Inv.of_called {clean' : Bool} (h : Inv db added clean c)
    (hclean : clean = false → clean' = false) (hexclusive : after.IsExclusive)
    (hencodings : after.encodings = c.encodings) (hsheet : after.sheet = c.sheet)
    (hcallers : after.callers = c.callers ++ [other]) (hlookup : other.lookup = none)
    (hdraft : other.draft = none) : Inv db added clean' after where
  exclusive := hexclusive
  truthful := hencodings ▸ h.truthful
  content := hsheet ▸ h.content
  found := h.found
  distinct := h.distinct
  counted address := by
    have hsaved : other.hasSaved address = false := by
      rw [Caller.hasSaved, hlookup, Option.any_none, Bool.and_false]
    rw [hcallers, List.countP_append, List.countP_singleton, hsaved, h.counted]
    rfl
  fits i a ha := by
    rw [hcallers] at ha
    obtain ha | ⟨-, rfl⟩ := getElem?_append_cases ha
    · exact (h.fits i a ha).cleaner hclean
    · unfold Caller.Fits
      rw [hlookup]
      exact hdraft

/-- A caller carries out its next statement. -/
theorem Inv.of_spoken {script : Script (Except StoreError (Option Resolved))}
    (ht : db.trigger ≠ some .ignore) (h : Inv db added clean c) (access : Access)
    (hnamed : c.callers[number]? = some caller) (hbegun : caller.lookup = some script)
    (hexclusive : (c.left number caller (script.step (c.desk caller access)).1
      (script.step (c.desk caller access)).2).IsExclusive) :
    ∃ rows, Inv db (added ++ rows) (clean && !c.fails (.speak number access))
      (c.left number caller (script.step (c.desk caller access)).1
        (script.step (c.desk caller access)).2) := by
  have hclean : clean = false → (clean && !c.fails (.speak number access)) = false := by
    rintro rfl
    rfl
  have hfails : script.fails (c.desk caller access) = true →
      (clean && !c.fails (.speak number access)) = false := by
    intro hf
    rw [fails_speak access hnamed hbegun, hf]
    exact Bool.and_false _
  have hstands : Stands db caller.address added clean caller.draft script := by
    have hfits := h.fits number caller hnamed
    unfold Caller.Fits at hfits
    rwa [hbegun] at hfits
  -- whatever others have done, the caller finds the first database with the rows added since
  have hdatabase : ∀ here, c.sheet.content.database? = some here → here = db.adding added := by
    intro here hhere
    obtain ⟨hn, -⟩ | hcontent := h.content
    · rw [hn] at hhere
      cases hhere
    · exact Option.some.inj (hhere.symm.trans hcontent)
  have hturn := Stands.turn (c.desk caller access) ht h.found hdatabase
    (h.truthful caller.store) hstands hclean hfails
  have htruth := (Script.continues_step script (c.desk caller access)).truthful
    (h.truthful caller.store)
  rcases hstep : script.step (c.desk caller access) with ⟨rest, desk⟩
  rw [hstep] at hexclusive hturn htruth
  dsimp only at hexclusive hturn htruth ⊢
  have htruth' (store : Nat) :
      Desk.IsTruthful ((c.left number caller rest desk).encodings store) := by
    simp only [left]
    split
    · exact htruth
    · exact h.truthful store
  cases hturn with
  | still content saved stands =>
    refine ⟨[], ?_⟩
    rw [List.append_nil]
    refine h.of_still hclean hexclusive htruth' content hnamed rfl ?_ stands
    intro address
    show (caller.address == address && rest.hasSaved) = _
    rw [Caller.hasSaved, hbegun, saved]
    rfl
  | @adds names holds finds new content before draft answer =>
    refine ⟨_, h.of_adds hclean hexclusive htruth' hnamed holds finds new content rfl ?_ ?_ ?_⟩
    · intro address
      rw [Caller.hasSaved, hbegun]
      show (_ && script.hasSaved) = false
      rw [before, Bool.and_false]
    · intro address
      show (caller.address == address && rest.hasSaved) = _
      rw [answer]
      exact Bool.and_true _
    · show Stands db caller.address _ _ desk.draft rest
      rw [draft, answer]
      exact .finished ⟨names, finds.namesFor, rfl, trivial⟩

theorem Inv.next (ht : db.trigger ≠ some .ignore) (h : Inv db added clean c)
    (hc : c.Changes event after) :
    ∃ rows, Inv db (added ++ rows) (clean && !c.fails event) after := by
  have hclean : clean = false → (clean && !c.fails event) = false := by
    rintro rfl
    rfl
  have hexclusive := h.exclusive.next hc
  have hsame (he : Inv db added (clean && !c.fails event) after) :
      ∃ rows, Inv db (added ++ rows) (clean && !c.fails event) after :=
    ⟨[], by rwa [List.append_nil]⟩
  have hnone {caller : Caller} (hl : caller.lookup = none) (address : String) :
      caller.hasSaved address = false := by
    rw [Caller.hasSaved, hl, Option.any_none, Bool.and_false]
  have hdraft {number : Nat} {caller : Caller} (hn : c.callers[number]? = some caller)
      (hl : caller.lookup = none) : caller.draft = none := by
    have hfits := h.fits number caller hn
    unfold Caller.Fits at hfits
    rwa [hl] at hfits
  cases hc with
  | idle =>
    exact hsame { h with fits := fun i a ha => (h.fits i a ha).cleaner hclean }
  | called store address => exact hsame (h.of_called hclean hexclusive rfl rfl rfl rfl rfl)
  | @connected number caller named waits =>
    refine hsame (h.of_still hclean hexclusive h.truthful rfl named rfl ?_ ?_)
    · intro address
      rw [hnone waits]
      exact Bool.and_false _
    · show Stands db _ added _ caller.draft _
      rw [hdraft named waits]
      exact .reading
  | @refused number cause caller named waits =>
    refine hsame (h.of_still hclean hexclusive h.truthful rfl named rfl ?_ ?_)
    · intro address
      rw [hnone waits]
      exact Bool.and_false _
    · show Stands db _ added _ caller.draft _
      rw [hdraft named waits]
      exact .finished (Bool.and_false _)
  | @spoken number access caller script named begun =>
    exact h.of_spoken ht access named begun hexclusive

theorem Inv.run (ht : db.trigger ≠ some .ignore) (h : Inv db added clean c)
    (events : List Event) :
    ∃ rows, Inv db (added ++ rows) (clean && c.goesWell events) (c.run events) := by
  -- on the events, over all rows that may have been added before them
  induction events generalizing c added clean with
  | nil =>
    refine ⟨[], ?_⟩
    rwa [List.append_nil, goesWell, Bool.and_true]
  | cons event events ih =>
    obtain ⟨rows, hnext⟩ := h.next ht (changes_next c event)
    obtain ⟨more, hrun⟩ := ih hnext
    refine ⟨rows ++ more, ?_⟩
    rwa [← List.append_assoc, goesWell, ← Bool.and_assoc]

/-- Nobody has asked yet, and the numbers that are remembered are those of their addresses. -/
structure IsFresh (c : Crowd) : Prop where
  callers : c.callers = []
  truthful : ∀ store, Desk.IsTruthful (c.encodings store)

theorem IsFresh.inv (h : c.IsFresh) :
    Inv (c.sheet.content.database?.getD .empty) [] true c where
  exclusive := ⟨by simp [h.callers], by simp [h.callers]⟩
  truthful := h.truthful
  content := by
    cases c.sheet.content.database? with
    | none => exact .inl ⟨rfl, rfl, rfl⟩
    | some db => exact .inr (by rw [adding_nil]; rfl)
  found := by simp
  distinct := .nil
  counted address := by simp [h.callers]
  fits := by simp [h.callers]

/-! ## What is known of answers and rows -/

theorem Inv.saved_eq (h : Inv db added clean c) : c.saved = db.saved.rows?.getD [] ++ added := by
  unfold saved
  obtain ⟨hnone, rfl, hrows⟩ | hcontent := h.content
  · rw [hnone, hrows]
    rfl
  · rw [hcontent, Option.bind_some]
    cases added with
    | nil => rw [adding_nil, List.append_nil]
    | cons row rest =>
      obtain ⟨address, names, hfinds, -⟩ := h.found row List.mem_cons_self
      obtain ⟨rows, hrows, -⟩ := ask_saved_eq_none.1 hfinds.unsaved
      simp [adding, hrows, Slot.append, Slot.rows?]

theorem Inv.countP_le_one (h : Inv db added clean c) (address : String) :
    (added.countP fun row => decide (row.address = .text address)) ≤ 1 := by
  have hcount := List.nodup_iff_count.1 h.distinct (.text address)
  rw [List.count_eq_countP, List.countP_map] at hcount
  exact hcount

/-- Those who are answered that their location has been saved, among all who have asked. -/
theorem countP_answers (c : Crowd) (address : String) :
    ((c.answers address).countP fun r => decide (r.writeBack = .persisted)) =
      c.callers.countP (·.hasSaved address) := by
  unfold answers
  rw [List.countP_filterMap]
  congr 1
  funext caller
  unfold Caller.hasSaved Caller.answer?
  by_cases ha : caller.address = address
  · rw [if_pos ha, beq_iff_eq.2 ha, Bool.true_and]
    match caller.lookup with
    | none => rfl
    | some (.done (.error cause)) => rfl
    | some (.done (.ok none)) => rfl
    | some (.done (.ok (some r))) => exact (Bool.beq_eq_decide_eq _ _).symm
    | some (.tell _ _) => rfl
    | some (.encode _ _) => rfl
    | some (.ask _ _) => rfl
    | some (.hasTable _ _) => rfl
    | some (.execute _ _) => rfl
  · rw [if_neg ha, beq_eq_false_iff_ne.2 ha, Bool.false_and]
    rfl

/-- Who has been answered has been answered soundly. -/
theorem Inv.sound (h : Inv db added clean c) (hc : caller ∈ c.callers)
    {found : Except StoreError (Option Resolved)} (hl : caller.lookup = some (.done found)) :
    IsSound db caller.address added clean found := by
  obtain ⟨i, hi⟩ := List.mem_iff_getElem?.1 hc
  have hfits := h.fits i caller hi
  unfold Caller.Fits at hfits
  rw [hl] at hfits
  generalize caller.draft = draft at hfits
  cases hfits with
  | finished sound => exact sound

theorem lookup_of_answer? {found : Option Resolved} (h : caller.answer? = some found) :
    ∃ result, caller.lookup = some (.done result) ∧ found = result.toOption.join := by
  unfold Caller.answer? at h
  split at h
  · next result hl => exact ⟨result, hl, (Option.some.inj h).symm⟩
  · cases h

theorem mem_answers {r : Resolved} (h : r ∈ c.answers address) :
    ∃ caller ∈ c.callers, caller.address = address ∧
      caller.lookup = some (.done (.ok (some r))) := by
  obtain ⟨caller, hm, hr⟩ := List.mem_filterMap.1 h
  by_cases ha : caller.address = address
  · rw [if_pos ha] at hr
    obtain ⟨result, hl, hfound⟩ := lookup_of_answer? (Option.join_eq_some_iff.1 hr)
    match result with
    | .ok found =>
      obtain rfl : some r = found := hfound
      exact ⟨caller, hm, ha, hl⟩
  · rw [if_neg ha] at hr
    cases hr

/-- An answer is the location that the database gives from the first. -/
theorem Inv.location_of_mem (h : Inv db added clean c) {r : Resolved}
    (hr : r ∈ c.answers address) :
    ∃ names, db.namesFor true address = .ok (some names) ∧ r.location = names.location address := by
  obtain ⟨caller, hm, rfl, hl⟩ := mem_answers hr
  obtain ⟨names, hnames, hlocation, -⟩ := h.sound hm hl
  exact ⟨names, hnames, hlocation⟩

/-- The row of an address text has the names that the database gives from the first. -/
theorem Inv.names_of_row (h : Inv db added clean c) {names : Names} {row : Saved}
    (hnames : db.namesFor true address = .ok (some names))
    (hrow : (c.saved.find? fun row => decide (row.address = .text address)) = some row) :
    Names.read? row.country row.region = some names := by
  unfold saved at hrow
  obtain ⟨hnone, -⟩ | hcontent := h.content
  · rw [hnone] at hrow
    cases hrow
  · rw [hcontent, Option.bind_some] at hrow
    cases hrows : (db.adding added).saved with
    | absent =>
      rw [hrows] at hrow
      cases hrow
    | alien other =>
      rw [hrows] at hrow
      cases hrow
    | table rows =>
      rw [hrows] at hrow
      exact read?_of_namesFor hrows hrow ((namesFor_adding h.found address).trans hnames)

/-- Where nothing has failed, an answer for an address text that the database finds says that its
row has been saved or that it is there. -/
theorem Inv.answered (h : Inv db added true c) (ht : db.trigger = none) {names : Names}
    (hfinds : db.Finds address names) (hm : caller ∈ c.callers) (ha : caller.address = address)
    {found : Option Resolved} (hfound : caller.answer? = some found) :
    ∃ r, found = some r ∧
      (r.writeBack = .persisted ∨ r.writeBack = .loaded ∨ r.writeBack = .alreadyPresent) ∧
      0 < added.countP fun row => decide (row.address = .text address) := by
  subst ha
  obtain ⟨result, hl, rfl⟩ := lookup_of_answer? hfound
  have hsound := h.sound hm hl
  -- a row that is there although none was at first has been added
  have hpresent (hp : IsPresent db caller.address added) :
      0 < added.countP fun row => decide (row.address = .text caller.address) := by
    refine Nat.pos_of_ne_zero fun hzero => hp ht (ask_adding_eq_none.2 ⟨hfinds.unsaved, ?_⟩)
    intro row hrow he
    exact List.countP_eq_zero.1 hzero row hrow (decide_eq_true he)
  match result with
  | .error cause => cases hsound
  | .ok none =>
    have hnone : db.namesFor true caller.address = .ok none := hsound
    rw [hfinds.namesFor] at hnone
    cases hnone
  | .ok (some ⟨location, writeBack⟩) =>
    obtain ⟨given, -, hlocation, hhonest⟩ := hsound
    refine ⟨_, rfl, ?_⟩
    cases writeBack with
    | persisted =>
      refine ⟨.inl rfl, ?_⟩
      rw [← h.counted, List.countP_pos_iff]
      refine ⟨caller, hm, ?_⟩
      rw [Caller.hasSaved, hl]
      simp [Script.hasSaved]
    | loaded => exact ⟨.inr (.inl rfl), hpresent hhonest⟩
    | alreadyPresent => exact ⟨.inr (.inr rfl), hpresent hhonest⟩
    | disabled => cases hhonest
    | failed cause => cases hhonest

/-! ## Saving once -/

/-- Whatever order the statements of the callers come in and whatever fails, each address text gets
as many rows as there are callers who are answered that theirs has been saved, and that is at most
one; all who are answered with a location get the one and only, which is that of the row if there
is one. If nothing fails, one of those who are answered has saved it and all others see it. -/
theorem resolve_saves_once (hc : c.IsFresh)
    (hi : ∀ db, c.sheet.content.database? = some db → db.trigger ≠ some .ignore)
    (events : List Event) (address : String) :
    let now := c.run events
    (∃ added, now.saved = c.saved ++ added ∧
      ((now.answers address).countP fun r => decide (r.writeBack = .persisted)) =
        (added.countP fun row => decide (row.address = .text address)) ∧
      (added.countP fun row => decide (row.address = .text address)) ≤ 1) ∧
    (∀ r ∈ now.answers address, ∀ r' ∈ now.answers address, r.location = r'.location) ∧
    (∀ r ∈ now.answers address, ∀ row,
      (now.saved.find? fun row => decide (row.address = .text address)) = some row →
        Names.read? row.country row.region = some ⟨r.location.country, r.location.region⟩) ∧
    (c.goesWell events = true →
      ∀ db names, c.sheet.content.database? = some db → db.trigger = none →
        db.Finds address names →
        ∀ caller ∈ now.callers, caller.address = address →
          ∀ found, caller.answer? = some found →
            ((now.answers address).countP fun r => decide (r.writeBack = .persisted)) = 1 ∧
            ∃ r, found = some r ∧ (r.writeBack = .persisted ∨ r.writeBack = .loaded ∨
              r.writeBack = .alreadyPresent)) := by
  intro now
  have htrigger : (c.sheet.content.database?.getD .empty).trigger ≠ some .ignore := by
    cases hdb : c.sheet.content.database? with
    | none => nofun
    | some db => exact hi db hdb
  obtain ⟨added, hnow⟩ := hc.inv.run htrigger events
  rw [List.nil_append, Bool.true_and] at hnow
  have hcount : ((now.answers address).countP fun r => decide (r.writeBack = .persisted)) =
      (added.countP fun row => decide (row.address = .text address)) :=
    (countP_answers now address).trans (hnow.counted address)
  refine ⟨⟨added, ?_, hcount, hnow.countP_le_one address⟩, ?_, ?_, ?_⟩
  · have hstart := hc.inv.saved_eq
    rw [List.append_nil] at hstart
    rw [hnow.saved_eq, hstart]
  · intro r hr r' hr'
    obtain ⟨names, hnames, hlocation⟩ := hnow.location_of_mem hr
    obtain ⟨names', hnames', hlocation'⟩ := hnow.location_of_mem hr'
    obtain rfl : names = names' :=
      Option.some.inj (Except.ok.inj (hnames.symm.trans hnames'))
    rw [hlocation, hlocation']
  · intro r hr row hrow
    obtain ⟨names, hnames, hlocation⟩ := hnow.location_of_mem hr
    rw [hnow.names_of_row hnames hrow, hlocation]
    rfl
  · intro hwell db names hdb ht hfinds caller hm ha found hfound
    rw [hdb, Option.getD_some, hwell] at hnow
    obtain ⟨r, hr, hsays, hpos⟩ := hnow.answered ht hfinds hm ha hfound
    have hle := hnow.countP_le_one address
    exact ⟨by omega, r, hr, hsays⟩

/-- A connection that nothing keeps from anything. -/
def free : Access := ⟨true, true, true, true, false, true⟩

/-- Nobody has asked for anything on a database yet. -/
def on (db : Database) : Crowd := ⟨⟨.database db, false⟩, fun _ => .empty 1, [], [], []⟩

/-- Two callers ask two stores for an address text, and each of them has found its location before
either saves it. -/
def race (address : String) : List Event :=
  [.call 0 address, .call 1 address, .connect 0, .connect 1] ++
    [0, 1, 0, 1, 0, 1, 0, 0, 0, 0, 1, 1, 1].map (.speak · free)

theorem resolve_saves_once_dutch :
    let now := (on Relational.dutch).run (race "10.0.0.7")
    (now.answers "10.0.0.7").map (·.writeBack) = [.persisted, .alreadyPresent] ∧
      ((now.answers "10.0.0.7").countP fun r => decide (r.writeBack = .persisted)) = 1 := by
  intro now
  have hanswers : (now.answers "10.0.0.7").map (·.writeBack) = [.persisted, .alreadyPresent] := by
    decide +kernel
  have hfresh : (on Relational.dutch).IsFresh := ⟨rfl, fun _ => nofun⟩
  obtain ⟨-, -, -, hwell⟩ := resolve_saves_once hfresh
    (fun db hdb => by
      obtain rfl := Option.some.inj hdb
      decide)
    (race "10.0.0.7") "10.0.0.7"
  have hlocate : Relational.dutch.locate "10.0.0.7" =
      .ok (some ⟨"Netherlands", "North Holland"⟩) := by
    have hsome : (Relational.dutch.locate "10.0.0.7").toOption =
        some (some ⟨"Netherlands", "North Holland"⟩) := by decide +kernel
    cases hl : Relational.dutch.locate "10.0.0.7" with
    | error cause =>
      rw [hl] at hsome
      cases hsome
    | ok names? =>
      rw [hl] at hsome
      rw [Option.some.inj hsome]
  have hfinds : Relational.dutch.Finds "10.0.0.7" ⟨"Netherlands", "North Holland"⟩ :=
    ⟨rfl, hlocate⟩
  obtain ⟨r, hr⟩ : ∃ r, r ∈ now.answers "10.0.0.7" := by
    refine List.exists_mem_of_ne_nil _ ?_
    intro hn
    rw [hn] at hanswers
    cases hanswers
  obtain ⟨caller, hm, ha, hl⟩ := mem_answers hr
  have hanswer : caller.answer? = some (some r) := by
    rw [Caller.answer?, hl]
    rfl
  exact ⟨hanswers, (hwell (by decide +kernel) _ _ rfl rfl hfinds caller hm ha _ hanswer).1⟩

end Crowd

end Gazetteer.Store
