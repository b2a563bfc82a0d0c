/-
Gazetteer.Proofs.Store.Silence — what a store on a location database never says.

A script that holds a notice on none of its ways never gives it, whatever its
statements come to. A lookup can only say that it cannot read an address where the
text is none. So a store that is asked for addresses and blocks alone never says so,
and neither do many lookups at once, however their statements follow each other.
-/
import Gazetteer.Proofs.Pool.Rest
import Gazetteer.Proofs.Store.Permanence
import Gazetteer.Proofs.Store.Settled

namespace Gazetteer.Store

open Gazetteer.Database

variable {α β : Type} {notice : Notice} {script : Script α} {desk : Desk} {w : World}

namespace Script

/-- On no way through the script, whatever its statements come to, is the notice given. -/
def NeverTells (notice : Notice) : Script α → Prop
  | done _ => True
  | tell other next => other ≠ notice ∧ next.NeverTells notice
  | encode _ next => ∀ value, (next value).NeverTells notice
  | ask _ next => ∀ answer, (next answer).NeverTells notice
  | hasTable _ next => ∀ answer, (next answer).NeverTells notice
  | execute _ next => ∀ outcome, (next outcome).NeverTells notice

theorem NeverTells.bind {f : α → Script β} (h : script.NeverTells notice)
    (hf : ∀ result, (f result).NeverTells notice) : (script >>= f).NeverTells notice := by
  show (script.bind f).NeverTells notice
  induction script with
  | done result => exact hf result
  | tell other next ih => exact ⟨h.1, ih h.2⟩
  | encode address next ih => exact fun value => ih value (h value)
  | ask query next ih => exact fun answer => ih answer (h answer)
  | hasTable table next ih => exact fun answer => ih answer (h answer)
  | execute command next ih => exact fun outcome => ih outcome (h outcome)

/-- A statement of such a script does not give the notice, and what is left is such a script. -/
theorem NeverTells.step (h : script.NeverTells notice) (desk : Desk) :
    (script.step desk).1.NeverTells notice ∧
      (notice ∉ desk.notices → notice ∉ (script.step desk).2.notices) := by
  cases script with
  | done result => exact ⟨h, id⟩
  | tell other next =>
    refine ⟨h.2, fun hn => ?_⟩
    simp only [Script.step, Desk.tell, List.mem_append, List.mem_singleton, not_or]
    exact ⟨hn, Ne.symm h.1⟩
  | encode address next => exact ⟨h _, fun hn => (desk.encode_frame address).2 ▸ hn⟩
  | ask query next => exact ⟨h _, fun hn => (desk.ask_frame query).2 ▸ hn⟩
  | hasTable table next => exact ⟨h _, fun hn => (desk.hasTable_frame table).2 ▸ hn⟩
  | execute command next => exact ⟨h _, fun hn => (desk.obeys_execute command).notices ▸ hn⟩

/-- Nor does the whole script. -/
theorem NeverTells.run (h : script.NeverTells notice) (hn : notice ∉ desk.notices) :
    notice ∉ (script.run desk).2.notices := by
  induction script generalizing desk with
  | done result => exact hn
  | tell other next ih => exact ih h.2 ((h.step desk).2 hn)
  | encode address next ih => exact ih _ (h _) ((h.step desk).2 hn)
  | ask query next ih => exact ih _ (h _) ((h.step desk).2 hn)
  | hasTable table next ih => exact ih _ (h _) ((h.step desk).2 hn)
  | execute command next ih => exact ih _ (h _) ((h.step desk).2 hn)

/-! ## The conversations of a store -/

theorem neverTells_giveUp (result : α) : (giveUp result).NeverTells notice := fun _ => trivial

/-- Saving gives no notice at all. -/
theorem neverTells_save (location : Location) : (save location).NeverTells notice := by
  have hcommit : commitSaved.NeverTells notice := by
    intro outcome
    cases outcome with
    | done => trivial
    | duplicate => exact neverTells_giveUp _
    | failed => exact neverTells_giveUp _
  have hadd : (addAndCommit location).NeverTells notice := by
    intro outcome
    cases outcome with
    | done => exact hcommit
    | duplicate => exact neverTells_giveUp _
    | failed => exact neverTells_giveUp _
  have hbegun : (saveBegun location).NeverTells notice := by
    intro answer
    match answer with
    | .error cause => exact neverTells_giveUp _
    | .ok (some names) => exact neverTells_giveUp _
    | .ok none => exact hadd
  intro outcome
  cases outcome with
  | done => exact hbegun
  | duplicate => trivial
  | failed => trivial

theorem neverTells_find {address : String} (h : Address.kind address ≠ .invalid) :
    (find address).NeverTells notice := by
  unfold find
  cases hkind : Address.kind address with
  | v4 => exact fun value answer => trivial
  | block => exact fun answer => trivial
  | v6 => trivial
  | invalid => exact absurd hkind h

/-- A lookup says that it cannot read an address, on some way through it, if and only if the text is
none. -/
theorem neverTells_lookup_iff (persists : Bool) (address : String) :
    (lookup persists address).NeverTells .unreadableAddress ↔
      Address.kind address ≠ .invalid := by
  constructor
  · intro h hkind
    have hblocks : (lookupBlocks persists address).NeverTells .unreadableAddress := by
      cases persists with
      | false => exact h
      | true => exact h (.ok none)
    unfold lookupBlocks find at hblocks
    rw [hkind] at hblocks
    exact hblocks.1 rfl
  · intro hkind
    have hblocks : (lookupBlocks persists address).NeverTells .unreadableAddress := by
      refine (neverTells_find hkind).bind fun answer => ?_
      match answer with
      | .error cause => trivial
      | .ok none => trivial
      | .ok (some names) =>
        cases persists with
        | false => trivial
        | true =>
          refine (neverTells_save (names.location address)).bind fun writeBack => ?_
          cases writeBack with
          | failed cause => exact ⟨by simp, trivial⟩
          | _ => trivial
    cases persists with
    | false => exact hblocks
    | true =>
      intro answer
      match answer with
      | .error cause => trivial
      | .ok (some names) => trivial
      | .ok none => exact hblocks

theorem neverTells_firstMissing (tables : List Table) :
    (firstMissing tables).NeverTells notice := by
  induction tables with
  | nil => trivial
  | cons table tables ih =>
    intro answer
    match answer with
    | .error cause => trivial
    | .ok false => trivial
    | .ok true => exact ih

end Script

namespace Relational

/-! ## Operations -/

variable {s : Relational}

/-- Apart from that of the pool, an operation gives no notice that its script does not give. -/
theorem perform_silent {script : Script (Except StoreError α)} (closes : α → Bool)
    (h : script.NeverTells notice) (hleak : notice ≠ .leakedTransaction)
    (hn : notice ∉ w.notices) : notice ∉ (s.perform w script closes).2.2.notices := by
  unfold perform
  have hacquired := World.acquire_notices w s.pool
  rcases hacquire : w.acquire s.pool with ⟨taken, pool, mid⟩
  rw [hacquire] at hacquired
  dsimp only at hacquired
  cases taken with
  | error cause => exact hacquired ▸ hn
  | ok slot =>
    have htalked := talk_notices { s with pool } mid slot script (.error .query)
    rcases htalk : Relational.talk { s with pool } mid slot script (.error .query)
      with ⟨result, parted, after, w2⟩
    rw [htalk] at htalked
    dsimp only at htalked
    simp only [htalk]
    have hquiet : notice ∉ w2.notices := by
      rw [htalked, hacquired, List.mem_append, not_or]
      refine ⟨hn, ?_⟩
      cases hdesk : Relational.desk? { s with pool } mid slot.connection.draft
          (mid.disk.approach slot.connection.handle) with
      | none => exact List.not_mem_nil
      | some desk =>
        obtain ⟨sheet, -, rfl⟩ := Option.map_eq_some_iff.1 hdesk
        exact h.run List.not_mem_nil
    have hpart (isClosed : Bool) : notice ∉ (if isClosed then w2.discard after.pool parted
        else w2.release after.pool parted).2.notices := by
      cases isClosed with
      | true => exact hquiet
      | false =>
        show notice ∉ (w2.release after.pool parted).2.notices
        rw [World.release_notices, List.mem_append, not_or]
        refine ⟨hquiet, ?_⟩
        unfold Pool.release
        split
        · exact List.not_mem_nil
        · split <;> simp [hleak]
    exact hpart _

/-- A store that is asked for an address or a block can read it. -/
theorem resolve_silent {address : String} (h : Address.kind address ≠ .invalid)
    (hn : .unreadableAddress ∉ w.notices) :
    .unreadableAddress ∉ (s.resolve w address).2.2.notices := by
  have hquiet := perform_silent (s := s) (fun found : Option Resolved =>
    found.any (·.writeBack.isFailed)) ((Script.neverTells_lookup_iff s.persists address).2 h)
    (by simp) hn
  unfold resolve
  rcases hperform : s.perform w (Script.lookup s.persists address)
    (fun found => found.any (·.writeBack.isFailed)) with ⟨answer, after, later⟩
  rw [hperform] at hquiet ⊢
  have htell {told : Notice} (hne : .unreadableAddress ≠ told) :
      .unreadableAddress ∉ (later.tell [told]).notices := by
    simpa [World.tell] using ⟨hquiet, hne⟩
  cases answer with
  | ok found => exact hquiet
  | error cause => cases cause <;> exact htell Notice.noConfusion

/-- To open a store is to read no address. -/
theorem openExisting_silent {path : String} {options : Options} (hleak : notice ≠ .leakedTransaction)
    (hn : notice ∉ w.notices) : notice ∉ (openExisting w path options).2.notices := by
  unfold openExisting
  split
  · exact hn
  · next prepared hprepare =>
    have hquiet := perform_silent (s := prepared) (fun _ => false)
      (Script.neverTells_firstMissing [.saved, .blocks, .places]) hleak hn
    unfold performAndKeep
    rcases hperform : prepared.perform w (Script.firstMissing [.saved, .blocks, .places])
      (fun _ => false) with ⟨answer, after, later⟩
    rw [hperform] at hquiet
    have hclosed : notice ∉ (later.closeAll after.pool.idle).notices := by
      rwa [World.closeAll_notices]
    match answer with
    | .error cause => exact hclosed
    | .ok (some table) => exact hclosed
    | .ok none => exact hquiet

end Relational

/-! ## Many lookups at once -/

/-- An event that asks a store asks for an address or a block. -/
def Event.IsReadable : Event → Prop
  | .call _ address => Address.kind address ≠ .invalid
  | .connect _ | .refuse _ _ | .speak _ _ => True

/-- A caller asks for an address or a block, and will not be told that it cannot be read. -/
structure Caller.CanRead (caller : Caller) : Prop where
  address : Address.kind caller.address ≠ .invalid
  lookup : ∀ script ∈ caller.lookup, script.NeverTells .unreadableAddress

namespace Crowd

variable {c : Crowd} {event : Event} {events : List Event}

/-- All callers ask for addresses and blocks, and nobody has been told that one cannot be read. -/
structure CanRead (c : Crowd) : Prop where
  notices : .unreadableAddress ∉ c.notices
  callers : ∀ caller ∈ c.callers, caller.CanRead

/-- A caller may be in another place with such a lookup. -/
theorem CanRead.set {later : Caller} (h : c.CanRead) (number : Nat) (hl : later.CanRead) :
    ∀ caller ∈ c.callers.set number later, caller.CanRead := by
  intro caller hm
  rcases List.mem_or_eq_of_mem_set hm with hm | rfl
  · exact h.callers caller hm
  · exact hl

theorem CanRead.begin (h : c.CanRead) (number : Nat)
    (lookup : String → Script (Except StoreError (Option Resolved)))
    (hl : ∀ address, Address.kind address ≠ .invalid →
      (lookup address).NeverTells .unreadableAddress) :
    (c.begin number lookup).CanRead := by
  obtain hsame | ⟨caller, hnamed, -, hbegun⟩ := begin_cases c number lookup
  · rwa [hsame]
  · rw [hbegun]
    have hkind := (h.callers caller (List.mem_of_getElem? hnamed)).address
    refine ⟨h.notices, h.set number ⟨hkind, ?_⟩⟩
    intro script hscript
    obtain rfl := Option.some.inj hscript
    exact hl _ hkind

theorem CanRead.next (h : c.CanRead) (he : event.IsReadable) : (c.next event).CanRead := by
  cases event with
  | call store address =>
    refine ⟨h.notices, ?_⟩
    intro caller hm
    rcases List.mem_append.1 hm with hm | hm
    · exact h.callers caller hm
    · obtain rfl := List.mem_singleton.1 hm
      exact ⟨he, by simp⟩
  | connect number =>
    exact h.begin number _ fun address hkind => (Script.neverTells_lookup_iff true address).2 hkind
  | refuse number cause =>
    exact h.begin number (fun _ => .done (.error (.pool cause))) fun _ _ => trivial
  | speak number access =>
    cases hspeaker : c.speaker? number with
    | none => simpa [Crowd.next, hspeaker] using h
    | some speaker =>
      obtain ⟨caller, script⟩ := speaker
      obtain ⟨hnamed, hscript⟩ := speaker?_some hspeaker
      have hcaller := h.callers caller (List.mem_of_getElem? hnamed)
      obtain ⟨hrest, hquiet⟩ := (hcaller.lookup script hscript).step (c.desk caller access)
      simp only [Crowd.next, hspeaker]
      refine ⟨hquiet h.notices, h.set number ⟨hcaller.address, ?_⟩⟩
      intro left hleft
      obtain rfl := Option.some.inj hleft
      exact hrest

/-- However the statements of many lookups follow each other, nobody is told so. -/
theorem CanRead.run (h : c.CanRead) (he : ∀ event ∈ events, event.IsReadable) :
    (c.run events).CanRead := by
  induction events generalizing c with
  | nil => exact h
  | cons event events ih =>
    exact ih (h.next (he event (by simp))) fun other hm => he other (by simp [hm])

end Crowd

end Gazetteer.Store
