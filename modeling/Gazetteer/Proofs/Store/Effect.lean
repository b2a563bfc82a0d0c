/-
Gazetteer.Proofs.Store.Effect — what a resolution does to the file.

The answer of a resolution tells exactly what has become of the file: one row
more in the table of saved answers if it says that the location was saved, and
nothing else in any case, wherever the lookup has failed or turned back. A store
that does not persist asks only about blocks, so whatever stands in the place of
the saved answers makes no difference to it.
-/
import Gazetteer.Proofs.Store.Relational

namespace Gazetteer

open Gazetteer.Database

/-! ## The table of saved answers apart -/

/-- A content with something else in the place of the saved answers. -/
def Content.withSaved (saved : Slot Saved) : Content → Content
  | .bytes value => .bytes value
  | .database db => .database { db with saved }

theorem Content.database?_withSaved (content : Content) (saved : Slot Saved) :
    (content.database? = none ∧ (content.withSaved saved).database? = none) ∨
      ∃ db other, content.database? = some db ∧
        (content.withSaved saved).database? = some { db with saved := other } := by
  cases content with
  | bytes value =>
    simp only [withSaved, database?]
    split
    · exact .inr ⟨.empty, .absent, rfl, rfl⟩
    · exact .inl ⟨rfl, rfl⟩
  | database db => exact .inr ⟨db, saved, rfl, rfl⟩

theorem Content.not_gains_self {content : Content} {row : Saved} :
    ¬ content.Gains row content := by
  rintro ⟨db, rows, hdb, hrows, hsame⟩
  rw [hsame] at hdb
  have hsaved := congrArg Database.saved (Option.some.inj hdb)
  rw [hrows] at hsaved
  have hlength := congrArg List.length (Slot.table.inj hsaved)
  simp at hlength

namespace Store

/-- A desk with something else in the place of the saved answers. -/
def Desk.withSaved (saved : Slot Saved) (desk : Desk) : Desk :=
  { desk with sheet := { desk.sheet with content := desk.sheet.content.withSaved saved } }

/-- A question about blocks. -/
def IsBlockQuery (q : Query) : Prop := ∀ address, q ≠ .saved address

variable {α β : Type}

/-- A database answers a question about blocks without a look at the saved answers. -/
theorem ask_withSaved {q : Query} (hq : IsBlockQuery q) (saved : Slot Saved) (db : Database)
    (draft : Option Draft) :
    let db' : Database := { db with saved }
    (draft.elim db' db'.withDraft).ask q = (draft.elim db db.withDraft).ask q ∧
      (draft.elim db' db'.withDraft).tablesFor q = (draft.elim db db.withDraft).tablesFor q ∧
      .saved ∉ (draft.elim db db.withDraft).tablesFor q := by
  cases q with
  | saved address => exact absurd rfl (hq address)
  | covering area value =>
    cases draft <;> refine ⟨rfl, rfl, ?_⟩ <;> simp only [tablesFor] <;> split <;> simp
  | named block =>
    cases draft <;> refine ⟨rfl, rfl, ?_⟩ <;> simp only [tablesFor] <;> split <;> simp

theorem Desk.readable?_withSaved (saved : Slot Saved) (desk : Desk) :
    (desk.readable? = none ∧ (desk.withSaved saved).readable? = none) ∨
      ∃ db other, desk.readable? = some db ∧
        (desk.withSaved saved).readable? = some { db with saved := other } := by
  by_cases hm : desk.access.mayRead = true
  · have h := desk.sheet.content.database?_withSaved saved
    unfold readable?
    rwa [if_pos hm, if_pos (show (desk.withSaved saved).access.mayRead = true from hm)]
  · unfold readable?
    rw [if_neg hm, if_neg (show ¬(desk.withSaved saved).access.mayRead = true from hm)]
    exact .inl ⟨rfl, rfl⟩

/-- Nor does it make a difference to a desk what stands in their place. -/
theorem Desk.ask_withSaved {q : Query} (hq : IsBlockQuery q) (saved : Slot Saved)
    (desk : Desk) :
    (desk.withSaved saved).ask q = ((desk.ask q).1, (desk.ask q).2.withSaved saved) ∧
      (.saved ∈ (desk.ask q).2.contact.seen → .saved ∈ desk.contact.seen) := by
  have hfaults : (desk.withSaved saved).faults = desk.faults := rfl
  have harrived : (desk.withSaved saved).arrived = desk.arrived.withSaved saved := rfl
  rw [ask, ask, reach?_eq, reach?_eq, hfaults, harrived]
  cases desk.faults.headD false with
  | true => exact ⟨rfl, id⟩
  | false =>
    simp only [Bool.false_eq_true, if_false]
    obtain ⟨hr, hr'⟩ | ⟨db, other, hr, hr'⟩ := desk.readable?_withSaved saved
    · rw [hr, hr']
      exact ⟨rfl, by simp [arrived, touch]⟩
    · rw [hr, hr']
      obtain ⟨hanswer, htables, hseen⟩ := Store.ask_withSaved hq other db desk.draft
      refine ⟨Prod.ext hanswer ?_, ?_⟩
      · show ((desk.arrived.withSaved saved).touch _) = _
        exact congrArg (desk.arrived.withSaved saved).touch htables
      · intro hm
        obtain hm | hm := List.mem_append.1 hm
        · simpa [arrived, touch] using hm
        · exact absurd hm hseen

/-- A script that gives no command and asks nothing but what is allowed. -/
def Script.OnlyAsks (allowed : Query → Prop) : Script α → Prop
  | .done _ => True
  | .tell _ next => next.OnlyAsks allowed
  | .encode _ next => ∀ value, (next value).OnlyAsks allowed
  | .ask q next => allowed q ∧ ∀ answer, (next answer).OnlyAsks allowed
  | .hasTable _ _ | .execute _ _ => False

namespace Script

variable {allowed : Query → Prop}

theorem OnlyAsks.bind {script : Script α} {next : α → Script β} (h : script.OnlyAsks allowed)
    (hn : ∀ value, (next value).OnlyAsks allowed) : (script >>= next).OnlyAsks allowed := by
  show (script.bind next).OnlyAsks allowed
  induction script with
  | done result => exact hn result
  | tell notice rest ih => exact ih h
  | encode address rest ih => exact fun value => ih value (h value)
  | ask q rest ih => exact ⟨h.1, fun answer => ih answer (h.2 answer)⟩
  | hasTable table rest ih => exact h.elim
  | execute command rest ih => exact h.elim

theorem onlyAsks_find (address : String) : (find address).OnlyAsks IsBlockQuery := by
  unfold find
  split
  · exact fun value => ⟨by intro address; simp, fun answer => trivial⟩
  · exact ⟨by intro address; simp, fun answer => trivial⟩
  · trivial
  · trivial

/-- Without persistence a lookup asks only about blocks. -/
theorem onlyAsks_lookup (address : String) : (lookup false address).OnlyAsks IsBlockQuery := by
  rw [lookup_false]
  unfold lookupBlocks
  refine (onlyAsks_find address).bind ?_
  intro answer
  match answer with
  | .error cause => trivial
  | .ok none => trivial
  | .ok (some names) => trivial

/-- A script that asks only about blocks does the same whatever stands in the place of the saved
answers, and reads no row of them. -/
theorem OnlyAsks.run_withSaved {script : Script α} (h : script.OnlyAsks IsBlockQuery)
    (saved : Slot Saved) (desk : Desk) :
    script.run (desk.withSaved saved) =
        ((script.run desk).1, (script.run desk).2.withSaved saved) ∧
      (.saved ∈ (script.run desk).2.contact.seen → .saved ∈ desk.contact.seen) := by
  induction script generalizing desk with
  | done result => exact ⟨rfl, id⟩
  | tell notice next ih => exact ih h (desk.tell notice)
  | encode address next ih =>
    have hencode : (desk.withSaved saved).encode address =
        ((desk.encode address).1, (desk.encode address).2.withSaved saved) := by
      unfold Desk.encode
      simp only [show (desk.withSaved saved).encodings = desk.encodings from rfl]
      split <;> rfl
    have hseen : (desk.encode address).2.contact = desk.contact := by
      unfold Desk.encode
      split <;> rfl
    obtain ⟨hrun, hm⟩ := ih _ (h (desk.encode address).1) (desk.encode address).2
    refine ⟨?_, fun hs => hseen ▸ hm hs⟩
    simp only [run, hencode]
    exact hrun
  | ask q next ih =>
    obtain ⟨hask, hs⟩ := Desk.ask_withSaved h.1 saved desk
    obtain ⟨hrun, hm⟩ := ih _ (h.2 (desk.ask q).1) (desk.ask q).2
    refine ⟨?_, hs ∘ hm⟩
    simp only [run, hask]
    exact hrun
  | hasTable table next ih => exact h.elim
  | execute command next ih => exact h.elim

end Script

/-! ## Resolving -/

/-- An answer tells exactly what a resolution has done to a content. -/
structure Accounts (persists : Bool) (address : String) (before after : Content)
    (found : Option Resolved) : Prop where
  gains : (∃ row, before.Gains row after) ↔ ∃ r ∈ found, r.writeBack = .persisted
  row : ∀ r ∈ found, r.writeBack = .persisted →
    r.location.address = address ∧ before.Gains (.ofLocation r.location) after
  same : (∀ r ∈ found, r.writeBack ≠ .persisted) → after = before
  disabled : persists = false → ∀ r ∈ found, r.writeBack = .disabled

theorem Accounts.of_same {persists : Bool} {address : String} {content : Content}
    {found : Option Resolved} (hf : ∀ r ∈ found, r.writeBack ≠ .persisted)
    (hd : persists = false → ∀ r ∈ found, r.writeBack = .disabled) :
    Accounts persists address content content found where
  gains := by
    constructor
    · rintro ⟨row, h⟩
      exact absurd h Content.not_gains_self
    · rintro ⟨r, hr, h⟩
      exact absurd h (hf r hr)
  row r hr h := absurd h (hf r hr)
  same _ := rfl
  disabled := hd

theorem join_eq_none {found : Except StoreError (Option Resolved)}
    (h : ∀ resolved, found ≠ .ok (some resolved)) : found.toOption.join = none := by
  match found with
  | .error cause => rfl
  | .ok none => rfl
  | .ok (some resolved) => exact absurd rfl (h resolved)

/-- Nothing is found in a database that may not be read. -/
theorem unreadable_outcome {persists : Bool} {address : String} {desk after : Desk}
    {found : Except StoreError (Option Resolved)} (hr : desk.readable? = none)
    (h : Script.LookupOutcome persists address desk after found) :
    found.toOption.join = none := by
  cases h with
  | nothing hempty hc => exact join_eq_none hempty
  | loaded he hdb hsaved hc => exact nomatch hr.symm.trans hdb
  | located hdb hu hl hsave => exact nomatch hr.symm.trans hdb

/-- A lookup accounts for what it has done to its sheet, if no trigger drops rows unnoticed. -/
theorem accounts_of_outcome {persists : Bool} {address : String} {desk after : Desk}
    {found : Except StoreError (Option Resolved)}
    (ht : ∀ db, desk.readable? = some db → db.trigger ≠ some .ignore)
    (h : Script.LookupOutcome persists address desk after found) :
    Accounts persists address desk.sheet.content after.sheet.content found.toOption.join := by
  cases h with
  | nothing hempty hc =>
    rw [hc, join_eq_none hempty]
    exact .of_same (by simp) (by simp)
  | loaded he hdb hsaved hc =>
    rw [hc]
    refine .of_same ?_ (by simp [he])
    intro r hr
    obtain rfl := Option.some.inj hr
    simp
  | @located db names writeBack hdb hu hl hsave =>
    cases persists with
    | false =>
      obtain ⟨rfl, hc⟩ := hsave
      rw [hc]
      refine .of_same ?_ ?_
      · intro r hr
        obtain rfl := Option.some.inj hr
        simp
      · intro _ r hr
        obtain rfl := Option.some.inj hr
        rfl
    | true =>
      obtain ⟨-, -, -, ⟨hne, hc⟩ | ⟨rfl, db', hdb', hcase⟩⟩ := hsave
      · rw [hc]
        refine .of_same ?_ (by simp)
        intro r hr
        obtain rfl := Option.some.inj hr
        exact hne
      · obtain ⟨htrigger, -⟩ | ⟨-, hgains⟩ := hcase
        · exact absurd htrigger (ht db' hdb')
        · refine ⟨⟨fun _ => ⟨_, rfl, rfl⟩, fun _ => ⟨_, hgains⟩⟩, ?_,
            fun hne => absurd rfl (hne _ rfl), by simp⟩
          intro r hr _
          obtain rfl := Option.some.inj hr
          exact ⟨rfl, hgains⟩

namespace Relational

variable {path : Path} {number : Nat} {file : File} {s : Relational} {w : World}

/-- Whatever the file holds and whoever locks it, the answer of a resolution accounts for what has
become of the file, and without persistence the saved answers are neither read nor written. -/
theorem resolve_accounts (address : String) (hs : s.pool.ServesFile path number file)
    (hw : w.disk.Houses path number file)
    (ht : ∀ db, file.content = .database db → db.trigger ≠ some .ignore) :
    ∃ later, s.Leaves path number file later (s.resolve w address).2.1 (s.resolve w address).2.2 ∧
      Accounts s.persists address file.content later.content (s.resolve w address).1 ∧
      (s.persists = false → ∀ desk, s.opening? w = some desk →
        .saved ∉ ((Script.lookup false address).run desk).2.contact.seen ∧
        ∀ saved, (s.resolve w address).1 =
          ((Script.lookup false address).run (desk.withSaved saved)).1.toOption.join) := by
  obtain ⟨later, hleaves, hrun⟩ := resolve_performs address hs hw
  refine ⟨later, hleaves, ?_⟩
  cases hopening : s.opening? w with
  | none =>
    rw [hopening] at hrun
    obtain ⟨hnone, hcontent⟩ := hrun
    rw [hnone, hcontent]
    exact ⟨.of_same (by simp) (by simp), by simp⟩
  | some desk =>
    rw [hopening] at hrun
    obtain ⟨hopens, hfound, hcontent⟩ := hrun
    have htrigger : ∀ db, desk.readable? = some db → db.trigger ≠ some .ignore := by
      intro db hdb
      have hdb := hopens.readable? hdb
      cases hc : file.content with
      | bytes value =>
        simp only [hc, Content.database?] at hdb
        split at hdb
        · obtain rfl := Option.some.inj hdb
          simp [Database.empty]
        · cases hdb
      | database value =>
        rw [hc] at hdb
        obtain rfl := Option.some.inj hdb
        exact ht value hc
    have houtcome : Script.LookupOutcome s.persists address desk
        ((Script.lookup s.persists address).run desk).2
        ((Script.lookup s.persists address).run desk).1 :=
      (Script.lookup_outcome hopens.draft rfl).2
    have haccounts := accounts_of_outcome htrigger houtcome
    refine ⟨?_, ?_⟩
    · rw [hfound, hcontent]
      split
      · next hm => rwa [hopens.content hm] at haccounts
      · next hm =>
        have hr : desk.readable? = none := by
          unfold Desk.readable?
          rw [if_neg hm]
        rw [unreadable_outcome hr houtcome]
        exact .of_same (by simp) (by simp)
    · intro hp d hd
      obtain rfl := Option.some.inj hd
      rw [hfound, hp]
      have hseen : desk.contact.seen = [] := by rw [hopens.contact]; rfl
      have hasks := (Script.onlyAsks_lookup address).run_withSaved
      refine ⟨?_, ?_⟩
      · intro hm
        have hsaved := (hasks .absent desk).2 hm
        rw [hseen] at hsaved
        cases hsaved
      · intro saved
        rw [(hasks saved desk).1]

theorem resolve_accounts_dutch :
    ∃ later : File,
      (idle "geo.db" true).Leaves (Path.normal (FileName.ofText "geo.db")) 0
        (.ofContent (.database dutch)) later
        ((idle "geo.db" true).resolve (worldOf "geo.db" (.database dutch)) "10.0.0.7").2.1
        ((idle "geo.db" true).resolve (worldOf "geo.db" (.database dutch)) "10.0.0.7").2.2 ∧
      Accounts true "10.0.0.7" (.database dutch) later.content
        (some ⟨⟨"Netherlands", "North Holland", "10.0.0.7"⟩, .persisted⟩) := by
  have hs : (idle "geo.db" true).pool.ServesFile (Path.normal (FileName.ofText "geo.db")) 0
      (.ofContent (.database dutch)) := Pool.servesFile_new .standard leads_geo
  have hw : (worldOf "geo.db" (.database dutch)).disk.Houses
      (Path.normal (FileName.ofText "geo.db")) 0 (.ofContent (.database dutch)) :=
    Disk.houses_ofFile _ _
  have ht : ∀ db, (File.ofContent (.database dutch)).content = .database db →
      db.trigger ≠ some .ignore := by
    intro db hdb
    obtain rfl := Content.database.inj hdb
    decide
  have hfound : ((idle "geo.db" true).resolve (worldOf "geo.db" (.database dutch)) "10.0.0.7").1
      = some ⟨⟨"Netherlands", "North Holland", "10.0.0.7"⟩, .persisted⟩ := by
    decide +kernel
  obtain ⟨later, hleaves, haccounts, -⟩ := resolve_accounts "10.0.0.7" hs hw ht
  rw [hfound] at haccounts
  exact ⟨later, hleaves, haccounts⟩

end Relational

end Store

end Gazetteer
