/-
Gazetteer.Proofs.Database.Additions — more rows of saved answers.

Rows that are added to the table of saved answers change the answers to nothing
else, and a saved answer that was there before stays the answer for its address
text. Where each added row is that of a location which the database finds and has
no saved answer for, the database gives the same names for every address text
before and after.
-/
import Gazetteer.Proofs.Store.Conversation

namespace Gazetteer.Database

variable {db : Database} {address : String} {names : Names} {rows more : List Saved}

theorem Slot.append_append {ρ : Type} (slot : Slot ρ) (rows more : List ρ) :
    (slot.append rows).append more = slot.append (rows ++ more) := by
  cases slot <;> simp [Slot.append]

@[simp] theorem adding_nil (db : Database) : db.adding [] = db := by
  rw [adding, Slot.append_nil]

theorem adding_adding (db : Database) (rows more : List Saved) :
    (db.adding rows).adding more = db.adding (rows ++ more) := by
  simp only [adding, Slot.append_append]

theorem locate_adding (db : Database) (rows : List Saved) (address : String) :
    (db.adding rows).locate address = db.locate address :=
  SameReference.locate ⟨rfl, rfl, rfl⟩ address

theorem mem_saved_adding {all : List Saved} {row : Saved}
    (h : (db.adding rows).saved = .table all) (hm : row ∈ rows) : row ∈ all := by
  unfold adding at h
  cases hs : db.saved with
  | absent => simp [hs, Slot.append] at h
  | alien other => simp [hs, Slot.append] at h
  | table old =>
    simp only [hs, Slot.append, Slot.table.injEq] at h
    exact h ▸ List.mem_append_right old hm

/-! ## Saved answers -/

theorem ask_saved_eq_none :
    db.ask (.saved address) = .ok none ↔
      ∃ rows, db.saved = .table rows ∧ ∀ row ∈ rows, row.address ≠ .text address := by
  unfold ask
  cases db.saved with
  | absent => simp [Slot.rows?]
  | alien other => simp [Slot.rows?]
  | table rows =>
    simp only [Slot.rows?, Slot.table.injEq, exists_eq_left']
    cases hf : rows.find? fun row => decide (row.address = .text address) with
    | none => simpa using hf
    | some row =>
      have hm := List.mem_of_find?_eq_some hf
      have haddress : row.address = .text address := by simpa using List.find?_some hf
      simp only
      constructor
      · intro h
        split at h
        · cases h
        · cases h
      · intro h
        exact absurd haddress (h row hm)

/-- There is no saved answer after the addition if there was none before and none has been added. -/
theorem ask_adding_eq_none :
    (db.adding rows).ask (.saved address) = .ok none ↔
      db.ask (.saved address) = .ok none ∧ ∀ row ∈ rows, row.address ≠ .text address := by
  rw [ask_saved_eq_none, ask_saved_eq_none]
  constructor
  · rintro ⟨all, hall, hnone⟩
    unfold adding at hall
    cases hs : db.saved with
    | absent => simp [hs, Slot.append] at hall
    | alien other => simp [hs, Slot.append] at hall
    | table old =>
      simp only [hs, Slot.append, Slot.table.injEq] at hall
      subst hall
      exact ⟨⟨old, rfl, fun row hm => hnone row (List.mem_append_left _ hm)⟩,
        fun row hm => hnone row (List.mem_append_right _ hm)⟩
  · rintro ⟨⟨old, hold, hnone⟩, hmore⟩
    refine ⟨old ++ rows, by simp [adding, hold, Slot.append], ?_⟩
    intro row hm
    obtain hm | hm := List.mem_append.1 hm
    · exact hnone row hm
    · exact hmore row hm

/-- An answer that was saved before stays the answer. -/
theorem ask_adding_of_ne (h : db.ask (.saved address) ≠ .ok none) (rows : List Saved) :
    (db.adding rows).ask (.saved address) = db.ask (.saved address) := by
  unfold ask at h ⊢
  unfold adding
  cases hs : db.saved with
  | absent => rfl
  | alien other => rfl
  | table old =>
    simp only [hs, Slot.append, Slot.rows?, List.find?_append] at h ⊢
    cases hf : old.find? fun row => decide (row.address = .text address) with
    | none => simp [hf] at h
    | some row => rfl

/-- The row of an address text has the names that the database gives for it. -/
theorem read?_of_namesFor {row : Saved} (hrows : db.saved = .table rows)
    (hf : (rows.find? fun row => decide (row.address = .text address)) = some row)
    (h : db.namesFor true address = .ok (some names)) :
    Names.read? row.country row.region = some names := by
  rw [Database.namesFor, if_pos rfl] at h
  cases hread : Names.read? row.country row.region with
  | none =>
    have hask : db.ask (.saved address) = .error .query := by
      unfold ask
      simp only [hrows, Slot.rows?, hf, hread]
    rw [hask] at h
    cases h
  | some given =>
    have hask : db.ask (.saved address) = .ok (some given) := by
      unfold ask
      simp only [hrows, Slot.rows?, hf, hread]
    rw [hask] at h
    exact Except.ok.inj h

/-! ## Additions that the database gives -/

/-- The database finds names for an address text among its blocks and has no saved answer. -/
structure Finds (db : Database) (address : String) (names : Names) : Prop where
  unsaved : db.ask (.saved address) = .ok none
  located : db.locate address = .ok (some names)

/-- The row is that of a location which the database finds. -/
def IsFound (db : Database) (row : Saved) : Prop :=
  ∃ address names, db.Finds address names ∧ row = .ofLocation (names.location address)

theorem Finds.namesFor (h : db.Finds address names) :
    db.namesFor true address = .ok (some names) := by
  rw [Database.namesFor, if_pos rfl, h.unsaved]
  exact h.located

/-- An answer that has been added is one that the database finds. -/
theorem ask_adding_of_none (hr : ∀ row ∈ rows, db.IsFound row)
    (hn : db.ask (.saved address) = .ok none) :
    (db.adding rows).ask (.saved address) = .ok none ∨
      ∃ names, (db.adding rows).ask (.saved address) = .ok (some names) ∧
        db.Finds address names := by
  obtain ⟨old, hold, hnone⟩ := ask_saved_eq_none.1 hn
  have hfind : old.find? (fun row => decide (row.address = .text address)) = none := by
    simpa using hnone
  unfold ask adding
  simp only [hold, Slot.append, Slot.rows?, List.find?_append, hfind, Option.none_or]
  cases hf : rows.find? fun row => decide (row.address = .text address) with
  | none => exact .inl rfl
  | some row =>
    have haddress : row.address = .text address := by simpa using List.find?_some hf
    obtain ⟨other, names, hfinds, rfl⟩ := hr row (List.mem_of_find?_eq_some hf)
    obtain rfl : other = address := Cell.text.inj haddress
    exact .inr ⟨names, rfl, hfinds⟩

/-- The database gives the same names before and after. -/
theorem namesFor_adding (hr : ∀ row ∈ rows, db.IsFound row) (address : String) :
    (db.adding rows).namesFor true address = db.namesFor true address := by
  unfold Database.namesFor
  rw [if_pos rfl, if_pos rfl, locate_adding]
  by_cases hn : db.ask (.saved address) = .ok none
  · obtain hask | ⟨names, hask, hfinds⟩ := ask_adding_of_none hr hn
    · rw [hask, hn]
    · rw [hask, hn, hfinds.located]
  · rw [ask_adding_of_ne hn]

/-- So what is saved after the addition is what the database has given before. -/
theorem namesFor_of_ask (hr : ∀ row ∈ rows, db.IsFound row)
    (h : (db.adding rows).ask (.saved address) = .ok (some names)) :
    db.namesFor true address = .ok (some names) := by
  rw [← namesFor_adding hr, Database.namesFor, if_pos rfl, h]

end Gazetteer.Database
