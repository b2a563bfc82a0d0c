/-
Gazetteer.Proofs.RecencyCache.History — a cache holds the keys that were used last.

After any operations on a new cache a key is there if and only if it has been
written since the cache was last cleared and fewer others than the capacity have
been used since its own last use; it is read with the value written last. There
are as many entries as keys have been written since the clearing, up to the
capacity. What only looks at the cache leaves it as it is.
-/
import Gazetteer.Proofs.RecencyCache.Contents
import Gazetteer.RecencyCache.History

namespace Gazetteer.RecencyCache

open Recency

variable {κ α : Type} {c : RecencyCache κ α} {h : History κ α} {key : κ} {value : α}
  {operation : Operation κ α} {answer : Answer α}

namespace History

/-! ## Histories -/

/-- The keys that have been used since the cache was last cleared, latest first. -/
def recentUses (h : History κ α) : List κ := h.sinceClear.filterMap usedKey?

theorem sinceClear_concat (h : History κ α) (entry : Operation κ α × Answer α) :
    sinceClear (h ++ [entry]) = if isClear entry then [] else entry :: h.sinceClear := by
  rw [sinceClear, List.reverse_concat, List.takeWhile_cons]
  cases isClear entry <;> rfl

theorem recentUses_concat (h : History κ α) (entry : Operation κ α × Answer α) :
    recentUses (h ++ [entry]) =
      if isClear entry then [] else (usedKey? entry).toList ++ h.recentUses := by
  rw [recentUses, sinceClear_concat]
  split
  · rfl
  · rw [List.filterMap_cons]
    cases usedKey? entry <;> rfl

theorem written_concat (h : History κ α) (entry : Operation κ α × Answer α) :
    written (h ++ [entry]) =
      if isClear entry then [] else ((written? entry).map (·.1)).toList ++ h.written := by
  rw [written, sinceClear_concat]
  split
  · rfl
  · rw [List.filterMap_cons]
    cases written? entry <;> rfl

theorem mem_recentUses_of_written (hw : key ∈ h.written) : key ∈ h.recentUses := by
  obtain ⟨⟨operation, answer⟩, hm, hkey⟩ := List.mem_filterMap.1 hw
  refine List.mem_filterMap.2 ⟨_, hm, ?_⟩
  cases operation with
  | put other value => exact hkey
  | _ => cases hkey

variable [DecidableEq κ]

theorem lastValue?_concat (h : History κ α) (entry : Operation κ α × Answer α) (key : κ) :
    lastValue? (h ++ [entry]) key =
      match written? entry with
      | some (other, value) => if key = other then some value else h.lastValue? key
      | none => h.lastValue? key := by
  rw [lastValue?, List.reverse_concat, List.filterMap_cons]
  cases written? entry with
  | none => rfl
  | some pair =>
    obtain ⟨other, value⟩ := pair
    exact lookup_cons_eq

/-- The uses of others since the last use of a key that has been used since the clearing. -/
theorem since_recentUses (hu : key ∈ h.recentUses) : since key h.uses = since key h.recentUses := by
  have hsplit : h.uses = h.recentUses ++
      (h.reverse.dropWhile fun entry => !isClear entry).filterMap usedKey? := by
    rw [uses, recentUses, sinceClear, ← List.filterMap_append, List.takeWhile_append_dropWhile]
  rw [hsplit, since_append hu]

end History

open History

variable [DecidableEq κ]

/-! ## What every operation keeps -/

/-- A cache with the history that it has. -/
structure Fits (h : History κ α) (c : RecencyCache κ α) : Prop where
  holds : c.Holds h.recentUses fun key value => h.lastValue? key = some value
  /-- Only what has been written can have been found. -/
  known : h.recentUses ⊆ h.written

theorem fits_empty (capacity : Nat) : (empty capacity : RecencyCache κ α).Fits [] :=
  ⟨holds_empty capacity, List.Subset.refl _⟩

/-- Nothing is used, written or cleared. -/
theorem Fits.of_quiet (hf : c.Fits h) (hu : usedKey? (operation, answer) = none)
    (hw : written? (operation, answer) = none) (hc : isClear (operation, answer) = false) :
    c.Fits (h ++ [(operation, answer)]) := by
  have huses : recentUses (h ++ [(operation, answer)]) = h.recentUses := by
    rw [recentUses_concat, hc, hu]
    rfl
  have hwritten : written (h ++ [(operation, answer)]) = h.written := by
    rw [written_concat, hc, hw]
    rfl
  have hvalue : lastValue? (h ++ [(operation, answer)]) = h.lastValue? := by
    funext key
    rw [lastValue?_concat, hw]
  constructor
  · rw [huses, hvalue]
    exact hf.holds
  · rw [huses, hwritten]
    exact hf.known

theorem Fits.put (hf : c.Fits h) (key : κ) (value : α) :
    (c.put key value).Fits (h ++ [(.put key value, .done)]) := by
  have huses : recentUses (h ++ [(.put key value, .done)]) = key :: h.recentUses :=
    recentUses_concat h _
  have hwritten : written (h ++ [(.put key value, .done)]) = key :: h.written := written_concat h _
  constructor
  · rw [huses]
    refine hf.holds.put ?_ ?_
    · rw [lastValue?_concat]
      exact if_pos rfl
    · intro other v hne hv
      rw [lastValue?_concat]
      exact (if_neg hne).trans hv
  · rw [huses, hwritten]
    exact List.cons_subset_cons _ hf.known

theorem Fits.found (hf : c.Fits h) (hv : h.lastValue? key = some value)
    (hp : c.contains key = true) :
    (c.put key value).Fits (h ++ [(.get key, .value (some value))]) := by
  have huses : recentUses (h ++ [(.get key, .value (some value))]) = key :: h.recentUses :=
    recentUses_concat h _
  have hwritten : written (h ++ [(.get key, .value (some value))]) = h.written :=
    written_concat h _
  have hvalue : lastValue? (h ++ [(.get key, .value (some value))]) = h.lastValue? := by
    funext other
    exact lastValue?_concat h _ other
  constructor
  · rw [huses, hvalue]
    exact hf.holds.put hv fun _ _ _ => id
  · rw [huses, hwritten]
    exact List.cons_subset.2 ⟨hf.known (hf.holds.contains_iff.1 hp).1, hf.known⟩

theorem Fits.clear (c : RecencyCache κ α) (h : History κ α) :
    c.clear.Fits (h ++ [(.clear, .done)]) := by
  have huses : recentUses (h ++ [(.clear, .done)]) = [] := recentUses_concat h _
  constructor
  · rw [huses]
    exact holds_empty c.capacity
  · rw [huses]
    exact List.nil_subset _

theorem Fits.step (hf : c.Fits h) (operation : Operation κ α) :
    (c.step operation).2.Fits (h ++ [(operation, (c.step operation).1)]) := by
  cases operation with
  | put key value => exact hf.put key value
  | get key =>
    obtain ⟨-, hget⟩ | ⟨value, hp, hv, hget⟩ := hf.holds.get_cases key
    · have hstep : c.step (.get key) = (.value none, c) := by rw [RecencyCache.step, hget]
      rw [hstep]
      exact hf.of_quiet rfl rfl rfl
    · have hstep : c.step (.get key) = (.value (some value), c.put key value) := by
        rw [RecencyCache.step, hget]
      rw [hstep]
      exact hf.found hv hp
  | contains key => exact hf.of_quiet rfl rfl rfl
  | size => exact hf.of_quiet rfl rfl rfl
  | isEmpty => exact hf.of_quiet rfl rfl rfl
  | capacity => exact hf.of_quiet rfl rfl rfl
  | clear => exact .clear c h

theorem Fits.run (hf : c.Fits h) (operations : List (Operation κ α)) :
    (c.run operations).2.Fits (h ++ (c.run operations).1) := by
  -- on the operations, over all histories that may come before them
  induction operations generalizing c h with
  | nil => rwa [RecencyCache.run, List.append_nil]
  | cons operation operations ih =>
    have hrun := ih (hf.step operation)
    rwa [List.append_assoc] at hrun

theorem capacity_step (c : RecencyCache κ α) (operation : Operation κ α) :
    (c.step operation).2.capacity = c.capacity := by
  cases operation with
  | get key => exact capacity_get c key
  | _ => rfl

theorem capacity_run (c : RecencyCache κ α) (operations : List (Operation κ α)) :
    (c.run operations).2.capacity = c.capacity := by
  induction operations generalizing c with
  | nil => rfl
  | cons operation operations ih => exact (ih _).trans (capacity_step c operation)

/-! ## The law of a cache -/

/-- The operation asks something of the cache, or reads a key that is not there. -/
def OnlyLooks (c : RecencyCache κ α) : Operation κ α → Prop
  | .put _ _ | .clear => False
  | .get key => c.contains key = false
  | .contains _ | .size | .isEmpty | .capacity => True

theorem Fits.contains_iff (hf : c.Fits h) : c.contains key = true ↔
    key ∈ h.written ∧ (since key h.uses).toFinset.card < c.capacity := by
  rw [hf.holds.contains_iff]
  constructor
  · rintro ⟨hu, hroom⟩
    exact ⟨hf.known hu, by rwa [since_recentUses hu]⟩
  · rintro ⟨hw, hroom⟩
    have hu := mem_recentUses_of_written hw
    exact ⟨hu, by rwa [since_recentUses hu] at hroom⟩

theorem Fits.size_eq (hf : c.Fits h) : c.size = min c.capacity h.written.toFinset.card := by
  have hsame : h.recentUses.toFinset = h.written.toFinset := by
    ext key
    rw [List.mem_toFinset, List.mem_toFinset]
    exact ⟨fun hu => hf.known hu, mem_recentUses_of_written⟩
  rw [hf.holds.size_eq, hsame]

/-- A new cache, after any operations, holds a key if and only if it has been written since the
cache was last cleared and fewer others than the capacity have been used since its last use. It is
read with the value written last. There is an entry for every key written since the clearing, up to
the capacity. To look at the cache, and to read a key that is not there, changes nothing. -/
theorem recency_law {capacity : Nat} (hc : 0 < capacity) (operations : List (Operation κ α)) :
    ∃ fresh : RecencyCache κ α, create capacity = .ok fresh ∧
      let history := (fresh.run operations).1
      let now := (fresh.run operations).2
      (∀ key, now.contains key = true ↔
        key ∈ history.written ∧ (since key history.uses).toFinset.card < capacity) ∧
      (∀ key, now.contains key = true →
        ∃ value, history.lastValue? key = some value ∧ (now.get key).1 = some value) ∧
      (∀ key, now.contains key = false → (now.get key).1 = none) ∧
      now.size = min capacity history.written.toFinset.card ∧
      now.size ≤ capacity ∧
      now.capacity = capacity ∧
      (∀ operation, now.OnlyLooks operation → (now.step operation).2 = now) := by
  refine ⟨empty capacity, if_neg (Nat.ne_of_gt hc), ?_⟩
  intro history now
  have hf : now.Fits history := (fits_empty capacity).run operations
  have hcapacity : now.capacity = capacity := capacity_run _ operations
  refine ⟨?_, ?_, ?_, ?_, ?_, hcapacity, ?_⟩
  · intro key
    rw [hf.contains_iff, hcapacity]
  · intro key hp
    obtain ⟨hn, -⟩ | ⟨value, -, hv, hget⟩ := hf.holds.get_cases key
    · rw [hn] at hp
      cases hp
    · exact ⟨value, hv, by rw [hget]⟩
  · intro key hn
    obtain ⟨-, hget⟩ | ⟨value, hp, -⟩ := hf.holds.get_cases key
    · rw [hget]
    · rw [hn] at hp
      cases hp
  · rw [hf.size_eq, hcapacity]
  · exact hcapacity ▸ hf.holds.size_le
  · intro operation hl
    cases operation with
    | put key value => cases hl
    | clear => cases hl
    | get key =>
      obtain ⟨-, hget⟩ | ⟨value, hp, -⟩ := hf.holds.get_cases key
      · rw [RecencyCache.step, hget]
      · have hn : now.contains key = false := hl
        rw [hn] at hp
        cases hp
    | contains key => rfl
    | size => rfl
    | isEmpty => rfl
    | capacity => rfl

/-- The entry that was read again stays when a third one comes, and the other goes. -/
theorem recency_law_two :
    let operations : List (Operation Nat Nat) :=
      [.put 1 10, .put 2 20, .get 1, .contains 2, .put 3 30]
    let now := ((empty 2).run operations).2
    0 < 2 ∧ now.contains 1 = true ∧ now.contains 2 = false ∧ (now.get 1).1 = some 10 := by
  intro operations now
  have hc : 0 < 2 := by decide
  obtain ⟨fresh, hfresh, hpresent, hvalue, -⟩ := recency_law hc operations
  obtain rfl : empty 2 = fresh := Except.ok.inj hfresh
  have hstays : now.contains 1 = true := (hpresent 1).2 (by decide)
  have hgoes : now.contains 2 ≠ true := fun h => absurd ((hpresent 2).1 h) (by decide)
  obtain ⟨value, hlast, hget⟩ := hvalue 1 hstays
  obtain rfl : 10 = value := Option.some.inj hlast
  exact ⟨hc, hstays, Bool.eq_false_iff.2 hgoes, hget⟩

end Gazetteer.RecencyCache
