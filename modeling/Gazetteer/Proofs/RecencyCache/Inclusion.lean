/-
Gazetteer.Proofs.RecencyCache.Inclusion — a larger cache holds what a smaller one holds.

Two caches of different capacities are asked the same things. What the smaller one
holds stands in the larger one too, with the same values and in the same order, but
not side by side: the larger one may find a key that the smaller has forgotten, and
put it in front. As long as the smaller one has room it has forgotten nothing, and both
hold the same; once it is full it loses its last entry whenever the larger one does. So
a key that is found in the smaller cache is found in the larger, with the same value.
-/
import Gazetteer.Proofs.RecencyCache.History

namespace Gazetteer.RecencyCache

open Recency

variable {κ α : Type} {c small large : RecencyCache κ α} {key : κ} {value : α}

/-- A cache has no more entries than its capacity, and no key twice. -/
structure IsSound (c : RecencyCache κ α) : Prop where
  size : c.size ≤ c.capacity
  nodup : c.keys.Nodup

theorem isSound_empty (capacity : Nat) : (empty capacity : RecencyCache κ α).IsSound :=
  ⟨Nat.zero_le _, .nil⟩

/-- A cache lies inside a larger one. -/
structure Within (small large : RecencyCache κ α) : Prop where
  capacity : small.capacity ≤ large.capacity
  inner : small.IsSound
  outer : large.IsSound
  /-- What is in the smaller one stands in the larger one, in the same order of recency. -/
  entries : small.entries.Sublist large.entries
  /-- Nothing is forgotten while there is room. -/
  room : small.size < small.capacity → small.entries = large.entries

theorem within_empty {few many : Nat} (h : few ≤ many) :
    (empty few : RecencyCache κ α).Within (empty many) where
  capacity := h
  inner := isSound_empty few
  outer := isSound_empty many
  entries := .slnil
  room _ := rfl

theorem Within.keys (h : small.Within large) : small.keys.Sublist large.keys := h.entries.map _

/-! ## Entries and keys -/

variable [DecidableEq κ]

/-- The value of a key is the one that it stands with. -/
theorem peek?_eq_some_iff (h : c.keys.Nodup) :
    c.peek? key = some value ↔ (key, value) ∈ c.entries := by
  unfold keys at h
  unfold peek?
  generalize c.entries = entries at *
  induction entries with
  | nil => simp
  | cons entry entries ih =>
    obtain ⟨other, v⟩ := entry
    obtain ⟨hnew, h⟩ := List.nodup_cons.1 h
    by_cases hk : other = key
    · subst hk
      have hnot : (other, value) ∉ entries := fun hm =>
        hnew (List.mem_map.2 ⟨_, hm, rfl⟩)
      simp [hnot, eq_comm]
    · simp [hk, Ne.symm hk, ih h]

theorem entries_put (c : RecencyCache κ α) (key : κ) (value : α) :
    (c.put key value).entries = ((key, value) :: c.others key).take c.capacity := rfl

/-! ## One step -/

theorem IsSound.put (h : c.IsSound) (key : κ) (value : α) : (c.put key value).IsSound := by
  refine ⟨size_put_le c key value, ?_⟩
  rw [keys_put]
  exact (List.take_sublist _ _).nodup (nodup_promote h.nodup)

/-- There is at most one entry besides those of the other keys. -/
theorem IsSound.size_le (h : c.IsSound) (key : κ) : c.size ≤ (c.others key).length + 1 := by
  have hpromoted : c.keys ⊆ promote key c.keys := by
    intro other hm
    by_cases hk : other = key
    · simp [promote, hk]
    · simp [promote, hk, hm]
  have hlength := (h.nodup.subperm hpromoted).length_le
  rwa [promote, ← keys_others, List.length_cons, List.length_map, length_keys] at hlength

namespace Within

theorem others (h : small.Within large) (key : κ) :
    (small.others key).Sublist (large.others key) := h.entries.filter _

theorem same_others (h : small.Within large) (key : κ) (hroom : small.size < small.capacity) :
    small.others key = large.others key := by
  rw [RecencyCache.others, RecencyCache.others, h.room hroom]

/-- A key has the same value in the larger cache. -/
theorem peek? (h : small.Within large) (hv : small.peek? key = some value) :
    large.peek? key = some value := by
  rw [peek?_eq_some_iff h.inner.nodup] at hv
  rw [peek?_eq_some_iff h.outer.nodup]
  exact h.entries.subset hv

theorem put (h : small.Within large) (key : κ) (value : α) :
    (small.put key value).Within (large.put key value) := by
  have hcapacity := h.capacity
  have hothers := (h.others key).length_le
  -- The larger cache drops an entry only if the smaller one does so as well.
  have hdropped : (large.others key).length + 1 - large.capacity ≤
      (small.others key).length + 1 - small.capacity := by
    have hlarge := h.outer.size
    by_cases hk : key ∈ small.keys
    · have hlt := length_others_lt (h.keys.subset hk)
      omega
    · by_cases hroom : small.size < small.capacity
      · rw [h.same_others key hroom]
        omega
      · have hall : (small.others key).length = small.size := by
          rw [others_of_not_mem hk, size]
        have hle : (large.others key).length ≤ large.size := List.length_filter_le _ _
        omega
  refine ⟨hcapacity, h.inner.put key value, h.outer.put key value, ?_, ?_⟩
  · exact take_sublist_take ((h.others key).cons_cons (key, value)) hdropped
  · intro hroom
    have hroom : min small.capacity ((small.others key).length + 1) < small.capacity := by
      rw [size, entries_put, List.length_take] at hroom
      exact hroom
    -- There is room left, so there was room before, and neither cache has dropped anything.
    have hsize := h.inner.size_le key
    rw [entries_put, entries_put, ← h.same_others key (by omega),
      List.take_of_length_le (by rw [List.length_cons]; omega),
      List.take_of_length_le (by rw [List.length_cons]; omega)]

/-- The larger cache may find what the smaller one has forgotten. -/
theorem found (h : small.Within large) (hnot : key ∉ small.keys)
    (hv : large.peek? key = some value) : small.Within (large.put key value) := by
  have hkey := mem_keys_of_peek? hv
  refine ⟨h.capacity, h.inner, h.outer.put key value, ?_, ?_⟩
  · rw [entries_put_of_mem h.outer.size hkey, ← others_of_not_mem hnot]
    exact (h.others key).cons _
  · intro hroom
    have hsame : small.keys = large.keys := congrArg (List.map Prod.fst) (h.room hroom)
    exact absurd (hsame ▸ hkey) hnot

theorem step (h : small.Within large) (operation : Operation κ α) :
    (small.step operation).2.Within (large.step operation).2 := by
  cases operation with
  | put key value => exact h.put key value
  | get key =>
    show (small.get key).2.Within (large.get key).2
    cases hs : small.peek? key with
    | some value =>
      rw [get_of_peek? h.inner.size hs, get_of_peek? h.outer.size (h.peek? hs)]
      exact h.put key value
    | none =>
      have hnot := peek?_eq_none_iff.1 hs
      rw [get_of_not_mem hnot]
      cases hl : large.peek? key with
      | none =>
        rw [get_of_not_mem (peek?_eq_none_iff.1 hl)]
        exact h
      | some value =>
        rw [get_of_peek? h.outer.size hl]
        exact h.found hnot hl
  | clear => exact within_empty h.capacity
  | contains key => exact h
  | size => exact h
  | isEmpty => exact h
  | capacity => exact h

theorem run (h : small.Within large) (operations : List (Operation κ α)) :
    (small.run operations).2.Within (large.run operations).2 := by
  -- on the operations, over all pairs of caches that they may be asked of
  induction operations generalizing small large with
  | nil => exact h
  | cons operation operations ih => exact ih (h.step operation)

end Within

/-! ## Answers -/

/-- A key has been asked for and found. -/
def Finds : Operation κ α × Answer α → Prop
  | (.get _, .value (some _)) | (.contains _, .truth true) => True
  | _ => False

namespace Within

/-- What is found in the smaller cache is found in the larger one. -/
theorem answer (h : small.Within large) {operation : Operation κ α}
    (hf : Finds (operation, (small.step operation).1)) :
    (large.step operation).1 = (small.step operation).1 := by
  cases operation with
  | get key =>
    cases hs : small.peek? key with
    | some value =>
      have hsmall : small.step (.get key) = (.value (some value), small.put key value) := by
        rw [RecencyCache.step, get_of_peek? h.inner.size hs]
      have hlarge : large.step (.get key) = (.value (some value), large.put key value) := by
        rw [RecencyCache.step, get_of_peek? h.outer.size (h.peek? hs)]
      rw [hsmall, hlarge]
    | none =>
      rw [RecencyCache.step, get_of_not_mem (peek?_eq_none_iff.1 hs)] at hf
      cases hf
  | contains key =>
    show Answer.truth (large.contains key) = .truth (small.contains key)
    cases hs : small.contains key with
    | true => rw [contains_iff.2 (h.keys.subset (contains_iff.1 hs))]
    | false =>
      rw [RecencyCache.step, hs] at hf
      cases hf
  | put key value => cases hf
  | clear => cases hf
  | size => cases hf
  | isEmpty => cases hf
  | capacity => cases hf

theorem answers (h : small.Within large) (operations : List (Operation κ α)) (i : Nat)
    {entry : Operation κ α × Answer α} (hf : Finds entry)
    (hs : (small.run operations).1[i]? = some entry) :
    (large.run operations).1[i]? = some entry := by
  -- The first operation is answered by the caches as they are, the others by what it makes of them.
  induction operations generalizing small large i with
  | nil => cases hs
  | cons operation operations ih =>
    cases i with
    | zero =>
      obtain rfl := Option.some.inj hs
      exact congrArg (fun answer => some (operation, answer)) (h.answer hf)
    | succ i => exact ih (h.step operation) i hs

end Within

/-! ## The law of two caches -/

/-- Two new caches are asked the same, whatever it is. After every step the entries of the smaller
one stand in the larger one in the same order, no key twice, so that each key has its value in the
larger one too; and both are the same while the smaller one has room. Whatever key is found in the
smaller one is found in the larger one at that step, with the same value. -/
theorem inclusion_law {few many : Nat} (hpos : 0 < few) (hle : few ≤ many)
    (operations : List (Operation κ α)) :
    ∃ small large : RecencyCache κ α, create few = .ok small ∧ create many = .ok large ∧
      (∀ done, done <+: operations →
        let inner := (small.run done).2
        let outer := (large.run done).2
        inner.entries.Sublist outer.entries ∧
        outer.keys.Nodup ∧
        (∀ key value, inner.peek? key = some value → outer.peek? key = some value) ∧
        (inner.size < few → inner.entries = outer.entries)) ∧
      ∀ (i : Nat) (entry : Operation κ α × Answer α), Finds entry →
        (small.run operations).1[i]? = some entry → (large.run operations).1[i]? = some entry := by
  have hsmall : create few = .ok (empty few : RecencyCache κ α) := if_neg hpos.ne'
  have hlarge : create many = .ok (empty many : RecencyCache κ α) :=
    if_neg (Nat.lt_of_lt_of_le hpos hle).ne'
  have hwithin : (empty few : RecencyCache κ α).Within (empty many) := within_empty hle
  refine ⟨_, _, hsmall, hlarge, ?_, fun i entry hf => hwithin.answers operations i hf⟩
  intro done _ inner outer
  have h : inner.Within outer := hwithin.run done
  have hcapacity : inner.capacity = few := capacity_run _ done
  exact ⟨h.entries, h.outer.nodup, fun _ _ => h.peek?, hcapacity ▸ h.room⟩

/-- The larger cache finds the first key and puts it in front, where the smaller one holds nothing;
the third key is found in both. -/
theorem inclusion_law_two_three :
    let operations : List (Operation Nat Nat) :=
      [.put 1 10, .put 2 20, .put 3 30, .get 1, .put 4 40, .get 3]
    0 < 2 ∧ 2 ≤ 3 ∧
    ((empty 2).run (operations.take 5)).2.entries = [(4, 40), (3, 30)] ∧
    ((empty 3).run (operations.take 5)).2.entries = [(4, 40), (1, 10), (3, 30)] ∧
    [(4, 40), (3, 30)].Sublist [(4, 40), (1, 10), (3, 30)] ∧
    ((empty 3).run operations).1[5]? = some (.get 3, .value (some 30)) := by
  intro operations
  have hpos : 0 < 2 := by decide
  have hle : 2 ≤ 3 := by decide
  have hinner : ((empty 2).run (operations.take 5)).2.entries = [(4, 40), (3, 30)] := by decide
  have houter : ((empty 3).run (operations.take 5)).2.entries =
      [(4, 40), (1, 10), (3, 30)] := by decide
  obtain ⟨small, large, hsmall, hlarge, hentries, hfound⟩ := inclusion_law hpos hle operations
  obtain rfl : empty 2 = small := Except.ok.inj hsmall
  obtain rfl : empty 3 = large := Except.ok.inj hlarge
  obtain ⟨hsublist, -⟩ := hentries (operations.take 5) (List.take_prefix 5 operations)
  rw [hinner, houter] at hsublist
  exact ⟨hpos, hle, hinner, houter, hsublist, hfound 5 _ trivial (by decide)⟩

end Gazetteer.RecencyCache
