/-
Gazetteer.Proofs.RecencyCache.Contents — which keys a cache holds.

A cache that has been used in some order holds the keys that were used last, as
many as it has room for. Writing a key and finding one are the same change, a
promotion of the key; a miss changes nothing. So it depends on the order of the
uses alone which keys are there, and on their number how many.
-/
import Gazetteer.Proofs.Recency
import Gazetteer.Proofs.RecencyCache

namespace Gazetteer.RecencyCache

open Recency

variable {κ α : Type} {P Q : κ → α → Prop} {c : RecencyCache κ α} {uses : List κ} {key : κ}
  {value : α}

/-- The keys, the most recently used in front. -/
def keys (c : RecencyCache κ α) : List κ := c.entries.map (·.1)

theorem length_keys (c : RecencyCache κ α) : c.keys.length = c.size := List.length_map _

variable [DecidableEq κ]

/-! ## Operations on the keys -/

theorem keys_others (c : RecencyCache κ α) (key : κ) :
    (c.others key).map (·.1) = c.keys.filter fun other => other ≠ key := by
  rw [keys, List.filter_map]
  rfl

theorem keys_put (c : RecencyCache κ α) (key : κ) (value : α) :
    (c.put key value).keys = (promote key c.keys).take c.capacity := by
  unfold put keys
  rw [List.map_take, List.map_cons, keys_others]
  rfl

theorem contains_iff : c.contains key = true ↔ key ∈ c.keys := by
  simp [contains, peek?, keys]

theorem peek?_eq_none_iff : c.peek? key = none ↔ key ∉ c.keys := by
  rw [← contains_iff, contains, Bool.not_eq_true, Option.isSome_eq_false_iff,
    Option.isNone_iff_eq_none]

theorem mem_keys_of_peek? (h : c.peek? key = some value) : key ∈ c.keys := by
  rw [← contains_iff, contains, h]
  rfl

theorem others_of_not_mem (h : key ∉ c.keys) : c.others key = c.entries := by
  refine List.filter_eq_self.2 fun entry hm => decide_eq_true ?_
  rintro rfl
  exact h (List.mem_map_of_mem hm)

theorem length_others_lt (h : key ∈ c.keys) : (c.others key).length < c.size := by
  obtain ⟨entry, hm, rfl⟩ := List.mem_map.1 h
  exact List.length_filter_lt_length_iff_exists.2 ⟨entry, hm, by simp⟩

theorem get_of_not_mem (h : key ∉ c.keys) : c.get key = (none, c) := by
  rw [get, peek?_eq_none_iff.2 h]

/-- A key that is there goes to the front, and nothing has to go for it. -/
theorem entries_put_of_mem (hsize : c.size ≤ c.capacity) (h : key ∈ c.keys) (value : α) :
    (c.put key value).entries = (key, value) :: c.others key := by
  have hroom := length_others_lt h
  exact List.take_of_length_le (by rw [List.length_cons]; omega)

/-- To find a key is to write the value that is there, unless there is too much in the cache. -/
theorem get_of_peek? (hsize : c.size ≤ c.capacity) (h : c.peek? key = some value) :
    c.get key = (some value, c.put key value) := by
  simp only [get, h, ← entries_put_of_mem hsize (mem_keys_of_peek? h)]
  rfl

theorem capacity_get (c : RecencyCache κ α) (key : κ) : (c.get key).2.capacity = c.capacity := by
  unfold get
  split <;> rfl

theorem size_put_le (c : RecencyCache κ α) (key : κ) (value : α) :
    (c.put key value).size ≤ c.capacity := List.length_take_le _ _

theorem size_get_le (h : c.size ≤ c.capacity) (key : κ) : (c.get key).2.size ≤ c.capacity := by
  cases hpeek : c.peek? key with
  | none => rwa [get, hpeek]
  | some value =>
    rw [get_of_peek? h hpeek]
    exact size_put_le c key value

/-! ## Contents -/

/-- The cache holds the keys used last, with values that `P` allows. -/
structure Holds (uses : List κ) (P : κ → α → Prop) (c : RecencyCache κ α) : Prop where
  keys : c.keys = (ranking uses).take c.capacity
  every : c.Every P

theorem holds_empty (capacity : Nat) : (empty capacity : RecencyCache κ α).Holds [] P where
  keys := List.take_nil.symm
  every := every_empty capacity

/-- A key is there if it has been used and fewer others than there is room for have been since. -/
theorem Holds.contains_iff (h : c.Holds uses P) :
    c.contains key = true ↔ key ∈ uses ∧ (since key uses).toFinset.card < c.capacity := by
  rw [RecencyCache.contains_iff, h.keys, mem_take_ranking]

theorem Holds.size_eq (h : c.Holds uses P) : c.size = min c.capacity uses.toFinset.card := by
  rw [← length_keys, h.keys, List.length_take, length_ranking]

theorem Holds.size_le (h : c.Holds uses P) : c.size ≤ c.capacity :=
  h.size_eq ▸ Nat.min_le_left _ _

/-- What a written key comes to, when the other values are still good. -/
theorem Holds.put (h : c.Holds uses P) (hv : Q key value)
    (ho : ∀ other v, other ≠ key → P other v → Q other v) :
    (c.put key value).Holds (key :: uses) Q where
  keys := by
    show (c.put key value).keys = (promote key (ranking uses)).take c.capacity
    rw [keys_put, h.keys, take_promote _ (nodup_ranking uses)]
  every := by
    intro entry hm
    obtain rfl | hm := List.mem_cons.1 (List.mem_of_mem_take hm)
    · exact hv
    · obtain ⟨hm, hne⟩ := List.mem_filter.1 hm
      exact ho _ _ (by simpa using hne) (h.every entry hm)

/-- A cache finds a key or it does not; if it does, the key has been used once more. -/
theorem Holds.get_cases (h : c.Holds uses P) (key : κ) :
    (c.contains key = false ∧ c.get key = (none, c)) ∨
      ∃ value, c.contains key = true ∧ P key value ∧ c.get key = (some value, c.put key value) := by
  cases hpeek : c.peek? key with
  | none =>
    have hnot : c.contains key = false := by rw [contains, hpeek]; rfl
    exact .inl ⟨hnot, get_of_not_mem (peek?_eq_none_iff.1 hpeek)⟩
  | some value =>
    refine .inr ⟨value, by rw [contains, hpeek]; rfl, h.every.peek? hpeek, ?_⟩
    exact get_of_peek? h.size_le hpeek

end Gazetteer.RecencyCache
