/-
Gazetteer.Proofs.RecencyCache — what the entries of a cache have in common.

`Every P` says that each key stands with a value that `P` allows for it. Reading
and writing keep that, so whatever a cache answers is such a value: a cache that
is only ever written by one rule answers by that rule, in whatever order it has
been used and whatever it has forgotten since.
-/
import Gazetteer.RecencyCache

namespace Gazetteer.RecencyCache

variable {κ α : Type} {P : κ → α → Prop} {c : RecencyCache κ α} {key : κ} {value : α}

/-- Every entry is one that `P` allows. -/
def Every (P : κ → α → Prop) (c : RecencyCache κ α) : Prop :=
  ∀ entry ∈ c.entries, P entry.1 entry.2

theorem every_empty (capacity : Nat) : (empty capacity : RecencyCache κ α).Every P := by
  simp [Every, empty]

theorem every_of_create {capacity : Nat} (h : create capacity = .ok c) : c.Every P := by
  unfold create at h
  split at h
  · cases h
  · cases h
    exact every_empty capacity

variable [DecidableEq κ]

theorem Every.peek? (hc : c.Every P) (h : c.peek? key = some value) : P key value := by
  obtain ⟨⟨k, v⟩, hf, rfl⟩ := Option.map_eq_some_iff.1 h
  have hk : k = key := by simpa using List.find?_some hf
  exact hk ▸ hc _ (List.mem_of_find?_eq_some hf)

/-- The entries in front of the others of a key are good if the new one is. -/
theorem Every.promote (hc : c.Every P) (h : P key value) :
    ∀ entry ∈ (key, value) :: c.others key, P entry.1 entry.2 := by
  intro entry hm
  rcases List.mem_cons.1 hm with rfl | hm
  · exact h
  · exact hc entry (List.mem_filter.1 hm).1

theorem Every.get (hc : c.Every P) (key : κ) : (c.get key).2.Every P := by
  unfold RecencyCache.get
  split
  · exact hc
  · next value hv => exact hc.promote (hc.peek? hv)

theorem Every.get_some {after : RecencyCache κ α} (hc : c.Every P)
    (h : c.get key = (some value, after)) : P key value := by
  unfold RecencyCache.get at h
  split at h
  · cases (Prod.mk.inj h).1
  · next v hv =>
    obtain ⟨hvalue, -⟩ := Prod.mk.inj h
    exact Option.some.inj hvalue ▸ hc.peek? hv

theorem Every.put (hc : c.Every P) (h : P key value) : (c.put key value).Every P :=
  fun entry hm => hc.promote h entry (List.mem_of_mem_take hm)

end Gazetteer.RecencyCache
