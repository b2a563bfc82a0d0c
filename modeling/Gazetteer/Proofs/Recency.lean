/-
Gazetteer.Proofs.Recency — keys in the order of their last use.

A list of uses stands latest first. Its ranking is what is left when of each key
only the last use counts, so a key stands behind those that have been used since
its last use, and behind nothing else. To use a key is to promote it to the front.
Who keeps only the first n keys of a ranking can promote among these as well as
among all of them.
-/
import Mathlib.Data.Finset.Card

namespace Gazetteer.Recency

variable {κ : Type} [DecidableEq κ] {key : κ} {keys uses : List κ}

/-- The keys with one of them in front. -/
def promote (key : κ) (keys : List κ) : List κ := key :: keys.filter fun other => other ≠ key

/-- The keys of some uses, latest first, in the order of their last use. -/
def ranking : List κ → List κ
  | [] => []
  | key :: uses => promote key (ranking uses)

/-- The uses of other keys since the last use of a key. -/
def since (key : κ) (uses : List κ) : List κ := uses.takeWhile fun other => other ≠ key

/-! ## Rankings -/

@[simp] theorem mem_ranking : key ∈ ranking uses ↔ key ∈ uses := by
  induction uses with
  | nil => rfl
  | cons other uses ih =>
    by_cases h : key = other
    · simp [ranking, promote, h]
    · simp [ranking, promote, h, ih]

theorem nodup_promote (h : keys.Nodup) : (promote key keys).Nodup :=
  List.nodup_cons.2 ⟨by simp, h.filter _⟩

theorem nodup_ranking (uses : List κ) : (ranking uses).Nodup := by
  induction uses with
  | nil => exact .nil
  | cons key uses ih => exact nodup_promote ih

/-- There are as many keys in a ranking as have been used. -/
theorem length_ranking (uses : List κ) : (ranking uses).length = uses.toFinset.card := by
  rw [← List.toFinset_card_of_nodup (nodup_ranking uses)]
  congr 1
  ext key
  simp

theorem since_cons (key other : κ) (uses : List κ) :
    since key (other :: uses) = if other = key then [] else other :: since key uses := by
  by_cases h : other = key <;> simp [since, h]

theorem since_filter {other : κ} (h : other ≠ key) (keys : List κ) :
    since key (keys.filter fun a => a ≠ other) = (since key keys).filter fun a => a ≠ other := by
  have hskip : (fun a => !decide (a ≠ other) || decide (a ≠ key)) = fun a => decide (a ≠ key) := by
    funext a
    by_cases ha : a = other <;> simp [ha, h]
  rw [since, List.takeWhile_filter, hskip, since]

/-- What stands in front of a key in the ranking has been used since the last use of the key. -/
theorem since_ranking (key : κ) (uses : List κ) :
    since key (ranking uses) = ranking (since key uses) := by
  induction uses with
  | nil => rfl
  | cons other uses ih =>
    rw [ranking, promote, since_cons, since_cons]
    split
    · rfl
    · next h => rw [since_filter h, ih, ranking, promote]

/-- Once a key has been used, what was used before that is no matter. -/
theorem since_append {earlier : List κ} (h : key ∈ uses) :
    since key (uses ++ earlier) = since key uses := by
  induction uses with
  | nil => cases h
  | cons other uses ih =>
    rw [List.cons_append, since_cons, since_cons]
    split
    · rfl
    · next ho => rw [ih ((List.mem_cons.1 h).resolve_left (Ne.symm ho))]

/-! ## The first keys of a ranking -/

theorem mem_take_iff {n : Nat} : key ∈ keys.take n ↔ key ∈ keys ∧ (since key keys).length < n := by
  induction keys generalizing n with
  | nil => simp
  | cons other keys ih =>
    cases n with
    | zero => simp
    | succ n =>
      rw [since_cons, List.take_succ_cons, List.mem_cons, List.mem_cons, ih]
      split
      · next h => simp [h]
      · next h => simp [Ne.symm h]

/-- A key is among the first of a ranking if it has been used and few others have been since. -/
theorem mem_take_ranking {n : Nat} :
    key ∈ (ranking uses).take n ↔ key ∈ uses ∧ (since key uses).toFinset.card < n := by
  rw [mem_take_iff, mem_ranking, since_ranking, length_ranking]

theorem take_filter_take {n : Nat} (h : keys.Nodup) :
    ((keys.take (n + 1)).filter fun other => other ≠ key).take n =
      (keys.filter fun other => other ≠ key).take n := by
  induction keys generalizing n with
  | nil => simp
  | cons other keys ih =>
    obtain ⟨hnot, h⟩ := List.nodup_cons.1 h
    by_cases ho : other = key
    · subst ho
      have hall : ∀ (l : List κ), l ⊆ keys → l.filter (fun a => a ≠ other) = l := by
        intro l hl
        refine List.filter_eq_self.2 fun a ha => decide_eq_true ?_
        rintro rfl
        exact hnot (hl ha)
      rw [List.take_succ_cons, List.filter_cons_of_neg (by simp), List.filter_cons_of_neg (by simp),
        hall _ (List.take_subset _ _), hall _ (List.Subset.refl _), List.take_take, Nat.min_self]
    · cases n with
      | zero => simp
      | succ n =>
        rw [List.take_succ_cons, List.filter_cons_of_pos (by simpa using ho),
          List.filter_cons_of_pos (by simpa using ho), List.take_succ_cons, List.take_succ_cons,
          ih h]

/-- Only the first keys count for the first keys after a promotion. -/
theorem take_promote (n : Nat) (h : keys.Nodup) :
    (promote key (keys.take n)).take n = (promote key keys).take n := by
  cases n with
  | zero => rfl
  | succ n =>
    rw [promote, promote, List.take_succ_cons, List.take_succ_cons, take_filter_take h]

/-! ## The first entries of a longer list -/

/-- What stands in a list in order still does so in its beginning, if at least as much of the one
is cut off at the end as of the other. -/
theorem take_sublist_take {α : Type} {xs ys : List α} (h : xs.Sublist ys) {m n : Nat}
    (hcut : ys.length - n ≤ xs.length - m) : (xs.take m).Sublist (ys.take n) := by
  induction h generalizing m n with
  | slnil => simp
  | @cons xs ys y h ih =>
    have hlength := h.length_le
    rw [List.length_cons] at hcut
    cases n with
    | zero =>
      obtain rfl : m = 0 := by omega
      simp
    | succ n => exact (ih (by omega)).cons y
  | @cons_cons xs ys x h ih =>
    have hlength := h.length_le
    rw [List.length_cons, List.length_cons] at hcut
    cases m with
    | zero => simp
    | succ m =>
      cases n with
      | zero => omega
      | succ n => exact (ih (by omega)).cons_cons x

/-! ## What stands latest under a key -/

theorem lookup_cons_eq {α : Type} {other : κ} {value : α} {records : List (κ × α)} :
    ((other, value) :: records).lookup key =
      if key = other then some value else records.lookup key := by
  by_cases h : key = other
  · rw [if_pos h, List.lookup_cons, beq_iff_eq.2 h]
  · rw [if_neg h, List.lookup_cons, beq_eq_false_iff_ne.2 h]

end Gazetteer.Recency
