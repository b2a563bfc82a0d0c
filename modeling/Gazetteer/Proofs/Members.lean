/-
Gazetteer.Proofs.Members — lists in which one member changes, or the first ones go.

Where many go their ways through something that they have in common, a list says
where each of them stands, and a step sets the place of one. The others stay who
they were, and of those that have some property there are as many as before, but
for the one. Where a list is read or served from its front, those that have some
property go as far as the first that has it not.
-/
namespace Gazetteer.Members

variable {α : Type} {members : List α} {member other : α} {number i : Nat} {p : α → Bool}

/-- After a change of one member the others are who they were. -/
theorem getElem?_set_cases (h : (members.set number other)[i]? = some member) :
    (i = number ∧ member = other) ∨ (i ≠ number ∧ members[i]? = some member) := by
  rw [List.getElem?_set] at h
  split at h
  · next hi =>
    split at h
    · exact .inl ⟨hi.symm, (Option.some.inj h).symm⟩
    · cases h
  · next hi => exact .inr ⟨Ne.symm hi, h⟩

theorem getElem?_append_cases (h : (members ++ [other])[i]? = some member) :
    members[i]? = some member ∨ (i = members.length ∧ member = other) := by
  rw [List.getElem?_append] at h
  split at h
  · exact .inl h
  · obtain ⟨hi, heq⟩ := List.getElem?_eq_some_iff.1 h
    have hi : i - members.length = 0 := by simpa using hi
    exact .inr ⟨by omega, by simpa using heq.symm⟩

/-- A change of one member that does not concern a feature of it. -/
theorem map_set_of_eq {β : Type} {f : α → β} (hn : members[number]? = some member)
    (hf : f other = f member) : (members.set number other).map f = members.map f := by
  refine List.ext_getElem? fun i => ?_
  rw [List.getElem?_map, List.getElem?_map, List.getElem?_set]
  split
  · next hi =>
    subst hi
    obtain ⟨hlt, -⟩ := List.getElem?_eq_some_iff.1 hn
    rw [if_pos hlt, hn, Option.map_some, Option.map_some, hf]
  · rfl

theorem countP_cons (p : α → Bool) (member : α) (members : List α) :
    (member :: members).countP p = members.countP p + (p member).toNat := by
  rw [List.countP_cons]
  cases p member <;> rfl

theorem countP_append_one (p : α → Bool) (members : List α) (member : α) :
    (members ++ [member]).countP p = members.countP p + (p member).toNat := by
  rw [List.countP_append, countP_cons, List.countP_nil, Nat.zero_add]

/-- Of those with a property there is one at the most, so any two of them are the same. -/
theorem eq_of_countP_le_one (hone : members.countP p ≤ 1) (hn : members[number]? = some member)
    (hi : members[i]? = some other) (hp : p member = true) (hq : p other = true) : number = i := by
  induction members generalizing number i with
  | nil => cases hn
  | cons first members ih =>
    rw [countP_cons] at hone
    have hnone : ∀ {j : Nat} {m : α}, members[j]? = some m → p m = true →
        0 < members.countP p := fun hj hm =>
      List.countP_pos_iff.2 ⟨_, List.mem_of_getElem? hj, hm⟩
    cases number with
    | zero =>
      obtain rfl : first = member := Option.some.inj hn
      cases i with
      | zero => rfl
      | succ i =>
        have hpos := hnone hi hq
        rw [hp, Bool.toNat_true] at hone
        omega
    | succ number =>
      cases i with
      | zero =>
        obtain rfl : first = other := Option.some.inj hi
        have hpos := hnone hn hp
        rw [hq, Bool.toNat_true] at hone
        omega
      | succ i => exact congrArg (· + 1) (ih (by omega) hn hi)

/-- The change of one member, in the number of those with a property. -/
theorem countP_set (p : α → Bool) (other : α) (hn : members[number]? = some member) :
    (members.set number other).countP p + (p member).toNat =
      members.countP p + (p other).toNat := by
  obtain ⟨hlt, rfl⟩ := List.getElem?_eq_some_iff.1 hn
  rw [List.countP_set hlt]
  cases hm : p members[number] with
  | false => cases p other <;> simp
  | true =>
    have hpos : 0 < members.countP p := List.countP_pos_iff.2 ⟨_, List.getElem_mem hlt, hm⟩
    cases p other with
    | false =>
      simp only [if_true, Bool.false_eq_true, if_false, Bool.toNat_true, Bool.toNat_false]
      omega
    | true =>
      simp only [if_true, Bool.toNat_true]
      omega

theorem countP_set_of_eq (hn : members[number]? = some member) (hp : p other = p member) :
    (members.set number other).countP p = members.countP p := by
  have hset := countP_set p other hn
  rw [hp] at hset
  exact Nat.add_right_cancel hset

theorem countP_set_of_new (hn : members[number]? = some member) (hm : p member = false)
    (ho : p other = true) : (members.set number other).countP p = members.countP p + 1 := by
  have hset := countP_set p other hn
  rwa [hm, ho] at hset

/-- Where the first members with a property end. -/
theorem takeWhile_dropWhile_iff {first rest : List α} :
    (members.takeWhile p = first ∧ members.dropWhile p = rest) ↔
      members = first ++ rest ∧ (∀ member ∈ first, p member = true) ∧
        ∀ member ∈ rest.head?, p member = false := by
  constructor
  · rintro ⟨rfl, rfl⟩
    refine ⟨List.takeWhile_append_dropWhile.symm, List.all_eq_true.1 List.all_takeWhile, ?_⟩
    intro member hm
    have hhead := List.head?_dropWhile_not p members
    rwa [Option.mem_def.1 hm] at hhead
  · rintro ⟨rfl, hfirst, hrest⟩
    rw [List.takeWhile_append_of_pos hfirst, List.dropWhile_append_of_pos hfirst]
    cases rest with
    | nil => simp
    | cons member rest => simp [hrest member (by simp)]

end Gazetteer.Members
