/-
Gazetteer.Proofs.Json.Fields — the fields of an object as a map.

Written into its place, a field is found under its name, and all others are found
as before. Fields that come in the strict order of their names stay so, one that
comes after all of them is written at the end, and what is found under each name
says what they are.
-/
import Gazetteer.Json.Value

namespace Gazetteer.Json

/-- Fields in the strict order of their names. -/
def IsOrdered (fields : Fields) : Prop := fields.Pairwise fun field later => field.1 < later.1

variable {fields others : Fields} {field : String × Value} {name other : String} {value : Value}

theorem lt_of_not_lt_of_ne (h : ¬ name < other) (hne : name ≠ other) : other < name := by
  rcases Decidable.em (other < name) with hlt | hge
  · exact hlt
  · exact absurd (String.le_antisymm (String.not_lt.1 hge) (String.not_lt.1 h)) hne

/-! ## Looking fields up -/

theorem field?_cons (name : String) (field : String × Value) (fields : Fields) :
    field? name (field :: fields) = if name = field.1 then some field.2 else field? name fields := by
  unfold field?
  rw [List.lookup_cons]
  by_cases h : name = field.1
  · simp [h]
  · simp [h, beq_eq_false_iff_ne.2 h]

@[simp] theorem field?_nil (name : String) : field? name [] = none := rfl

theorem mem_of_field? (h : field? name fields = some value) : (name, value) ∈ fields := by
  induction fields with
  | nil => simp [field?] at h
  | cons field fields ih =>
    rw [field?_cons] at h
    split at h
    · next hname =>
      obtain rfl := Option.some.inj h
      simp [hname]
    · exact List.mem_cons_of_mem _ (ih h)

@[simp] theorem field?_setField_self (name : String) (value : Value) (fields : Fields) :
    field? name (setField name value fields) = some value := by
  induction fields with
  | nil => simp [setField, field?_cons]
  | cons field fields ih =>
    unfold setField
    split
    · simp [field?_cons]
    split
    · simp [field?_cons]
    · next hne => rw [field?_cons, if_neg hne, ih]

theorem field?_setField_of_ne (h : other ≠ name) (value : Value) (fields : Fields) :
    field? other (setField name value fields) = field? other fields := by
  induction fields with
  | nil => simp [setField, field?_cons, h]
  | cons field fields ih =>
    unfold setField
    split
    · rw [field?_cons, if_neg h]
    split
    · next heq =>
      subst heq
      rw [field?_cons, field?_cons, if_neg h, if_neg h]
    · rw [field?_cons, field?_cons, ih]

/-! ## Order -/

theorem mem_setField (h : field ∈ setField name value fields) :
    field = (name, value) ∨ field ∈ fields := by
  induction fields with
  | nil => simpa [setField] using h
  | cons first fields ih =>
    unfold setField at h
    split at h
    · exact List.mem_cons.1 h
    split at h
    · exact (List.mem_cons.1 h).imp_right (List.mem_cons_of_mem _)
    · rcases List.mem_cons.1 h with rfl | h
      · simp
      · exact (ih h).imp_right (List.mem_cons_of_mem _)

theorem IsOrdered.setField (h : IsOrdered fields) (name : String) (value : Value) :
    IsOrdered (setField name value fields) := by
  induction fields with
  | nil => simp [Json.setField, IsOrdered]
  | cons field fields ih =>
    obtain ⟨hfirst, hrest⟩ := List.pairwise_cons.1 h
    unfold Json.setField
    split
    · next hlt =>
      refine List.pairwise_cons.2 ⟨?_, h⟩
      intro later hm
      rcases List.mem_cons.1 hm with rfl | hm
      · exact hlt
      · exact String.lt_trans hlt (hfirst later hm)
    split
    · next heq => exact List.pairwise_cons.2 ⟨heq ▸ hfirst, hrest⟩
    · next hlt hne =>
      refine List.pairwise_cons.2 ⟨?_, ih hrest⟩
      intro later hm
      rcases mem_setField hm with rfl | hm
      · exact lt_of_not_lt_of_ne hlt hne
      · exact hfirst later hm

/-- A field that comes after all others is written at the end. -/
theorem setField_eq_append (h : IsOrdered (fields ++ [(name, value)])) :
    setField name value fields = fields ++ [(name, value)] := by
  induction fields with
  | nil => rfl
  | cons field fields ih =>
    obtain ⟨hfirst, hrest⟩ := List.pairwise_cons.1 h
    have hlast : field.1 < name := hfirst (name, value) (by simp)
    unfold setField
    rw [if_neg (String.lt_asymm hlast), if_neg, ih hrest]
    · rfl
    · rintro rfl
      exact String.lt_irrefl _ hlast

theorem field?_eq_none_of_lt (h : ∀ field ∈ fields, name < field.1) :
    field? name fields = none := by
  cases hfound : field? name fields with
  | none => rfl
  | some value => exact absurd (h _ (mem_of_field? hfound)) (String.lt_irrefl name)

/-- A name that is found among ordered fields does not come before the first of them. -/
theorem IsOrdered.not_lt_of_field? (h : IsOrdered (field :: fields))
    (hfound : field? name (field :: fields) ≠ none) : ¬ name < field.1 := by
  intro hlt
  obtain ⟨hfirst, -⟩ := List.pairwise_cons.1 h
  refine hfound (field?_eq_none_of_lt fun later hm => ?_)
  rcases List.mem_cons.1 hm with rfl | hm
  · exact hlt
  · exact String.lt_trans hlt (hfirst later hm)

/-- Ordered fields are what is found under each name. -/
theorem IsOrdered.ext (h : IsOrdered fields) (ho : IsOrdered others)
    (hsame : ∀ name, field? name fields = field? name others) : fields = others := by
  induction fields generalizing others with
  | nil =>
    cases others with
    | nil => rfl
    | cons other others => simpa [field?_cons] using hsame other.1
  | cons field fields ih =>
    cases others with
    | nil => simpa [field?_cons] using hsame field.1
    | cons other others =>
      obtain ⟨hfirst, hrest⟩ := List.pairwise_cons.1 h
      obtain ⟨hother, hothers⟩ := List.pairwise_cons.1 ho
      -- each first name is found on both sides, so neither comes before the other
      have hname : field.1 = other.1 := by
        have hleft : ¬ field.1 < other.1 :=
          ho.not_lt_of_field? (by rw [← hsame]; simp [field?_cons])
        have hright : ¬ other.1 < field.1 :=
          h.not_lt_of_field? (by rw [hsame]; simp [field?_cons])
        exact String.le_antisymm (String.not_lt.1 hright) (String.not_lt.1 hleft)
      have hvalue := hsame field.1
      rw [field?_cons, field?_cons, if_pos rfl, if_pos hname] at hvalue
      obtain rfl : field = other := Prod.ext hname (Option.some.inj hvalue)
      refine congrArg (field :: ·) (ih hrest hothers fun name => ?_)
      rcases Decidable.em (name = field.1) with rfl | hne
      · rw [field?_eq_none_of_lt hfirst, field?_eq_none_of_lt hother]
      · have hrest := hsame name
        rwa [field?_cons, field?_cons, if_neg hne, if_neg hne] at hrest

end Gazetteer.Json
