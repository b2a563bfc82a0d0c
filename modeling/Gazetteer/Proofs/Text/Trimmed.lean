/-
Gazetteer.Proofs.Text.Trimmed — what trimming leaves.

A trimmed text has no white space at its ends, so trimming it again changes
nothing; it is the only text of which the whole is that text with white space
around it. It is empty exactly when there was nothing but white space.
-/
import Mathlib.Data.List.TakeWhile
import Gazetteer.Text.Blank

namespace Gazetteer.Text

variable {cs : List Char}

theorem all_takeWhile_isBlank (cs : List Char) : ∀ c ∈ cs.takeWhile isBlank, isBlank c = true :=
  List.all_eq_true.1 List.all_takeWhile

/-- What is cut off at the end is white space. -/
theorem exists_trimChars_append (cs : List Char) :
    ∃ back, trimChars cs ++ back = cs.dropWhile isBlank ∧ ∀ c ∈ back, isBlank c = true := by
  refine ⟨((cs.dropWhile isBlank).reverse.takeWhile isBlank).reverse, ?_, ?_⟩
  · rw [trimChars, ← List.reverse_append, List.takeWhile_append_dropWhile, List.reverse_reverse]
  · intro c hc
    exact all_takeWhile_isBlank _ c (List.mem_reverse.1 hc)

theorem isBlank_head?_trimChars (cs : List Char) :
    ∀ c ∈ (trimChars cs).head?, isBlank c = false := by
  obtain ⟨back, hprefix, -⟩ := exists_trimChars_append cs
  intro c hc
  have hhead := List.head?_dropWhile_not isBlank cs
  rw [← hprefix, List.head?_append, hc] at hhead
  exact hhead

theorem isBlank_head?_reverse_trimChars (cs : List Char) :
    ∀ c ∈ (trimChars cs).reverse.head?, isBlank c = false := by
  intro c hc
  have hhead := List.head?_dropWhile_not isBlank (cs.dropWhile isBlank).reverse
  rw [trimChars, List.reverse_reverse] at hc
  rw [hc] at hhead
  exact hhead

theorem dropWhile_of_head? (h : ∀ c ∈ cs.head?, isBlank c = false) :
    cs.dropWhile isBlank = cs := by
  cases cs with
  | nil => rfl
  | cons c cs => exact List.dropWhile_cons_of_neg (by simp [h c rfl])

theorem trimChars_trimChars (cs : List Char) : trimChars (trimChars cs) = trimChars cs := by
  rw [show trimChars (trimChars cs) = (((trimChars cs).dropWhile isBlank).reverse.dropWhile
    isBlank).reverse from rfl, dropWhile_of_head? (isBlank_head?_trimChars cs),
    dropWhile_of_head? (isBlank_head?_reverse_trimChars cs), List.reverse_reverse]

theorem trim_trim (s : String) : trim (trim s) = trim s := by
  rw [trim, trim_toList, trimChars_trimChars, trim]

/-- Nothing is left of white space, and of nothing else. -/
theorem trimChars_eq_nil_iff : trimChars cs = [] ↔ ∀ c ∈ cs, isBlank c = true := by
  rw [trimChars, List.reverse_eq_nil_iff, List.dropWhile_eq_nil_iff]
  constructor
  · intro h c hc
    rw [← List.takeWhile_append_dropWhile (p := isBlank) (l := cs)] at hc
    obtain hc | hc := List.mem_append.1 hc
    · exact all_takeWhile_isBlank cs c hc
    · exact h c (List.mem_reverse.2 hc)
  · intro h c hc
    exact h c ((List.dropWhile_sublist isBlank).subset (List.mem_reverse.1 hc))

/-- Some text is what is left of another without the white space around it. -/
structure TrimsTo (cs ds : List Char) : Prop where
  around : ∃ front back, cs = front ++ (ds ++ back) ∧ (∀ c ∈ front, isBlank c = true) ∧
    ∀ c ∈ back, isBlank c = true
  first : ∀ c ∈ ds.head?, isBlank c = false
  last : ∀ c ∈ ds.getLast?, isBlank c = false

theorem trimsTo_trimChars (cs : List Char) : TrimsTo cs (trimChars cs) where
  around := by
    obtain ⟨back, hback, hblank⟩ := exists_trimChars_append cs
    refine ⟨cs.takeWhile isBlank, back, ?_, all_takeWhile_isBlank cs, hblank⟩
    rw [hback, List.takeWhile_append_dropWhile]
  first := isBlank_head?_trimChars cs
  last := by
    rw [← List.head?_reverse]
    exact isBlank_head?_reverse_trimChars cs

/-- Only one text is left. -/
theorem trimsTo_iff {ds : List Char} : TrimsTo cs ds ↔ trimChars cs = ds := by
  constructor
  · rintro ⟨⟨front, back, rfl, hfront, hback⟩, hfirst, hlast⟩
    cases ds with
    | nil =>
      rw [trimChars_eq_nil_iff]
      intro c hc
      exact (List.mem_append.1 hc).elim (hfront c) (hback c)
    | cons d ds =>
      have hhead : (d :: ds ++ back).dropWhile isBlank = d :: ds ++ back :=
        dropWhile_of_head? hfirst
      rw [← List.head?_reverse] at hlast
      rw [trimChars, List.dropWhile_append_of_pos hfront, hhead, List.reverse_append,
        List.dropWhile_append_of_pos fun c hc => hback c (List.mem_reverse.1 hc),
        dropWhile_of_head? hlast, List.reverse_reverse]
  · rintro rfl
    exact trimsTo_trimChars cs

theorem isEmpty_trim_iff {s : String} :
    (trim s).isEmpty = true ↔ ∀ c ∈ s.toList, isBlank c = true := by
  rw [String.isEmpty_iff, ← trimChars_eq_nil_iff, ← trim_toList, String.toList_eq_nil_iff]

end Gazetteer.Text
