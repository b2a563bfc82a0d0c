/-
Gazetteer.Text.Cut — dividing a text at a separator.

`cut` divides at the first occurrence of one character, `cutPair` at the first
place where a character stands twice in a row. Dividing at every occurrence is
core's `List.splitOn`.
-/
namespace Gazetteer.Text

/-- The text before and after the first `sep`, if there is one. -/
def cut (sep : Char) : List Char → Option (List Char × List Char)
  | [] => none
  | c :: cs =>
    if c = sep then some ([], cs)
    else (cut sep cs).map fun (before, after) => (c :: before, after)

/-- The text before and after the first doubled `sep`, if there is one. -/
def cutPair (sep : Char) : List Char → Option (List Char × List Char)
  | c :: d :: cs =>
    if c = sep ∧ d = sep then some ([], cs)
    else (cutPair sep (d :: cs)).map fun (before, after) => (c :: before, after)
  | _ => none

/-- A cut loses the separator and nothing else, and it is the first one. -/
theorem cut_eq_some {sep : Char} {cs before after : List Char}
    (h : cut sep cs = some (before, after)) :
    cs = before ++ sep :: after ∧ sep ∉ before := by
  induction cs generalizing before with
  | nil => simp [cut] at h
  | cons c cs ih =>
    rw [cut] at h
    split at h
    · next hc =>
      obtain ⟨rfl, rfl⟩ := Prod.mk.inj (Option.some.inj h)
      simp [hc]
    · next hc =>
      obtain ⟨⟨b, a⟩, hb, heq⟩ := Option.map_eq_some_iff.1 h
      obtain ⟨rfl, rfl⟩ := Prod.mk.inj heq
      obtain ⟨h1, h2⟩ := ih hb
      refine ⟨by rw [h1]; rfl, ?_⟩
      rw [List.mem_cons]
      exact fun hm => hm.elim (fun e => hc e.symm) h2

/-- A text is cut where the first separator stands. -/
theorem cut_append {sep : Char} {before : List Char} (h : sep ∉ before) (after : List Char) :
    cut sep (before ++ sep :: after) = some (before, after) := by
  induction before with
  | nil => simp [cut]
  | cons c before ih =>
    rw [List.mem_cons, not_or] at h
    rw [List.cons_append, cut, if_neg (fun e => h.1 e.symm), ih h.2]
    rfl

/-- A text cannot be cut exactly when it does not hold the separator. -/
theorem cut_eq_none {sep : Char} {cs : List Char} : cut sep cs = none ↔ sep ∉ cs := by
  induction cs with
  | nil => simp [cut]
  | cons c cs ih =>
    rw [cut]
    split
    · next hc => simp [hc]
    · next hc =>
      rw [Option.map_eq_none_iff, ih, List.mem_cons, not_or]
      exact ⟨fun h => ⟨fun e => hc e.symm, h⟩, fun h => h.2⟩

theorem cutPair_cons_of_ne {sep c : Char} (h : c ≠ sep) (cs : List Char) :
    cutPair sep (c :: cs) = (cutPair sep cs).map (Prod.map (c :: ·) id) := by
  cases cs with
  | nil => rfl
  | cons d cs =>
    rw [cutPair, if_neg fun hpair => h hpair.1]
    rfl

/-- A separator that stands alone is left where it is. -/
theorem cutPair_cons_cons_of_ne {sep d : Char} (h : d ≠ sep) (c : Char) (cs : List Char) :
    cutPair sep (c :: d :: cs) = (cutPair sep (d :: cs)).map (Prod.map (c :: ·) id) := by
  rw [cutPair, if_neg fun hpair => h hpair.2]
  rfl

theorem cutPair_append_of_not_mem {sep : Char} {before : List Char} (h : sep ∉ before)
    (cs : List Char) :
    cutPair sep (before ++ cs) = (cutPair sep cs).map (Prod.map (before ++ ·) id) := by
  induction before with
  | nil =>
    rw [List.nil_append]
    rcases cutPair sep cs with _ | ⟨front, back⟩
    · rfl
    · rfl
  | cons c before ih =>
    rw [List.mem_cons, not_or] at h
    rw [List.cons_append, cutPair_cons_of_ne (fun e => h.1 e.symm), ih h.2, Option.map_map]
    rfl

/-- A cut at a doubled separator loses that and nothing else. -/
theorem cutPair_eq_some {sep : Char} {cs before after : List Char}
    (h : cutPair sep cs = some (before, after)) : cs = before ++ sep :: sep :: after := by
  induction cs generalizing before with
  | nil => cases h
  | cons c cs ih =>
    cases cs with
    | nil => cases h
    | cons d cs =>
      rw [cutPair] at h
      split at h
      · next hpair =>
        obtain ⟨rfl, rfl⟩ := hpair
        obtain ⟨rfl, rfl⟩ := Prod.mk.inj (Option.some.inj h)
        rfl
      · obtain ⟨⟨b, a⟩, hb, heq⟩ := Option.map_eq_some_iff.1 h
        obtain ⟨rfl, rfl⟩ := Prod.mk.inj heq
        rw [ih hb]
        rfl

end Gazetteer.Text
