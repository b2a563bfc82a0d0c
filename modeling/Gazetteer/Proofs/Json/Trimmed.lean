/-
Gazetteer.Proofs.Json.Trimmed — an object is read from a text as from the trimmed text.

A value that was read is read again from the text that it took, whatever follows
and with any allowance of twice the length of that text; an array or an object
takes its text up to the character that closes it. White space of JSON is blank,
so what trimming leaves of the text of an object is what was taken for it.
-/
import Gazetteer.Proofs.Json.Token
import Gazetteer.Proofs.Json.Written
import Gazetteer.Text.Blank

namespace Gazetteer.Json

variable {depth a : Nat} {v : Value} {vs : List Value} {fields before : Fields}
  {c : Char} {cs rest behind : List Char}

/-- The text of a value is read again before any text that does not go on with a number. -/
def ValueAgain (depth : Nat) (cs : List Char) (v : Value) (rest : List Char) : Prop :=
  ∃ used, used ≠ [] ∧ cs = used ++ rest ∧ ∀ b tail, EndsNumber tail → 2 * used.length ≤ b →
    value depth b (used ++ tail) = .ok (v, tail)

/-- The text up to a closing character is read again, whatever follows that. -/
def ClosedAgain {α : Type} (close : Char) (scan : Nat → List Char → Scanned α) (cs : List Char)
    (x : α) (rest : List Char) : Prop :=
  ∃ used, cs = used ++ close :: rest ∧ ∀ b tail, 2 * used.length + 2 ≤ b →
    scan b (used ++ close :: tail) = .ok (x, tail)

/-- Whatever is read with an allowance is read again. -/
structure ReadsAgain (a : Nat) : Prop where
  ofValue : ∀ {depth cs v rest}, value depth a cs = .ok (v, rest) → ValueAgain depth cs v rest
  ofElements : ∀ {depth cs vs rest}, elements depth a cs = .ok (vs, rest) →
    ClosedAgain ']' (elements depth) cs vs rest
  ofMoreElements : ∀ {depth cs vs rest}, moreElements depth a cs = .ok (vs, rest) →
    ClosedAgain ']' (moreElements depth) cs vs rest
  ofMembers : ∀ {depth before cs fields rest}, members depth a before cs = .ok (fields, rest) →
    ClosedAgain '\x7d' (members depth · before) cs fields rest
  ofMember : ∀ {depth before cs fields rest}, member depth a before cs = .ok (fields, rest) →
    ClosedAgain '\x7d' (member depth · before) cs fields rest
  ofMoreMembers : ∀ {depth before cs fields rest},
    moreMembers depth a before cs = .ok (fields, rest) →
    ClosedAgain '\x7d' (moreMembers depth · before) cs fields rest

/-! ## What follows a value -/

theorem endsNumber_of_skipSpace (h : skipSpace cs = c :: behind) (hc : EndsNumber [c]) :
    EndsNumber cs := by
  obtain ⟨space, rfl, -, hspace⟩ := skipSpace_eq_cons h
  cases space with
  | nil => simpa [EndsNumber] using hc
  | cons d space =>
    have hd : d = ' ' ∨ d = '\n' ∨ d = '\t' ∨ d = '\r' := by
      simpa [isSpace, or_assoc] using hspace d (by simp)
    rcases hd with rfl | rfl | rfl | rfl <;>
      exact .cons (by decide) (by decide) (by decide) (by decide) _

theorem EndsNumber.swap {used tail : List Char} (h : EndsNumber (used ++ c :: rest)) :
    EndsNumber (used ++ c :: tail) := by
  cases used <;> simpa [EndsNumber] using h

theorem moreElements_endsNumber (h : moreElements depth a cs = .ok (vs, rest)) :
    EndsNumber cs := by
  cases a with
  | zero => simp [moreElements] at h
  | succ a =>
    rcases moreElements_cases h with ⟨hcs, -⟩ | ⟨_, _, _, _, hcs, -⟩ <;>
      exact endsNumber_of_skipSpace hcs
        (.cons (by decide) (by decide) (by decide) (by decide) _)

theorem moreMembers_endsNumber (h : moreMembers depth a before cs = .ok (fields, rest)) :
    EndsNumber cs := by
  cases a with
  | zero => simp [moreMembers] at h
  | succ a =>
    rcases moreMembers_cases h with ⟨hcs, -⟩ | ⟨_, _, hcs, -⟩ <;>
      exact endsNumber_of_skipSpace hcs
        (.cons (by decide) (by decide) (by decide) (by decide) _)

/-! ## Values -/

theorem ValueAgain.space (h : ValueAgain depth (skipSpace cs) v rest) :
    ValueAgain depth cs v rest := by
  obtain ⟨used, hne, hcs, hagain⟩ := h
  obtain ⟨c, used, rfl⟩ := List.exists_cons_of_ne_nil hne
  obtain ⟨space, rfl, -, hspace⟩ := skipSpace_eq_cons hcs
  refine ⟨space ++ c :: used, by simp, by simp, ?_⟩
  intro b tail htail hb
  simp only [List.length_append, List.length_cons] at hb
  have hread := hagain b tail htail (by simp only [List.length_cons]; omega)
  cases b with
  | zero => omega
  | succ b =>
    rw [value] at hread ⊢
    rwa [List.append_assoc, skipSpace_append hspace]

theorem OpensValue.again (h : OpensValue depth a cs v rest) (ha : ReadsAgain a) :
    ValueAgain depth cs v rest := by
  cases h with
  | text h =>
    obtain ⟨used, rfl, hagain⟩ := text_again h
    refine ⟨'"' :: used, by simp, by simp, ?_⟩
    intro b tail _ hb
    obtain ⟨b, rfl⟩ := Nat.exists_eq_succ_of_ne_zero (n := b) (by simp at hb; omega)
    simp [value, skipSpace_cons, isSpace, hagain, Except.map]
  | null h =>
    obtain ⟨rfl, -⟩ := word_append h []
    refine ⟨['n', 'u', 'l', 'l'], by simp, by simp, ?_⟩
    intro b tail htail hb
    exact (returns_null _).reads b tail htail (by simpa [Value.write] using hb)
  | true h =>
    obtain ⟨rfl, -⟩ := word_append h []
    refine ⟨['t', 'r', 'u', 'e'], by simp, by simp, ?_⟩
    intro b tail htail hb
    exact (returns_boolean _ Bool.true).reads b tail htail (by simpa [Value.write] using hb)
  | false h =>
    obtain ⟨rfl, -⟩ := word_append h []
    refine ⟨['f', 'a', 'l', 's', 'e'], by simp, by simp, ?_⟩
    intro b tail htail hb
    exact (returns_boolean _ Bool.false).reads b tail htail (by simpa [Value.write] using hb)
  | number hc h =>
    obtain ⟨d, used, hcs, hagain⟩ := number_again h
    obtain ⟨rfl, rfl⟩ := List.cons.inj hcs
    obtain ⟨hspace, -, hquote, hn, ht, hf⟩ := opensNumber_facts hc
    refine ⟨_ :: used, by simp, rfl, ?_⟩
    intro b tail htail hb
    obtain ⟨b, rfl⟩ := Nat.exists_eq_succ_of_ne_zero (n := b) (by simp at hb; omega)
    rw [List.cons_append, value, skipSpace_cons hspace]
    simp [hquote, hn, ht, hf, hc, hagain tail htail, Except.map]
  | array h =>
    obtain ⟨used, rfl, hagain⟩ := ha.ofElements h
    refine ⟨'[' :: (used ++ [']']), by simp, by simp, ?_⟩
    intro b tail _ hb
    simp only [List.length_cons, List.length_append, List.length_nil] at hb
    obtain ⟨b, rfl⟩ := Nat.exists_eq_succ_of_ne_zero (n := b) (by omega)
    simp [value, skipSpace_cons, isSpace, opensNumber, hagain b tail (by omega), Except.map]
  | object h =>
    obtain ⟨used, rfl, hagain⟩ := ha.ofMembers h
    refine ⟨'\x7b' :: (used ++ ['\x7d']), by simp, by simp, ?_⟩
    intro b tail _ hb
    simp only [List.length_cons, List.length_append, List.length_nil] at hb
    obtain ⟨b, rfl⟩ := Nat.exists_eq_succ_of_ne_zero (n := b) (by omega)
    simp [value, skipSpace_cons, isSpace, opensNumber, hagain b tail (by omega), Except.map]

/-! ## Elements -/

theorem elements_again (ha : ReadsAgain a) (h : elements depth (a + 1) cs = .ok (vs, rest)) :
    ClosedAgain ']' (elements depth) cs vs rest := by
  rcases elements_cases h with ⟨hcs, rfl⟩ | ⟨c, behind, v, others, between, hcs, hc, rfl, hv, hmore⟩
  · obtain ⟨space, rfl, -, hspace⟩ := skipSpace_eq_cons hcs
    refine ⟨space, rfl, ?_⟩
    intro b tail hb
    obtain ⟨b, rfl⟩ := Nat.exists_eq_succ_of_ne_zero (n := b) (by omega)
    simp [elements, skipSpace_append hspace, skipSpace_cons, isSpace]
  · obtain ⟨space, rfl, hfirst, hspace⟩ := skipSpace_eq_cons hcs
    have hend := moreElements_endsNumber hmore
    obtain ⟨used, hne, hused, hvalue⟩ := ha.ofValue hv
    obtain ⟨others', rfl, hothers⟩ := ha.ofMoreElements hmore
    obtain ⟨d, used, rfl⟩ := List.exists_cons_of_ne_nil hne
    obtain ⟨rfl, rfl⟩ := List.cons.inj hused
    refine ⟨space ++ (c :: used ++ others'), by simp, ?_⟩
    intro b tail hb
    simp only [List.length_append, List.length_cons] at hb
    obtain ⟨b, rfl⟩ := Nat.exists_eq_succ_of_ne_zero (n := b) (by omega)
    have hread := hvalue b (others' ++ ']' :: tail) hend.swap
      (by simp only [List.length_cons]; omega)
    simp only [List.cons_append] at hread
    simp [elements, skipSpace_append hspace, skipSpace_cons hfirst, hc, hread,
      hothers b tail (by omega), Except.map]

theorem moreElements_again (ha : ReadsAgain a)
    (h : moreElements depth (a + 1) cs = .ok (vs, rest)) :
    ClosedAgain ']' (moreElements depth) cs vs rest := by
  rcases moreElements_cases h with ⟨hcs, rfl⟩ | ⟨behind, v, others, between, hcs, rfl, hv, hmore⟩
  · obtain ⟨space, rfl, -, hspace⟩ := skipSpace_eq_cons hcs
    refine ⟨space, rfl, ?_⟩
    intro b tail hb
    obtain ⟨b, rfl⟩ := Nat.exists_eq_succ_of_ne_zero (n := b) (by omega)
    simp [moreElements, skipSpace_append hspace, skipSpace_cons, isSpace]
  · obtain ⟨space, rfl, -, hspace⟩ := skipSpace_eq_cons hcs
    have hend := moreElements_endsNumber hmore
    obtain ⟨used, -, rfl, hvalue⟩ := ha.ofValue hv
    obtain ⟨others', rfl, hothers⟩ := ha.ofMoreElements hmore
    refine ⟨space ++ ',' :: (used ++ others'), by simp, ?_⟩
    intro b tail hb
    simp only [List.length_append, List.length_cons] at hb
    obtain ⟨b, rfl⟩ := Nat.exists_eq_succ_of_ne_zero (n := b) (by omega)
    have hread := hvalue b (others' ++ ']' :: tail) hend.swap (by omega)
    simp [moreElements, skipSpace_append hspace, skipSpace_cons, isSpace, hread,
      hothers b tail (by omega), Except.map]

/-! ## Fields -/

theorem members_again (ha : ReadsAgain a)
    (h : members depth (a + 1) before cs = .ok (fields, rest)) :
    ClosedAgain '\x7d' (members depth · before) cs fields rest := by
  rcases members_cases h with ⟨hcs, rfl⟩ | ⟨behind, hcs, hmember⟩
  · obtain ⟨space, rfl, -, hspace⟩ := skipSpace_eq_cons hcs
    refine ⟨space, rfl, ?_⟩
    intro b tail hb
    obtain ⟨b, rfl⟩ := Nat.exists_eq_succ_of_ne_zero (n := b) (by omega)
    simp [members, skipSpace_append hspace, skipSpace_cons, isSpace]
  · obtain ⟨space, rfl, -, hspace⟩ := skipSpace_eq_cons hcs
    obtain ⟨used, rfl, hagain⟩ := ha.ofMember hmember
    refine ⟨space ++ '"' :: used, by simp, ?_⟩
    intro b tail hb
    simp only [List.length_append, List.length_cons] at hb
    obtain ⟨b, rfl⟩ := Nat.exists_eq_succ_of_ne_zero (n := b) (by omega)
    simpa [members, skipSpace_append hspace, skipSpace_cons, isSpace]
      using hagain b tail (by omega)

theorem member_again (ha : ReadsAgain a)
    (h : member depth (a + 1) before cs = .ok (fields, rest)) :
    ClosedAgain '\x7d' (member depth · before) cs fields rest := by
  obtain ⟨name, afterName, behind, v, between, hname, hcs, hv, hmore⟩ := member_cases h
  obtain ⟨inside, rfl, htext⟩ := text_again hname
  obtain ⟨space, rfl, -, hspace⟩ := skipSpace_eq_cons hcs
  have hend := moreMembers_endsNumber hmore
  obtain ⟨used, -, rfl, hvalue⟩ := ha.ofValue hv
  obtain ⟨others, rfl, hothers⟩ := ha.ofMoreMembers hmore
  refine ⟨inside ++ (space ++ ':' :: (used ++ others)), by simp, ?_⟩
  intro b tail hb
  simp only [List.length_append, List.length_cons] at hb
  obtain ⟨b, rfl⟩ := Nat.exists_eq_succ_of_ne_zero (n := b) (by omega)
  have hread := hvalue b (others ++ '\x7d' :: tail) hend.swap (by omega)
  simpa [member, htext, skipSpace_append hspace, skipSpace_cons, isSpace, hread]
    using hothers b tail (by omega)

theorem moreMembers_again (ha : ReadsAgain a)
    (h : moreMembers depth (a + 1) before cs = .ok (fields, rest)) :
    ClosedAgain '\x7d' (moreMembers depth · before) cs fields rest := by
  rcases moreMembers_cases h with ⟨hcs, rfl⟩ | ⟨afterComma, behind, hcs, hcomma, hmember⟩
  · obtain ⟨space, rfl, -, hspace⟩ := skipSpace_eq_cons hcs
    refine ⟨space, rfl, ?_⟩
    intro b tail hb
    obtain ⟨b, rfl⟩ := Nat.exists_eq_succ_of_ne_zero (n := b) (by omega)
    simp [moreMembers, skipSpace_append hspace, skipSpace_cons, isSpace]
  · obtain ⟨space, rfl, -, hspace⟩ := skipSpace_eq_cons hcs
    obtain ⟨between, rfl, -, hbetween⟩ := skipSpace_eq_cons hcomma
    obtain ⟨used, rfl, hagain⟩ := ha.ofMember hmember
    refine ⟨space ++ ',' :: (between ++ '"' :: used), by simp, ?_⟩
    intro b tail hb
    simp only [List.length_append, List.length_cons] at hb
    obtain ⟨b, rfl⟩ := Nat.exists_eq_succ_of_ne_zero (n := b) (by omega)
    simpa [moreMembers, skipSpace_append hspace, skipSpace_append hbetween, skipSpace_cons, isSpace]
      using hagain b tail (by omega)

theorem readsAgain (a : Nat) : ReadsAgain a := by
  induction a with
  | zero =>
    constructor <;> intros <;>
      simp_all [value, elements, moreElements, members, member, moreMembers]
  | succ a ih =>
    exact {
      ofValue h := ((value_cases h).again ih).space
      ofElements := elements_again ih
      ofMoreElements := moreElements_again ih
      ofMembers := members_again ih
      ofMember := member_again ih
      ofMoreMembers := moreMembers_again ih }

/-! ## Trimming -/

theorem isBlank_of_isSpace (h : isSpace c = true) : Text.isBlank c = true := by
  have hc : c = ' ' ∨ c = '\n' ∨ c = '\t' ∨ c = '\r' := by
    simpa [isSpace, or_assoc] using h
  rcases hc with rfl | rfl | rfl | rfl <;> decide

/-- Trimming takes the blank ends off. -/
theorem trimChars_eq {first last : List Char} {d : Char} (hfirst : ∀ x ∈ first, Text.isBlank x = true)
    (hc : Text.isBlank c = false) (hd : Text.isBlank d = false)
    (hlast : ∀ x ∈ last, Text.isBlank x = true) (between : List Char) :
    Text.trimChars (first ++ c :: (between ++ d :: last)) = c :: (between ++ [d]) := by
  have hreverse : (c :: (between ++ d :: last)).reverse =
      last.reverse ++ d :: (between.reverse ++ [c]) := by simp
  rw [Text.trimChars, List.dropWhile_append_of_pos hfirst, List.dropWhile_cons_of_neg (by simp [hc]),
    hreverse, List.dropWhile_append_of_pos (by simpa using hlast),
    List.dropWhile_cons_of_neg (by simp [hd])]
  simp

theorem object_again (h : value depth a cs = .ok (.object fields, rest)) :
    ∃ space used, cs = space ++ '\x7b' :: (used ++ '\x7d' :: rest) ∧
      (∀ c ∈ space, isSpace c = true) ∧ ∀ b tail, 2 * used.length + 3 ≤ b →
        value depth b ('\x7b' :: (used ++ '\x7d' :: tail)) = .ok (.object fields, tail) := by
  cases a with
  | zero => simp [value] at h
  | succ a =>
    generalize hopen : skipSpace cs = behind, hobject : Value.object fields = v at *
    have hcases := value_cases h
    rw [hopen] at hcases
    cases hcases with
    | object hfields =>
      obtain rfl := Value.object.inj hobject
      obtain ⟨space, rfl, -, hspace⟩ := skipSpace_eq_cons hopen
      obtain ⟨used, rfl, hagain⟩ := (readsAgain a).ofMembers hfields
      refine ⟨space, used, rfl, hspace, ?_⟩
      intro b tail hb
      obtain ⟨b, rfl⟩ := Nat.exists_eq_succ_of_ne_zero (n := b) (by omega)
      simp [value, skipSpace_cons, isSpace, opensNumber, hagain b tail (by omega), Except.map]
    | _ => cases hobject

/-- An object that a text holds is that of the trimmed text. -/
theorem read_trim {s : String} (h : read s = .ok (.object fields)) :
    read (Text.trim s) = .ok (.object fields) := by
  obtain ⟨rest, hread, hrest⟩ := read_eq_ok.1 h
  obtain ⟨space, used, hs, hspace, hagain⟩ := object_again hread
  have hend : ∀ c ∈ rest, isSpace c = true := by
    have hsplit := List.takeWhile_append_dropWhile (p := isSpace) (l := rest)
    unfold skipSpace at hrest
    rw [hrest, List.append_nil] at hsplit
    rw [← hsplit]
    exact List.all_eq_true.1 List.all_takeWhile
  have htrim : Text.trimChars s.toList = '\x7b' :: (used ++ ['\x7d']) := by
    rw [hs]
    exact trimChars_eq (fun c hc => isBlank_of_isSpace (hspace c hc)) (by decide) (by decide)
      (fun c hc => isBlank_of_isSpace (hend c hc)) used
  refine read_eq_ok.2 ⟨[], ?_, rfl⟩
  rw [Text.trim_toList, htrim]
  refine hagain _ [] ?_
  simp only [allowance, List.length_cons, List.length_append, List.length_nil]
  omega

end Gazetteer.Json
