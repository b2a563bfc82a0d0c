/-
Gazetteer.Proofs.Json.Grammar — JSON texts by their grammar, and how they are read over.

The grammar is that of the JSON standard and says nothing of how a text is read: white
space may stand between any two tokens, a character of a text may stand for itself or be
escaped in any way, a number may have any number of digits, and arrays and objects may
be nested to any depth. Whatever is a value by the grammar is read over up to its end,
whatever follows, as long as that does not go on with a number. Between quotes the
characters of a text are read as those that they stand for.
-/
import Gazetteer.Proofs.Json.Trimmed

namespace Gazetteer.Json

/-! ## The grammar -/

/-- White space and nothing else. -/
def IsSpace (cs : List Char) : Prop := ∀ c ∈ cs, isSpace c = true

/-- What may stand between quotes, be it a text or not: surrogates may stand alone. -/
inductive IsInside : List Char → Prop where
  | nil : IsInside []
  | plain {c : Char} {cs : List Char} (h : IsPlain c) (rest : IsInside cs) : IsInside (c :: cs)
  | letter {letter : Char × Char} {cs : List Char} (h : letter ∈ letters) (rest : IsInside cs) :
      IsInside ('\\' :: letter.1 :: cs)
  | unit {digits cs : List Char} (h : IsUnit digits) (rest : IsInside cs) :
      IsInside ('\\' :: 'u' :: (digits ++ cs))

/-- Digits, at least one. -/
def IsDigits (ds : List Char) : Prop := ds ≠ [] ∧ ∀ d ∈ ds, d.isDigit = true

/-- The fraction of a number, or none. -/
def IsFraction (cs : List Char) : Prop := cs = [] ∨ ∃ ds, IsDigits ds ∧ cs = '.' :: ds

/-- The exponent of a number, or none. -/
def IsExponent (cs : List Char) : Prop :=
  cs = [] ∨ ∃ letter sign ds, (letter = 'e' ∨ letter = 'E') ∧
    (sign = [] ∨ sign = ['+'] ∨ sign = ['-']) ∧ IsDigits ds ∧ cs = letter :: (sign ++ ds)

/-- A number; no zero leads in vain. -/
def IsNumber (cs : List Char) : Prop :=
  ∃ sign ds fraction exponent, (sign = [] ∨ sign = ['-']) ∧
    (IsDigits ds ∧ ¬ (ds.head? = some '0' ∧ 1 < ds.length)) ∧ IsFraction fraction ∧
    IsExponent exponent ∧ cs = sign ++ (ds ++ (fraction ++ exponent))

/-- What stands before an element or a field: a comma if there is one before it. -/
def IsGap (isNext : Bool) (cs : List Char) : Prop :=
  ∃ before after, IsSpace before ∧ IsSpace after ∧
    cs = before ++ ((if isNext then [','] else []) ++ after)

/-- What stands between a name and its value. -/
def IsColon (cs : List Char) : Prop :=
  ∃ before after, IsSpace before ∧ IsSpace after ∧ cs = before ++ ':' :: after

/-- What a stretch of text is. -/
inductive Phrase where
  | value
  /-- An array from inside it; `isNext` tells that an element stands before. -/
  | elements (isNext : Bool)
  /-- An object from inside it; `isNext` tells that a field stands before. -/
  | members (isNext : Bool)

/-- The texts that are values, arrays from inside and objects from inside. -/
inductive Phrase.Derives : Phrase → List Char → Prop where
  | null : Derives value ['n', 'u', 'l', 'l']
  | yes : Derives value ['t', 'r', 'u', 'e']
  | no : Derives value ['f', 'a', 'l', 's', 'e']
  | number {cs : List Char} (h : IsNumber cs) : Derives value cs
  | text {cs : List Char} (h : IsInside cs) : Derives value ('"' :: (cs ++ ['"']))
  | array {cs : List Char} (h : Derives (elements false) cs) : Derives value ('[' :: cs)
  | object {cs : List Char} (h : Derives (members false) cs) : Derives value ('\x7b' :: cs)
  | noElement {isNext : Bool} {space : List Char} (h : IsSpace space) :
      Derives (elements isNext) (space ++ [']'])
  | element {isNext : Bool} {gap cs rest : List Char} (hgap : IsGap isNext gap)
      (hvalue : Derives value cs) (hrest : Derives (elements true) rest) :
      Derives (elements isNext) (gap ++ (cs ++ rest))
  | noMember {isNext : Bool} {space : List Char} (h : IsSpace space) :
      Derives (members isNext) (space ++ ['\x7d'])
  | member {isNext : Bool} {gap name colon cs rest : List Char} (hgap : IsGap isNext gap)
      (hname : IsInside name) (hcolon : IsColon colon) (hvalue : Derives value cs)
      (hrest : Derives (members true) rest) :
      Derives (members isNext) (gap ++ '"' :: (name ++ '"' :: (colon ++ (cs ++ rest))))

/-! ## Texts -/

variable {c : Char} {cs ds rest space gap colon units : List Char} {isNext : Bool}

theorem skipQuoted_unit (h : IsUnit units) (rest : List Char) :
    skipQuoted false 4 (units ++ rest) = skipQuoted false 0 rest := by
  obtain ⟨d1, d2, d3, d4, rfl, h1, h2, h3, h4⟩ := h.eq_four
  simp [skipQuoted, h1, h2, h3, h4]

/-- Whatever may stand between quotes is read over. -/
theorem IsInside.skip (h : IsInside cs) (rest : List Char) :
    skipQuoted false 0 (cs ++ '"' :: rest) = .ok rest := by
  induction h with
  | nil => simp [skipQuoted]
  | plain h _ ih => simp [skipQuoted, h.1, h.2.1, h.2.2, ih]
  | letter h _ ih =>
    obtain ⟨hu, hchar⟩ := escapedChar?_letter h
    simp [skipQuoted, hu, hchar, ih]
  | @unit units cs h _ ih =>
    have hfour := h.hasFourBytes (cs ++ '"' :: rest)
    simp [skipQuoted, hfour, skipQuoted_unit h, ih]

/-! ## Numbers -/

theorem IsDigits.cons (h : IsDigits ds) :
    ∃ d others, ds = d :: others ∧ d.isDigit = true := by
  obtain ⟨d, others, rfl⟩ := List.exists_cons_of_ne_nil h.1
  exact ⟨d, others, rfl, h.2 d List.mem_cons_self⟩

theorem IsDigits.digits (h : IsDigits ds) (hrest : ∀ c ∈ rest.head?, c.isDigit = false) :
    digits (ds ++ rest) = (ds, rest) ∧ ds.isEmpty = false :=
  ⟨digits_append h.2 hrest, by simpa using h.1⟩

theorem isDigit_ne_sign (h : c.isDigit = true) : c ≠ '-' ∧ c ≠ '+' := by
  constructor <;> rintro rfl <;> exact absurd h (by decide)

theorem skipExponent_digits {sign : List Char} (hsign : sign = [] ∨ sign = ['+'] ∨ sign = ['-'])
    (hds : IsDigits ds) (hrest : EndsNumber rest) :
    skipExponent (sign ++ (ds ++ rest)) = .ok rest := by
  obtain ⟨hdigits, hempty⟩ := hds.digits fun c hc => (hrest c hc).1
  have hdrop : (if (sign ++ (ds ++ rest)).head? == some '-' ||
        (sign ++ (ds ++ rest)).head? == some '+'
      then (sign ++ (ds ++ rest)).drop 1 else sign ++ (ds ++ rest)) = ds ++ rest := by
    obtain rfl | rfl | rfl := hsign
    · obtain ⟨d, others, rfl, hd⟩ := hds.cons
      simp [isDigit_ne_sign hd]
    · rfl
    · rfl
  simp only [skipExponent, hdrop, hdigits, hempty]
  rfl

/-- The end of a number that is read over: an exponent, or none. -/
def skipExponentOrEnd (cs : List Char) : Except Fault (List Char) :=
  match cs with
  | 'e' :: rest | 'E' :: rest => skipExponent rest
  | _ => .ok cs

/-- A number that is read over, after the digits before its point. -/
def skipDecimals (cs : List Char) : Except Fault (List Char) :=
  match cs with
  | '.' :: rest =>
    if (digits rest).1.isEmpty then .error .malformed else skipExponentOrEnd (digits rest).2
  | 'e' :: rest | 'E' :: rest => skipExponent rest
  | _ => .ok cs

theorem skipDecimals_noPoint (h : cs.head? ≠ some '.') :
    skipDecimals cs = skipExponentOrEnd cs := by
  unfold skipDecimals
  split
  · exact absurd rfl h
  · rfl
  · rfl
  · next he hE => simp only [skipExponentOrEnd]

theorem skipNumber_eq {sign : List Char} (hsign : sign = [] ∨ sign = ['-']) (hds : IsDigits ds)
    (hzero : ¬ (ds.head? = some '0' ∧ 1 < ds.length))
    (hrest : ∀ c ∈ rest.head?, c.isDigit = false) :
    skipNumber (sign ++ (ds ++ rest)) = skipDecimals rest := by
  obtain ⟨hdigits, hempty⟩ := hds.digits hrest
  have hdrop : (if (sign ++ (ds ++ rest)).head? == some '-' then (sign ++ (ds ++ rest)).drop 1
      else sign ++ (ds ++ rest)) = ds ++ rest := by
    obtain rfl | rfl := hsign
    · obtain ⟨d, others, rfl, hd⟩ := hds.cons
      simp [isDigit_ne_sign hd]
    · rfl
  simp only [skipNumber, hdrop, hdigits, hempty, Bool.false_eq_true, false_or, if_neg hzero]
  rfl

/-- An exponent is read over; it opens neither with a digit nor with a point. -/
theorem IsExponent.skip (h : IsExponent cs) (hrest : EndsNumber rest) :
    skipExponentOrEnd (cs ++ rest) = .ok rest ∧
      ∀ c ∈ (cs ++ rest).head?, c.isDigit = false ∧ c ≠ '.' := by
  obtain rfl | ⟨letter, sign, ds, hletter, hsign, hds, rfl⟩ := h
  · refine ⟨?_, fun c hc => ⟨(hrest c hc).1, (hrest c hc).2.1⟩⟩
    unfold skipExponentOrEnd
    split
    · next heq => exact absurd rfl (hrest 'e' (by rw [← List.nil_append rest, heq]; simp)).2.2.1
    · next heq => exact absurd rfl (hrest 'E' (by rw [← List.nil_append rest, heq]; simp)).2.2.2
    · rfl
  · have hskip := skipExponent_digits hsign hds hrest
    rw [← List.append_assoc] at hskip
    obtain rfl | rfl := hletter
    · exact ⟨hskip, by simp⟩
    · exact ⟨hskip, by simp⟩

theorem skipDecimals_fraction {fraction exponent : List Char} (hf : IsFraction fraction)
    (he : IsExponent exponent) (hrest : EndsNumber rest) :
    skipDecimals (fraction ++ (exponent ++ rest)) = .ok rest ∧
      ∀ c ∈ (fraction ++ (exponent ++ rest)).head?, c.isDigit = false := by
  obtain ⟨hskip, hhead⟩ := he.skip hrest
  obtain rfl | ⟨ds, hds, rfl⟩ := hf
  · refine ⟨?_, fun c hc => (hhead c hc).1⟩
    rw [List.nil_append, skipDecimals_noPoint fun hc => (hhead '.' hc).2 rfl]
    exact hskip
  · obtain ⟨hdigits, hempty⟩ := hds.digits fun c hc => (hhead c hc).1
    refine ⟨?_, by simp⟩
    simp only [List.cons_append, skipDecimals, hdigits, hempty]
    exact hskip

/-- Every number is read over. -/
theorem IsNumber.skip (h : IsNumber cs) (hrest : EndsNumber rest) :
    skipNumber (cs ++ rest) = .ok rest := by
  obtain ⟨sign, ds, fraction, exponent, hsign, ⟨hds, hzero⟩, hf, he, rfl⟩ := h
  obtain ⟨hskip, hend⟩ := skipDecimals_fraction hf he hrest
  simp only [List.append_assoc]
  rw [skipNumber_eq hsign hds hzero hend, hskip]

/-! ## White space and marks -/

/-- The characters that stand between and behind values. -/
def marks : List Char := [',', ':', ']', '\x7d']

theorem skipSpace_mark (hs : IsSpace space) (hc : c ∈ marks) (cs : List Char) :
    skipSpace (space ++ c :: cs) = c :: cs := by
  have hspace : isSpace c = false := by
    have hall : marks.all (fun c => !isSpace c) = true := by decide
    simpa using List.all_eq_true.mp hall c hc
  rw [skipSpace_append hs, skipSpace_cons hspace]

/-- White space before a mark ends a number. -/
theorem endsNumber_mark (hs : IsSpace space) (hc : c ∈ marks) (cs : List Char) :
    EndsNumber (space ++ c :: cs) := by
  refine endsNumber_of_skipSpace (skipSpace_mark hs hc cs) ?_
  have hall : marks.all (fun c => !c.isDigit && c != '.' && c != 'e' && c != 'E') = true := by
    decide
  have hmark := List.all_eq_true.mp hall c hc
  simp only [Bool.and_eq_true, Bool.not_eq_true', bne_iff_ne] at hmark
  obtain ⟨⟨⟨hdigit, hpoint⟩, he⟩, hE⟩ := hmark
  exact .cons hdigit hpoint he hE []

/-- After an element or a field there is a comma or the end. -/
theorem IsGap.endsNumber (h : IsGap true gap) (cs : List Char) : EndsNumber (gap ++ cs) := by
  obtain ⟨before, after, hb, -, rfl⟩ := h
  rw [List.append_assoc]
  exact endsNumber_mark hb (by decide) _

/-- What a reader meets that comes to an element or a field: its beginning or the comma before it,
and not the end. -/
theorem IsGap.opens {close d : Char} (h : IsGap isNext gap) (others : List Char)
    (hspace : isSpace d = false) (hd : d ≠ close) (hclose : ',' ≠ close) :
    ∃ c behind after, skipSpace (gap ++ d :: others) = c :: behind ∧ c ≠ close ∧
      (isNext && c != ',') = false ∧ IsSpace after ∧
      (if isNext then behind else c :: behind) = after ++ d :: others := by
  obtain ⟨before, after, hb, ha, rfl⟩ := h
  cases isNext with
  | false =>
    refine ⟨d, others, [], ?_, hd, rfl, by simp [IsSpace], rfl⟩
    simp only [Bool.false_eq_true, if_false, List.nil_append, List.append_assoc]
    rw [skipSpace_append hb, skipSpace_append ha, skipSpace_cons hspace]
  | true =>
    refine ⟨',', after ++ d :: others, after, ?_, hclose, rfl, ha, rfl⟩
    simp only [if_true, List.append_assoc]
    exact skipSpace_mark hb (by decide) _

/-! ## Values -/

theorem IsNumber.cons (h : IsNumber cs) : ∃ c rest, cs = c :: rest ∧ opensNumber c = true := by
  obtain ⟨sign, ds, fraction, exponent, hsign, ⟨hds, -⟩, -, -, rfl⟩ := h
  obtain ⟨d, others, rfl, hd⟩ := hds.cons
  obtain rfl | rfl := hsign
  · exact ⟨d, _, rfl, by simp [opensNumber, hd]⟩
  · exact ⟨'-', _, rfl, by decide⟩

/-- A value opens with a character that is neither white space nor the end of an array. -/
theorem Phrase.Derives.value_cons (h : Derives .value cs) :
    ∃ c rest, cs = c :: rest ∧ isSpace c = false ∧ c ≠ ']' := by
  cases h with
  | null | yes | no | text | array | object => exact ⟨_, _, rfl, by decide, by decide⟩
  | number h =>
    obtain ⟨c, rest, rfl, hc⟩ := h.cons
    exact ⟨c, rest, rfl, (opensNumber_facts hc).1, (opensNumber_facts hc).2.1⟩

/-- What goes on after an element or a field does not go on with a number. -/
theorem Phrase.Derives.endsNumber (h : Derives (.elements true) cs ∨ Derives (.members true) cs)
    (tail : List Char) : EndsNumber (cs ++ tail) := by
  rcases h with h | h
  · cases h with
    | noElement hs =>
      rw [List.append_assoc]
      exact endsNumber_mark hs (by decide) _
    | element hgap _ _ =>
      rw [List.append_assoc]
      exact hgap.endsNumber _
  · cases h with
    | noMember hs =>
      rw [List.append_assoc]
      exact endsNumber_mark hs (by decide) _
    | member hgap _ _ _ _ =>
      rw [List.append_assoc]
      exact hgap.endsNumber _

/-- How many calls it takes at the most to read over a stretch of text. -/
def Phrase.calls : Phrase → List Char → Nat
  | value, cs => 2 * cs.length - 1
  | elements _, cs | members _, cs => 2 * cs.length

/-- The text after a stretch of text that is read over. -/
def Phrase.skip : Phrase → (allowance : Nat) → List Char → Except Fault (List Char)
  | value, a, cs => skipValue a cs
  | elements isNext, a, cs => skipElements a isNext cs
  | members isNext, a, cs => skipMembers a isNext cs

/-- A stretch of text is read over, whatever follows; a value, whatever does not go on with it. -/
def Phrase.IsSkipped (phrase : Phrase) (cs : List Char) : Prop :=
  ∀ a rest, phrase.calls cs ≤ a → (phrase = .value → EndsNumber rest) →
    phrase.skip a (cs ++ rest) = .ok rest

/-- White space before a value makes no difference. -/
theorem skipValue_space (hs : IsSpace space) (a : Nat) (cs : List Char) :
    skipValue a (space ++ cs) = skipValue a cs := by
  cases a with
  | zero => simp [skipValue]
  | succ a => simp only [skipValue, skipSpace_append hs]

theorem isSkipped_number (h : IsNumber cs) : Phrase.value.IsSkipped cs := by
  intro a rest ha hrest
  have hskip := h.skip (hrest rfl)
  obtain ⟨c, others, rfl, hc⟩ := h.cons
  obtain ⟨hspace, -, hquote, hn, ht, hf⟩ := opensNumber_facts hc
  obtain ⟨a, rfl⟩ := Nat.exists_eq_add_one.mpr (show 0 < a by simp [Phrase.calls] at ha; omega)
  simp only [Phrase.skip, List.cons_append, skipValue, skipSpace_cons hspace, hquote, hn, ht, hf,
    hc, if_false, if_true]
  exact hskip

theorem isSkipped_element (hgap : IsGap isNext gap) (hv : Phrase.value.Derives cs)
    (hvalue : Phrase.value.IsSkipped cs) (hends : ∀ tail, EndsNumber (rest ++ tail))
    (hrest : (Phrase.elements true).IsSkipped rest) :
    (Phrase.elements isNext).IsSkipped (gap ++ (cs ++ rest)) := by
  intro a tail ha _
  obtain ⟨c, others, hcs, hspace, hend⟩ := hv.value_cons
  simp only [Phrase.calls, List.length_append] at ha
  have hpos : 0 < cs.length := by simp [hcs]
  obtain ⟨a, rfl⟩ := Nat.exists_eq_add_one.mpr (show 0 < a by omega)
  have hover : skipValue a (cs ++ (rest ++ tail)) = .ok (rest ++ tail) :=
    hvalue a _ (by simp only [Phrase.calls]; omega) fun _ => hends tail
  have hgo : skipElements a true (rest ++ tail) = .ok tail :=
    hrest a tail (by simp only [Phrase.calls]; omega) (by simp)
  subst hcs
  obtain ⟨d, behind, after, hfirst, hclose, hcomma, hafter, hbehind⟩ :=
    hgap.opens (others ++ (rest ++ tail)) hspace hend (by decide)
  have htext : gap ++ (c :: others ++ rest) ++ tail = gap ++ c :: (others ++ (rest ++ tail)) := by
    simp
  have hvalue : skipValue a (if isNext then behind else d :: behind) = .ok (rest ++ tail) := by
    rw [hbehind, skipValue_space hafter]
    exact hover
  simp only [Phrase.skip, htext, skipElements, hfirst, if_neg hclose, hcomma, hvalue, hgo]
  rfl

theorem isSkipped_member {name : List Char} (hgap : IsGap isNext gap) (hname : IsInside name)
    (hcolon : IsColon colon) (hvalue : Phrase.value.IsSkipped cs)
    (hends : ∀ tail, EndsNumber (rest ++ tail)) (hrest : (Phrase.members true).IsSkipped rest) :
    (Phrase.members isNext).IsSkipped
      (gap ++ '"' :: (name ++ '"' :: (colon ++ (cs ++ rest)))) := by
  intro a tail ha _
  simp only [Phrase.calls, List.length_append, List.length_cons] at ha
  obtain ⟨a, rfl⟩ := Nat.exists_eq_add_one.mpr (show 0 < a by omega)
  have hover : skipValue a (cs ++ (rest ++ tail)) = .ok (rest ++ tail) :=
    hvalue a _ (by simp only [Phrase.calls]; omega) fun _ => hends tail
  have hgo : skipMembers a true (rest ++ tail) = .ok tail :=
    hrest a tail (by simp only [Phrase.calls]; omega) (by simp)
  obtain ⟨before, behind, hb, ha', rfl⟩ := hcolon
  have hquoted := hname.skip (before ++ ':' :: (behind ++ (cs ++ (rest ++ tail))))
  have hmark := skipSpace_mark hb (by decide : ':' ∈ marks) (behind ++ (cs ++ (rest ++ tail)))
  have hpast : skipValue a (behind ++ (cs ++ (rest ++ tail))) = .ok (rest ++ tail) := by
    rw [skipValue_space ha']
    exact hover
  obtain ⟨d, more, after, hfirst, hclose, hcomma, hafter, hmore⟩ := hgap.opens
    (name ++ '"' :: (before ++ ':' :: (behind ++ (cs ++ (rest ++ tail)))))
    (by decide : isSpace '"' = false) (by decide : '"' ≠ '\x7d') (by decide)
  have hquote : skipSpace (if isNext then more else d :: more) =
      '"' :: (name ++ '"' :: (before ++ ':' :: (behind ++ (cs ++ (rest ++ tail))))) := by
    rw [hmore, skipSpace_append hafter, skipSpace_cons (by decide)]
  have htext : gap ++ '"' :: (name ++ '"' :: (before ++ ':' :: behind ++ (cs ++ rest))) ++ tail =
      gap ++ '"' :: (name ++ '"' :: (before ++ ':' :: (behind ++ (cs ++ (rest ++ tail))))) := by
    simp
  simp only [Phrase.skip, htext, skipMembers, hfirst, if_neg hclose, hcomma, hquote, hquoted,
    hmark, hpast, hgo]
  rfl

/-- Whatever is a value, an array or an object by the grammar is read over. -/
theorem Phrase.Derives.isSkipped {phrase : Phrase} (h : phrase.Derives cs) :
    phrase.IsSkipped cs := by
  induction h with
  | null | yes | no =>
    intro a rest ha _
    obtain ⟨a, rfl⟩ := Nat.exists_eq_add_one.mpr (show 0 < a by simp [Phrase.calls] at ha; omega)
    simp [Phrase.skip, skipValue, skipSpace_cons, isSpace, word]
  | number h => exact isSkipped_number h
  | @text cs h =>
    intro a rest ha _
    obtain ⟨a, rfl⟩ := Nat.exists_eq_add_one.mpr (show 0 < a by simp [Phrase.calls] at ha; omega)
    simp [Phrase.skip, skipValue, skipSpace_cons, isSpace, h.skip rest]
  | @array cs _ ih =>
    intro a rest ha _
    simp only [Phrase.calls, List.length_cons] at ha
    obtain ⟨a, rfl⟩ := Nat.exists_eq_add_one.mpr (show 0 < a by omega)
    have hover : skipElements a false (cs ++ rest) = .ok rest :=
      ih a rest (by simp only [Phrase.calls]; omega) (by simp)
    simp [Phrase.skip, skipValue, skipSpace_cons, isSpace, opensNumber, hover]
  | @object cs _ ih =>
    intro a rest ha _
    simp only [Phrase.calls, List.length_cons] at ha
    obtain ⟨a, rfl⟩ := Nat.exists_eq_add_one.mpr (show 0 < a by omega)
    have hover : skipMembers a false (cs ++ rest) = .ok rest :=
      ih a rest (by simp only [Phrase.calls]; omega) (by simp)
    simp [Phrase.skip, skipValue, skipSpace_cons, isSpace, opensNumber, hover]
  | @noElement isNext space hs =>
    intro a rest ha _
    obtain ⟨a, rfl⟩ := Nat.exists_eq_add_one.mpr (show 0 < a by simp [Phrase.calls] at ha; omega)
    have hend := skipSpace_mark hs (by decide : ']' ∈ marks) rest
    simp [Phrase.skip, skipElements, hend]
  | element hgap hv hr ihv ihr =>
    exact isSkipped_element hgap hv ihv (fun tail => Derives.endsNumber (.inl hr) tail) ihr
  | @noMember isNext space hs =>
    intro a rest ha _
    obtain ⟨a, rfl⟩ := Nat.exists_eq_add_one.mpr (show 0 < a by simp [Phrase.calls] at ha; omega)
    have hend := skipSpace_mark hs (by decide : '\x7d' ∈ marks) rest
    simp [Phrase.skip, skipMembers, hend]
  | member hgap hname hcolon _ hr ihv ihr =>
    exact isSkipped_member hgap hname hcolon ihv (fun tail => Derives.endsNumber (.inr hr) tail) ihr

/-- So a value is, white space before it or not, with an allowance of twice its length. -/
theorem Phrase.Derives.skipValue {a : Nat} (h : Derives .value cs) (hs : IsSpace space)
    (ha : 2 * cs.length ≤ a) (hrest : EndsNumber rest) :
    Json.skipValue a (space ++ (cs ++ rest)) = .ok rest := by
  rw [skipValue_space hs]
  exact h.isSkipped a rest (by simp only [Phrase.calls]; omega) fun _ => hrest

end Gazetteer.Json
