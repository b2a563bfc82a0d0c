/-
Gazetteer.Proofs.Json.Quoted — a quoted text is read as the characters that it spells.

A character may stand for itself or be escaped, by a letter or by its number, and the
reader of quoted texts takes it for that character either way and goes on with what
follows. So a text between quotes is read as what is spelled there, whatever stands
behind it. Every text is spelled by what is written for it, with no character below
U+0020, so it is read back as it was.
-/
import Gazetteer.Json.Scan
import Gazetteer.Json.Writer

namespace Gazetteer.Json

/-! ## Spellings -/

/-- The letters that may stand after a backslash, with the characters that they stand for. -/
def letters : List (Char × Char) := [('"', '"'), ('\\', '\\'), ('/', '/'), ('b', '\x08'),
  ('f', '\x0c'), ('n', '\n'), ('r', '\r'), ('t', '\t')]

/-- Four hexadecimal digits. -/
def IsUnit (digits : List Char) : Prop :=
  digits.length = 4 ∧ ∀ d ∈ digits, Address.V6.isHexDigit d = true

/-- A character that may stand for itself between quotes. -/
def IsPlain (c : Char) : Prop := c ≠ '"' ∧ c ≠ '\\' ∧ 32 ≤ c.toNat

/-- What may stand between quotes for some characters. -/
inductive Spells : (text : List Char) → List Char → Prop where
  | nil : Spells [] []
  | plain {c : Char} {text cs : List Char} (h : IsPlain c) (rest : Spells text cs) :
      Spells (c :: text) (c :: cs)
  | letter {letter : Char × Char} {text cs : List Char} (h : letter ∈ letters)
      (rest : Spells text cs) : Spells (letter.2 :: text) ('\\' :: letter.1 :: cs)
  | unit {digits text cs : List Char} (h : IsUnit digits)
      (lead : isLead (Address.V6.hexValue digits) = false)
      (trail : isTrail (Address.V6.hexValue digits) = false) (rest : Spells text cs) :
      Spells (Char.ofNat (Address.V6.hexValue digits) :: text) ('\\' :: 'u' :: (digits ++ cs))
  | pair {high low text cs : List Char} (hhigh : IsUnit high) (hlow : IsUnit low)
      (lead : isLead (Address.V6.hexValue high) = true)
      (trail : isTrail (Address.V6.hexValue low) = true) (rest : Spells text cs) :
      Spells (paired (Address.V6.hexValue high) (Address.V6.hexValue low) :: text)
        ('\\' :: 'u' :: (high ++ '\\' :: 'u' :: (low ++ cs)))

/-! ## Hexadecimal digits -/

theorem isHexDigit_hexDigit {n : Nat} (h : n < 16) :
    Address.V6.isHexDigit (hexDigit n) = true := by
  revert n
  decide

theorem hexDigitValue_hexDigit {n : Nat} (h : n < 16) :
    Address.V6.hexDigitValue (hexDigit n) = n := by
  revert n
  decide

/-! ## Reading -/

variable {c : Char} {cs rest units chars : List Char}

theorem hasFourBytes_of_four (a b c d : Char) (rest : List Char) :
    hasFourBytes (a :: b :: c :: d :: rest) = true := by
  have ha := a.utf8Size_pos
  have hb := b.utf8Size_pos
  have hc := c.utf8Size_pos
  have hd := d.utf8Size_pos
  simp [hasFourBytes]
  omega

/-- A letter after a backslash is the character that it stands for. -/
theorem quoted_letter {letter : Char} (hu : letter ≠ 'u') (h : escapedChar? letter = some c)
    (cs : List Char) :
    quoted .plain ('\\' :: letter :: cs) =
      (quoted .plain cs).map fun (text, rest) => (c :: text, rest) := by
  simp [quoted, hu, h]

theorem IsUnit.eq_four (h : IsUnit units) :
    ∃ d1 d2 d3 d4, units = [d1, d2, d3, d4] ∧ Address.V6.isHexDigit d1 = true ∧
      Address.V6.isHexDigit d2 = true ∧ Address.V6.isHexDigit d3 = true ∧
      Address.V6.isHexDigit d4 = true := by
  obtain ⟨hlength, hdigit⟩ := h
  match units, hlength with
  | [d1, d2, d3, d4], _ => exact ⟨d1, d2, d3, d4, rfl, by simpa using hdigit⟩

theorem IsUnit.hasFourBytes (h : IsUnit units) (rest : List Char) :
    hasFourBytes (units ++ rest) = true := by
  obtain ⟨d1, d2, d3, d4, rfl, -⟩ := h.eq_four
  exact hasFourBytes_of_four d1 d2 d3 d4 rest

theorem escapedChar?_letter {letter : Char × Char} (h : letter ∈ letters) :
    letter.1 ≠ 'u' ∧ escapedChar? letter.1 = some letter.2 := by
  revert letter
  decide

/-- Four hexadecimal digits are taken for the character of their number, -/
theorem quoted_unit {lead : Option Nat} (h : IsUnit units)
    (hunit : unit (Address.V6.hexValue units) lead = .ok (.inl c)) (rest : List Char) :
    quoted (.hex 4 0 lead) (units ++ rest) =
      (quoted .plain rest).map fun (text, rest) => (c :: text, rest) := by
  obtain ⟨d1, d2, d3, d4, rfl, h1, h2, h3, h4⟩ := h.eq_four
  simp only [Address.V6.hexValue, List.foldl_cons, List.foldl_nil, Nat.zero_mul,
    Nat.zero_add] at hunit
  simp [quoted, h1, h2, h3, h4, hunit]

/-- or for a leading surrogate. -/
theorem quoted_unit_lead {lead : Nat} (h : IsUnit units)
    (hunit : unit (Address.V6.hexValue units) none = .ok (.inr lead)) (rest : List Char) :
    quoted (.hex 4 0 none) (units ++ rest) = quoted (.afterLead lead) rest := by
  obtain ⟨d1, d2, d3, d4, rfl, h1, h2, h3, h4⟩ := h.eq_four
  simp only [Address.V6.hexValue, List.foldl_cons, List.foldl_nil, Nat.zero_mul,
    Nat.zero_add] at hunit
  simp [quoted, h1, h2, h3, h4, hunit]

/-- Between quotes the characters are read that are spelled there. -/
theorem Spells.quoted (h : Spells chars cs) (rest : List Char) :
    quoted .plain (cs ++ '"' :: rest) = .ok (chars, rest) := by
  induction h with
  | nil => simp [Json.quoted]
  | plain h _ ih => simp [Json.quoted, h.1, h.2.1, h.2.2, ih, Except.map]
  | letter h _ ih =>
    obtain ⟨hu, hchar⟩ := escapedChar?_letter h
    rw [List.cons_append, List.cons_append, quoted_letter hu hchar, ih]
    rfl
  | @unit units text cs h lead trail _ ih =>
    have hunit : Json.unit (Address.V6.hexValue units) none =
        .ok (.inl (Char.ofNat (Address.V6.hexValue units))) := by
      simp [Json.unit, lead, trail]
    have hfour := h.hasFourBytes (cs ++ '"' :: rest)
    simp only [List.cons_append, List.append_assoc]
    rw [Json.quoted, if_neg (by decide), if_pos rfl, Json.quoted, if_pos rfl, if_pos hfour,
      quoted_unit h hunit, ih]
    rfl
  | @pair high low text cs hhigh hlow lead trail _ ih =>
    have hlead : Json.unit (Address.V6.hexValue high) none =
        .ok (.inr (Address.V6.hexValue high)) := by
      have hnot : isTrail (Address.V6.hexValue high) = false := by
        simp only [isLead, isTrail, Bool.and_eq_true, decide_eq_true_eq] at lead ⊢
        simp
        omega
      simp [Json.unit, lead, hnot]
    have htrail : Json.unit (Address.V6.hexValue low) (some (Address.V6.hexValue high)) =
        .ok (.inl (paired (Address.V6.hexValue high) (Address.V6.hexValue low))) := by
      simp [Json.unit, trail]
    have hfour := hhigh.hasFourBytes ('\\' :: 'u' :: (low ++ (cs ++ '"' :: rest)))
    have hfour' := hlow.hasFourBytes (cs ++ '"' :: rest)
    simp only [List.cons_append, List.append_assoc]
    rw [Json.quoted, if_neg (by decide), if_pos rfl, Json.quoted, if_pos rfl, if_pos hfour,
      quoted_unit_lead hhigh hlead, Json.quoted, if_pos rfl, Json.quoted, if_pos rfl,
      if_pos hfour', quoted_unit hlow htrail, ih]
    rfl

/-- The text of a quoted text is read that spells it. -/
theorem Spells.text {s : String} (h : Spells s.toList cs) (rest : List Char) :
    Json.text (cs ++ '"' :: rest) = .ok (s, rest) := by
  simp [Json.text, h.quoted, Except.map]

/-! ## Writing -/

theorem spells_letter (letter : Char × Char) (hl : letter ∈ letters) (hc : c = letter.2)
    (h : Spells chars cs) : Spells (c :: chars) ('\\' :: letter.1 :: cs) :=
  hc ▸ .letter hl h

/-- A character below U+0020 is spelled by its number. -/
theorem spells_hex (hc : c.toNat < 32) (h : Spells chars cs) :
    Spells (c :: chars)
      ('\\' :: 'u' :: (['0', '0', hexDigit (c.toNat / 16), hexDigit (c.toNat % 16)] ++ cs)) := by
  have hhigh : c.toNat / 16 < 16 := by omega
  have hlow : c.toNat % 16 < 16 := by omega
  have hzero : Address.V6.isHexDigit '0' = true := by decide
  have hzeroValue : Address.V6.hexDigitValue '0' = 0 := by decide
  have hunit : IsUnit ['0', '0', hexDigit (c.toNat / 16), hexDigit (c.toNat % 16)] := by
    refine ⟨rfl, ?_⟩
    simp [hzero, isHexDigit_hexDigit hhigh, isHexDigit_hexDigit hlow]
  have hvalue : Address.V6.hexValue
      ['0', '0', hexDigit (c.toNat / 16), hexDigit (c.toNat % 16)] = c.toNat := by
    simp only [Address.V6.hexValue, List.foldl_cons, List.foldl_nil, hzeroValue,
      hexDigitValue_hexDigit hhigh, hexDigitValue_hexDigit hlow]
    omega
  have hlead : isLead c.toNat = false := by simp [isLead]; omega
  have htrail : isTrail c.toNat = false := by simp [isTrail]; omega
  have hspells := Spells.unit hunit (by rw [hvalue, hlead]) (by rw [hvalue, htrail]) h
  rwa [hvalue, Char.ofNat_toNat] at hspells

/-- Every character is spelled as it is written. -/
theorem spells_escape (c : Char) (h : Spells chars cs) :
    Spells (c :: chars) (escape c ++ cs) := by
  have hchar : ∀ n, c.toNat = n → c = Char.ofNat n := by
    rintro n rfl
    exact (Char.ofNat_toNat c).symm
  unfold escape
  split
  · next hc => exact spells_letter ('"', '"') (by decide) hc h
  split
  · next hc => exact spells_letter ('\\', '\\') (by decide) hc h
  split
  · next hc => exact spells_letter ('b', '\x08') (by decide) (hchar _ hc) h
  split
  · next hc => exact spells_letter ('t', '\t') (by decide) (hchar _ hc) h
  split
  · next hc => exact spells_letter ('n', '\n') (by decide) (hchar _ hc) h
  split
  · next hc => exact spells_letter ('f', '\x0c') (by decide) (hchar _ hc) h
  split
  · next hc => exact spells_letter ('r', '\r') (by decide) (hchar _ hc) h
  split
  · next hc => exact spells_hex hc h
  · next hquote hslash _ _ _ _ _ hc => exact .plain ⟨hquote, hslash, by omega⟩ h

/-- So is every text. -/
theorem spells_written (chars : List Char) : Spells chars (chars.flatMap escape) := by
  induction chars with
  | nil => exact .nil
  | cons c chars ih => exact spells_escape c ih

/-- A text between quotes is read as that text. -/
theorem text_quote (s : String) (rest : List Char) :
    ∃ inside, quote s ++ rest = '"' :: inside ∧ text inside = .ok (s, rest) :=
  ⟨s.toList.flatMap escape ++ '"' :: rest, by simp [quote], (spells_written s.toList).text rest⟩

end Gazetteer.Json
