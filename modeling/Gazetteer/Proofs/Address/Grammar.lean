/-
Gazetteer.Proofs.Address.Grammar — which texts are dotted addresses and blocks.

By the grammar an octet is one to three ASCII digits whose number is at most 255, a
dotted address is four octets joined by dots, and a block is a dotted address, a
slash and one or two ASCII digits whose number is at most 32. The digit patterns
know more digits than that: where they leave a digit open they take one of any
script, as though it were a nine. So a text is a dotted address exactly if it
follows the grammar once every digit of another script has become a nine, and it is
outside the grammar itself exactly if there are such digits in it. An octet that
holds one is no numeral; it weighs nothing, and the address is asked for by no bits.
-/
import Gazetteer.Proofs.Address.Dotted

namespace Gazetteer.Text

variable {cs : List Char} {c d : Char}

/-- Between one and `width` ASCII digits that denote a number of at most `most`. -/
structure IsNumeral (width most : Nat) (cs : List Char) : Prop where
  nonempty : cs ≠ []
  short : cs.length ≤ width
  digits : ∀ c ∈ cs, c.isDigit = true
  value : Nat.ofDigitChars 10 cs 0 ≤ most

theorem isNumeral_iff {width most : Nat} :
    IsNumeral width most cs ↔ cs.length ≤ width ∧ ∃ n ≤ most, natural? cs = some n := by
  constructor
  · rintro ⟨hne, hshort, hdigits, hle⟩
    exact ⟨hshort, _, hle, natural?_eq_some_iff.2 ⟨hne, hdigits, rfl⟩⟩
  · rintro ⟨hshort, n, hle, hn⟩
    obtain ⟨hne, hdigits, rfl⟩ := natural?_eq_some_iff.1 hn
    exact ⟨hne, hshort, hdigits, hle⟩

/-! ## Digits of other scripts -/

/-- A decimal digit that is not an ASCII one. -/
def isForeignDigit (c : Char) : Bool := isDecimalDigit c && !c.isDigit

/-- A digit of another script becomes a nine. -/
def asNine (c : Char) : Char := if isForeignDigit c then '9' else c

theorem not_isForeignDigit_of_isDigit (h : c.isDigit = true) : isForeignDigit c = false := by
  simp [isForeignDigit, h]

theorem asNine_of_not_foreign (h : isForeignDigit c = false) : asNine c = c := by
  simp [asNine, h]

theorem map_asNine (h : ∀ c ∈ cs, isForeignDigit c = false) : cs.map asNine = cs := by
  induction cs with
  | nil => rfl
  | cons c cs ih =>
    rw [List.map_cons, asNine_of_not_foreign (h c List.mem_cons_self),
      ih fun d hd => h d (List.mem_cons_of_mem _ hd)]

/-- What becomes an ASCII digit are the decimal digits. -/
theorem isDigit_asNine (c : Char) : (asNine c).isDigit = isDecimalDigit c := by
  cases hf : isForeignDigit c with
  | true =>
    have hdecimal : isDecimalDigit c = true := by
      rw [isForeignDigit, Bool.and_eq_true] at hf
      exact hf.1
    simp [asNine, hf, hdecimal]
  | false =>
    rw [asNine_of_not_foreign hf]
    cases hd : c.isDigit with
    | true => exact (isDecimalDigit_of_isDigit hd).symm
    | false => simpa [isForeignDigit, hd] using hf.symm

theorem isDecimalDigit_asNine (c : Char) : isDecimalDigit (asNine c) = isDecimalDigit c := by
  cases hd : isDecimalDigit c with
  | true => exact isDecimalDigit_of_isDigit ((isDigit_asNine c).trans hd)
  | false => rw [asNine_of_not_foreign (by simp [isForeignDigit, hd]), hd]

/-- Only a nine may have been another character. -/
theorem asNine_eq_iff (hd : isForeignDigit d = false) (hnine : d ≠ '9') : asNine c = d ↔ c = d := by
  cases hf : isForeignDigit c with
  | true =>
    have hc : asNine c = '9' := by simp [asNine, hf]
    rw [hc]
    refine iff_of_false hnine.symm ?_
    rintro rfl
    rw [hf] at hd
    cases hd
  | false => rw [asNine_of_not_foreign hf]

/-- Where a digit is not left open a nine is past the bound, and so is what it stands for. -/
theorem asNine_between_iff (c : Char) {top : Char} (h : top.toNat < 57) :
    ('0' ≤ asNine c ∧ asNine c ≤ top) ↔ ('0' ≤ c ∧ c ≤ top) := by
  have hle (d e : Char) : d ≤ e ↔ d.toNat ≤ e.toNat := UInt32.le_iff_toNat_le
  cases hf : isForeignDigit c with
  | true =>
    have hc : asNine c = '9' := by simp [asNine, hf]
    have hdigit : ¬ (48 ≤ c.toNat ∧ c.toNat ≤ 57) := by
      rw [← isDigit_iff]
      simpa using (Bool.and_eq_true_iff.1 hf).2
    simp only [hc, hle, Char.reduceToNat]
    omega
  | false => rw [asNine_of_not_foreign hf]

end Gazetteer.Text

namespace Gazetteer.Address

open Gazetteer.Text

variable {cs part : List Char} {c : Char} {s : String}

/-! ## Octets -/

namespace V4

theorem isOctet_map_asNine (cs : List Char) : isOctet (cs.map asNine) = isOctet cs := by
  match cs with
  | [] => rfl
  | [c] => simp only [List.map_cons, List.map_nil, isOctet, isDecimalDigit_asNine]
  | [b, c] => simp only [List.map_cons, List.map_nil, isOctet, isDecimalDigit_asNine]
  | [a, b, c] =>
    have hzero : asNine a = '0' ↔ a = '0' := asNine_eq_iff (by decide) (by decide)
    have hone : asNine a = '1' ↔ a = '1' := asNine_eq_iff (by decide) (by decide)
    have htwo : asNine a = '2' ↔ a = '2' := asNine_eq_iff (by decide) (by decide)
    have hfive : asNine b = '5' ↔ b = '5' := asNine_eq_iff (by decide) (by decide)
    have htens := asNine_between_iff b (show '4'.toNat < 57 by decide)
    have hones := asNine_between_iff c (show '5'.toNat < 57 by decide)
    rw [Bool.eq_iff_iff]
    simp only [List.map_cons, List.map_nil, isOctet, isDecimalDigit_asNine, Bool.or_eq_true,
      Bool.and_eq_true, beq_iff_eq, decide_eq_true_eq, and_assoc, hzero, hone, htwo, hfive, hones]
    rw [← @and_assoc ('0' ≤ asNine b), htens, and_assoc]
  | _ :: _ :: _ :: _ :: _ => rfl

/-- An octet has decimal digits only. -/
theorem isDecimalDigit_of_isOctet (h : isOctet cs = true) (hm : c ∈ cs) :
    isDecimalDigit c = true := by
  have hin {d top : Char} (htop : top.toNat ≤ 57) (hd : '0' ≤ d ∧ d ≤ top) :
      isDecimalDigit d = true := by
    have hle (d e : Char) : d ≤ e ↔ d.toNat ≤ e.toNat := UInt32.le_iff_toNat_le
    simp only [hle, Char.reduceToNat] at hd
    exact isDecimalDigit_of_isDigit (isDigit_iff.2 ⟨hd.1, Nat.le_trans hd.2 htop⟩)
  match cs, h, hm with
  | [x], h, hm =>
    obtain rfl := List.mem_singleton.1 hm
    exact h
  | [x, y], h, hm =>
    obtain ⟨hx, hy⟩ := Bool.and_eq_true_iff.1 h
    simp only [List.mem_cons, List.not_mem_nil, or_false] at hm
    obtain rfl | rfl := hm
    · exact hx
    · exact hy
  | [x, y, z], h, hm =>
    have hzero : isDecimalDigit '0' = true := by decide
    have hone : isDecimalDigit '1' = true := by decide
    have htwo : isDecimalDigit '2' = true := by decide
    have hfive : isDecimalDigit '5' = true := by decide
    simp only [isOctet, Bool.or_eq_true, Bool.and_eq_true, beq_iff_eq, decide_eq_true_eq] at h
    simp only [List.mem_cons, List.not_mem_nil, or_false] at hm
    grind

/-- The digit patterns of an octet fit the numerals of at most three digits whose number is at most
255, where a digit of another script counts as a nine. -/
theorem isOctet_iff_isNumeral : isOctet cs = true ↔ IsNumeral 3 255 (cs.map asNine) := by
  constructor
  · intro h
    have hascii : IsAscii (cs.map asNine) := by
      intro c hc
      obtain ⟨d, hd, rfl⟩ := List.mem_map.1 hc
      have hdigit := isDigit_iff.1 ((isDigit_asNine d).trans (isDecimalDigit_of_isOctet h hd))
      omega
    exact isNumeral_iff.2 ((isOctet_iff hascii).1 ((isOctet_map_asNine cs).trans h))
  · rintro ⟨hne, hshort, hdigits, hle⟩
    exact (isOctet_map_asNine cs).symm.trans ((isOctet_iff_le hne hshort hdigits).2 hle)

/-! ## Dotted addresses -/

/-- Four texts that are octets joined by dots. -/
def IsJoined (octet : List Char → Prop) (cs : List Char) : Prop :=
  ∃ p q r t, octet p ∧ octet q ∧ octet r ∧ octet t ∧
    cs = p ++ '.' :: (q ++ '.' :: (r ++ '.' :: t))

/-- A dotted address by the grammar. -/
def IsQuad (cs : List Char) : Prop := IsJoined (IsNumeral 3 255) cs

/-- Octets joined by dots come apart again. -/
theorem splitOn_joined {p q r t : List Char} (hp : isOctet p = true) (hq : isOctet q = true)
    (hr : isOctet r = true) (ht : isOctet t = true) :
    (p ++ '.' :: (q ++ '.' :: (r ++ '.' :: t))).splitOn '.' = [p, q, r, t] := by
  have hdot {part : List Char} (h : isOctet part = true) : '.' ∉ part := by
    intro hm
    exact absurd (isDecimalDigit_of_isOctet h hm) (by decide)
  rw [List.splitOn_append_cons_self_of_not_mem (hdot hp),
    List.splitOn_append_cons_self_of_not_mem (hdot hq),
    List.splitOn_append_cons_self_of_not_mem (hdot hr), List.splitOn_eq_singleton (hdot ht)]

theorem isDotted_iff : isDotted cs = true ↔ IsJoined (isOctet · = true) cs := by
  simp only [isDotted, Bool.and_eq_true, beq_iff_eq, List.all_eq_true]
  constructor
  · rintro ⟨hfour, hall⟩
    obtain ⟨p, q, r, t, hparts⟩ := exists_four hfour
    rw [hparts] at hall
    have hwhole : ['.'].intercalate (cs.splitOn '.') = cs := List.intercalate_splitOn '.'
    refine ⟨p, q, r, t, hall p (by simp), hall q (by simp), hall r (by simp), hall t (by simp), ?_⟩
    rw [← hwhole, hparts]
    simp [List.intercalate_cons_cons]
  · rintro ⟨p, q, r, t, hp, hq, hr, ht, rfl⟩
    rw [splitOn_joined hp hq hr ht]
    refine ⟨rfl, ?_⟩
    simp [hp, hq, hr, ht]

theorem isJoined_map_iff {octet : List Char → Prop} {f : Char → Char}
    (hf : ∀ c, f c = '.' ↔ c = '.') :
    IsJoined octet (cs.map f) ↔ IsJoined (fun part => octet (part.map f)) cs := by
  have hback {x y : List Char} {rest : List Char} (h : rest.map f = x ++ '.' :: y) :
      ∃ a b, rest = a ++ '.' :: b ∧ a.map f = x ∧ b.map f = y := by
    obtain ⟨a, tail, rfl, ha, htail⟩ := List.map_eq_append_iff.1 h
    obtain ⟨d, b, rfl, hd, hb⟩ := List.map_eq_cons_iff.1 htail
    obtain rfl := (hf d).1 hd
    exact ⟨a, b, rfl, ha, hb⟩
  constructor
  · rintro ⟨p, q, r, t, hp, hq, hr, ht, heq⟩
    obtain ⟨a, afterFirst, rfl, rfl, hsecond⟩ := hback heq
    obtain ⟨b, afterSecond, rfl, rfl, hthird⟩ := hback hsecond
    obtain ⟨c, d, rfl, rfl, rfl⟩ := hback hthird
    exact ⟨a, b, c, d, hp, hq, hr, ht, rfl⟩
  · rintro ⟨p, q, r, t, hp, hq, hr, ht, rfl⟩
    have hdot := (hf '.').2 rfl
    exact ⟨_, _, _, _, hp, hq, hr, ht, by simp [hdot]⟩

/-- A text is a dotted address exactly if it is one by the grammar, where a digit of another script
counts as a nine. -/
theorem isDotted_iff_isQuad : isDotted cs = true ↔ IsQuad (cs.map asNine) := by
  rw [IsQuad, isJoined_map_iff fun c => asNine_eq_iff (by decide) (by decide), isDotted_iff]
  simp only [isOctet_iff_isNumeral]

/-- What holds of dots and of whatever stands in an octet holds of every character. -/
theorem IsJoined.forall_mem {octet : List Char → Prop} {good : Char → Prop}
    (h : IsJoined octet cs) (hdot : good '.')
    (hpart : ∀ part, octet part → ∀ c ∈ part, good c) : ∀ c ∈ cs, good c := by
  obtain ⟨p, q, r, t, hp, hq, hr, ht, rfl⟩ := h
  intro c hm
  simp only [List.mem_append, List.mem_cons] at hm
  obtain hm | rfl | hm | rfl | hm | rfl | hm := hm
  · exact hpart p hp c hm
  · exact hdot
  · exact hpart q hq c hm
  · exact hdot
  · exact hpart r hr c hm
  · exact hdot
  · exact hpart t ht c hm

/-- A dotted address has decimal digits and dots only. -/
theorem mem_of_isDotted (h : isDotted cs = true) :
    ∀ c ∈ cs, isDecimalDigit c = true ∨ c = '.' :=
  (isDotted_iff.1 h).forall_mem (.inr rfl) fun _ hp _ hm => .inl (isDecimalDigit_of_isOctet hp hm)

theorem slash_not_mem_of_isDotted (h : isDotted cs = true) : '/' ∉ cs := by
  intro hm
  exact absurd (mem_of_isDotted h '/' hm) (by decide)

/-- By the grammar there are no digits of other scripts. -/
theorem IsQuad.not_foreign (h : IsQuad cs) : ∀ c ∈ cs, isForeignDigit c = false :=
  h.forall_mem (by decide) fun _ hp c hm => not_isForeignDigit_of_isDigit (hp.digits c hm)

/-- The grammar lets in the dotted addresses without digits of other scripts. -/
theorem isQuad_iff :
    IsQuad cs ↔ isDotted cs = true ∧ ∀ c ∈ cs, isForeignDigit c = false := by
  rw [isDotted_iff_isQuad]
  constructor
  · intro h
    exact ⟨(map_asNine h.not_foreign).symm ▸ h, h.not_foreign⟩
  · rintro ⟨h, hnone⟩
    rwa [map_asNine hnone] at h

instance : Decidable (IsQuad cs) :=
  decidable_of_iff (isDotted cs = true ∧ cs.all (!isForeignDigit ·) = true) <| by
    simp only [isQuad_iff, List.all_eq_true, Bool.not_eq_true']

/-- An octet of an address outside the grammar is no numeral. -/
theorem exists_unread_part (h : isDotted cs = true) (hquad : ¬ IsQuad cs) :
    ∃ part ∈ cs.splitOn '.', natural? part = none := by
  have hnumeral {part : List Char} (hpart : isOctet part = true) (hread : natural? part ≠ none) :
      IsNumeral 3 255 part := by
    obtain ⟨n, hn⟩ := Option.ne_none_iff_exists'.1 hread
    have hdigits := (natural?_eq_some_iff.1 hn).2.1
    have hnumeral := isOctet_iff_isNumeral.1 hpart
    rwa [map_asNine fun c hm => not_isForeignDigit_of_isDigit (hdigits c hm)] at hnumeral
  obtain ⟨p, q, r, t, hp, hq, hr, ht, rfl⟩ := isDotted_iff.1 h
  rw [splitOn_joined hp hq hr ht]
  refine Classical.byContradiction fun hnone => ?_
  have hread (part : List Char) (hm : part ∈ [p, q, r, t]) : natural? part ≠ none :=
    fun hn => hnone ⟨part, hm, hn⟩
  exact hquad ⟨p, q, r, t, hnumeral hp (hread p (by simp)), hnumeral hq (hread q (by simp)),
    hnumeral hr (hread r (by simp)), hnumeral ht (hread t (by simp)), rfl⟩

/-- An address has no bits to ask for if one of its octets is no numeral. -/
theorem ofDotted?_eq_none (h : isDotted cs = true) (hm : part ∈ cs.splitOn '.')
    (hn : natural? part = none) : ofDotted? cs = none := by
  have hfour : (cs.splitOn '.').length = 4 := by
    obtain ⟨hfour, -⟩ := Bool.and_eq_true_iff.1 h
    exact beq_iff_eq.1 hfour
  have hless : ((cs.splitOn '.').filterMap fun part => (natural? part).filter (· ≤ 255)).length <
      (cs.splitOn '.').length :=
    List.length_filterMap_lt_length_iff_exists.2 ⟨part, hm, by rw [hn]; rfl⟩
  unfold ofDotted?
  exact if_neg (by omega)

end V4

/-! ## Texts -/

theorem kind_eq_v4_iff_isQuad : kind s = .v4 ↔ V4.IsQuad (s.toList.map asNine) := by
  rw [kind_eq_v4_iff, ← V4.isDotted_iff_isQuad]
  exact ⟨And.right, fun h => ⟨V4.slash_not_mem_of_isDotted h, h⟩⟩

theorem exists_maskLength?_iff {mask : List Char} :
    (∃ length, maskLength? mask = some length) ↔ IsNumeral 2 32 mask := by
  rw [isNumeral_iff]
  unfold maskLength?
  simp only [Option.ite_none_right_eq_some, Option.filter_eq_some_iff, decide_eq_true_eq]
  constructor
  · rintro ⟨n, hshort, hn, hle⟩
    exact ⟨hshort, n, hle, hn⟩
  · rintro ⟨hshort, n, hle, hn⟩
    exact ⟨n, hshort, hn, hle⟩

/-- An address text, a slash and a mask length. -/
def IsMasked (dotted : List Char → Prop) (cs : List Char) : Prop :=
  ∃ address mask, dotted address ∧ IsNumeral 2 32 mask ∧ cs = address ++ '/' :: mask

theorem kind_eq_block_iff_isMasked :
    kind s = .block ↔ IsMasked (fun address => V4.IsQuad (address.map asNine)) s.toList := by
  simp only [IsMasked, ← V4.isDotted_iff_isQuad]
  rw [kind_eq_block_iff]
  constructor
  · rintro ⟨address, mask, length, hcut, hlength, hdotted⟩
    exact ⟨address, mask, hdotted, exists_maskLength?_iff.1 ⟨length, hlength⟩, (cut_eq_some hcut).1⟩
  · rintro ⟨address, mask, hdotted, hmask, heq⟩
    obtain ⟨length, hlength⟩ := exists_maskLength?_iff.2 hmask
    refine ⟨address, mask, length, ?_, hlength, hdotted⟩
    rw [heq, cut_append (V4.slash_not_mem_of_isDotted hdotted)]

/-- By the grammar there are no digits of other scripts in a block either. -/
theorem isMasked_isQuad_iff :
    IsMasked V4.IsQuad cs ↔ IsMasked (fun address => V4.IsQuad (address.map asNine)) cs ∧
      ∀ c ∈ cs, isForeignDigit c = false := by
  constructor
  · rintro ⟨address, mask, hquad, hmask, rfl⟩
    have hnines : V4.IsQuad (address.map asNine) := by rwa [map_asNine hquad.not_foreign]
    refine ⟨⟨address, mask, hnines, hmask, rfl⟩, ?_⟩
    intro c hm
    obtain hm | hm := List.mem_append.1 hm
    · exact hquad.not_foreign c hm
    · obtain rfl | hm := List.mem_cons.1 hm
      · decide
      · exact not_isForeignDigit_of_isDigit (hmask.digits c hm)
  · rintro ⟨⟨address, mask, hquad, hmask, rfl⟩, hnone⟩
    rw [map_asNine fun c hm => hnone c (List.mem_append_left _ hm)] at hquad
    exact ⟨address, mask, hquad, hmask, rfl⟩

/-- Texts are taken for what the grammar says as long as what is accepted has no digits of other
scripts in it. -/
theorem follows_grammar_iff :
    ((kind s = .v4 ↔ V4.IsQuad s.toList) ∧ (kind s = .block ↔ IsMasked V4.IsQuad s.toList)) ↔
      (kind s = .v4 ∨ kind s = .block → ∀ c ∈ s.toList, isForeignDigit c = false) := by
  have hquad : V4.IsQuad s.toList ↔ kind s = .v4 ∧ ∀ c ∈ s.toList, isForeignDigit c = false := by
    rw [V4.isQuad_iff, V4.isDotted_iff_isQuad, ← kind_eq_v4_iff_isQuad]
  have hmasked : IsMasked V4.IsQuad s.toList ↔
      kind s = .block ∧ ∀ c ∈ s.toList, isForeignDigit c = false := by
    rw [isMasked_isQuad_iff, ← kind_eq_block_iff_isMasked]
  rw [hquad, hmasked]
  constructor
  · rintro ⟨hv4, hblock⟩ hk
    exact hk.elim (fun h => (hv4.1 h).2) fun h => (hblock.1 h).2
  · intro h
    exact ⟨⟨fun hk => ⟨hk, h (.inl hk)⟩, And.left⟩, ⟨fun hk => ⟨hk, h (.inr hk)⟩, And.left⟩⟩

/-- An accepted address outside the grammar has an octet that weighs nothing, and no bits. -/
theorem unread_of_not_isQuad (hk : kind s = .v4) (h : ¬ V4.IsQuad s.toList) :
    (∃ part ∈ V4.parts s, natural? part = none ∧ V4.octetValue part = 0) ∧ numeric? s = none := by
  have hdotted := (kind_eq_v4_iff.1 hk).2
  obtain ⟨part, hm, hn⟩ := V4.exists_unread_part hdotted h
  refine ⟨⟨part, hm, hn, ?_⟩, ?_⟩
  · rw [V4.octetValue, hn]
    rfl
  · rw [numeric?_of_v4 hk, V4.ofDotted?_eq_none hdotted hm hn, Option.map_none]

/-- A text is taken for a dotted address or a block exactly if it is one by the grammar, where a digit
of another script counts as a nine. What is accepted is outside the grammar exactly if it has such
digits in it; then an octet of it is no numeral and weighs nothing, and it has no bits to ask for. -/
theorem dotted_grammar (s : String) :
    (kind s = .v4 ↔ V4.IsQuad (s.toList.map asNine)) ∧
      (kind s = .block ↔ IsMasked (fun address => V4.IsQuad (address.map asNine)) s.toList) ∧
      (((kind s = .v4 ↔ V4.IsQuad s.toList) ∧ (kind s = .block ↔ IsMasked V4.IsQuad s.toList)) ↔
        (kind s = .v4 ∨ kind s = .block → ∀ c ∈ s.toList, isForeignDigit c = false)) ∧
      (kind s = .v4 → ¬ V4.IsQuad s.toList →
        (∃ part ∈ V4.parts s, natural? part = none ∧ V4.octetValue part = 0) ∧
          numeric? s = none) :=
  ⟨kind_eq_v4_iff_isQuad, kind_eq_block_iff_isMasked, follows_grammar_iff, unread_of_not_isQuad⟩

/-- Zeros in front and the greatest mask are in the grammar; an Arabic four is not. -/
theorem dotted_grammar_padded :
    (kind "010.001.0.255" = .v4 ↔ V4.IsQuad "010.001.0.255".toList) ∧
      (kind "010.001.0.255/32" = .block ↔ IsMasked V4.IsQuad "010.001.0.255/32".toList) ∧
      (∃ part ∈ V4.parts "1.2.3.\u0664", natural? part = none ∧ V4.octetValue part = 0) ∧
      numeric? "1.2.3.\u0664" = none := by
  have hplain {cs : List Char} (h : cs.all (!isForeignDigit ·) = true) :
      ∀ c ∈ cs, isForeignDigit c = false := by
    simpa only [List.all_eq_true, Bool.not_eq_true'] using h
  obtain ⟨-, -, hquad, -⟩ := dotted_grammar "010.001.0.255"
  obtain ⟨-, -, hmasked, -⟩ := dotted_grammar "010.001.0.255/32"
  obtain ⟨-, -, -, hunread⟩ := dotted_grammar "1.2.3.\u0664"
  exact ⟨(hquad.2 fun _ => hplain (by decide +kernel)).1,
    (hmasked.2 fun _ => hplain (by decide +kernel)).2,
    hunread (by decide +kernel) (by decide +kernel)⟩

/-- With an Arabic four in it a text is outside the grammar, and yet it is taken for an address, or
for a block. -/
theorem foreign_digit_accepted :
    kind "1.2.3.\u0664" = .v4 ∧ ¬ V4.IsQuad "1.2.3.\u0664".toList ∧
      kind "1.2.3.\u0664/24" = .block ∧ ¬ IsMasked V4.IsQuad "1.2.3.\u0664/24".toList := by
  refine ⟨by decide +kernel, by decide +kernel, by decide +kernel, ?_⟩
  intro h
  have hplain := (isMasked_isQuad_iff.1 h).2 '\u0664' (by decide +kernel)
  exact absurd hplain (by decide +kernel)

end Gazetteer.Address
