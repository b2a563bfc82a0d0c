/-
Gazetteer.Proofs.Address.Dotted — what a dotted address means.

In ASCII an octet is one to three digits whose number is at most 255, for that is
what its digit patterns say. So a dotted address in ASCII has four octets, none of
which is lost or cut on the way to its number, and it is the address that a
database keyed by address bits is asked for. Its number tells its octets apart,
zeros in front aside, and every number is that of the address it is written as.
-/
import Gazetteer.Address.Kind
import Gazetteer.Proofs.Address.Area
import Gazetteer.Proofs.Text.Numeral

namespace Gazetteer.Address

open Gazetteer.Text

variable {cs part : List Char} {c : Char} {s : String}

/-- Every character is an ASCII one. -/
def IsAscii (cs : List Char) : Prop := ∀ c ∈ cs, c.toNat < 128

instance (cs : List Char) : Decidable (IsAscii cs) :=
  List.decidableBAll (fun c : Char => c.toNat < 128) cs

/-! ## Octets -/

/-- The only decimal digits among the ASCII characters are the ASCII ones. -/
theorem isDecimalDigit_eq (h : c.toNat < 128) : isDecimalDigit c = c.isDigit := by
  cases hd : c.isDigit with
  | true => exact isDecimalDigit_of_isDigit hd
  | false =>
    rw [Bool.eq_false_iff]
    intro hdecimal
    obtain ⟨start, hm, hin⟩ := List.any_eq_true.1 hdecimal
    have hzeros : ∀ start ∈ digitZeros, start = 48 ∨ 128 ≤ start := by decide
    obtain ⟨hl, hh⟩ : start ≤ c.toNat ∧ c.toNat < start + 10 := by simpa using hin
    have hdigit : c.isDigit = true := isDigit_iff.2 (by have := hzeros start hm; omega)
    rw [hd] at hdigit
    cases hdigit

namespace V4

/-- The digit patterns of three characters by their codes. -/
theorem isOctet_three_iff {a b c : Char} (hb : isDecimalDigit b = b.isDigit)
    (hc : isDecimalDigit c = c.isDigit) :
    isOctet [a, b, c] = true ↔
      ((a.toNat = 48 ∨ a.toNat = 49) ∧ (48 ≤ b.toNat ∧ b.toNat ≤ 57) ∧
          (48 ≤ c.toNat ∧ c.toNat ≤ 57)) ∨
        (a.toNat = 50 ∧ (48 ≤ b.toNat ∧ b.toNat ≤ 52) ∧ (48 ≤ c.toNat ∧ c.toNat ≤ 57)) ∨
        (a.toNat = 50 ∧ b.toNat = 53 ∧ (48 ≤ c.toNat ∧ c.toNat ≤ 53)) := by
  have hcode (d e : Char) : d = e ↔ d.toNat = e.toNat := Char.toNat_inj.symm
  have hle (d e : Char) : d ≤ e ↔ d.toNat ≤ e.toNat := UInt32.le_iff_toNat_le
  simp only [isOctet, hb, hc, Bool.and_eq_true, Bool.or_eq_true, beq_iff_eq, decide_eq_true_eq,
    isDigit_iff, hcode, hle, Char.reduceToNat, and_assoc, or_assoc]

/-- The digit patterns of an octet fit one to three digits, all of them ASCII if the text is. -/
theorem digits_of_isOctet (ha : IsAscii cs) (h : isOctet cs = true) :
    cs ≠ [] ∧ cs.length ≤ 3 ∧ ∀ c ∈ cs, c.isDigit = true := by
  have hdigit (c : Char) (hm : c ∈ cs) : isDecimalDigit c = c.isDigit := isDecimalDigit_eq (ha c hm)
  match cs, hdigit, h with
  | [c], hdigit, h =>
    rw [isOctet, hdigit c (by simp)] at h
    simpa using h
  | [b, c], hdigit, h =>
    rw [isOctet, hdigit b (by simp), hdigit c (by simp)] at h
    simpa using h
  | [a, b, c], hdigit, h =>
    rw [isOctet_three_iff (hdigit b (by simp)) (hdigit c (by simp))] at h
    simp only [List.mem_cons, List.not_mem_nil, or_false, forall_eq_or_imp, forall_eq,
      isDigit_iff]
    refine ⟨by simp, by simp, ?_⟩
    omega

/-- Of one to three ASCII digits they fit those whose number is at most 255. -/
theorem isOctet_iff_le (hne : cs ≠ []) (hlength : cs.length ≤ 3)
    (hdigits : ∀ c ∈ cs, c.isDigit = true) :
    isOctet cs = true ↔ Nat.ofDigitChars 10 cs 0 ≤ 255 := by
  have hdecimal (c : Char) (hm : c ∈ cs) := isDecimalDigit_of_isDigit (hdigits c hm)
  have hcode (c : Char) (hm : c ∈ cs) := isDigit_iff.1 (hdigits c hm)
  match cs, hne, hdecimal, hcode with
  | [c], _, hdecimal, hcode =>
    have hc := hcode c (by simp)
    simp only [isOctet, hdecimal c (by simp), Nat.ofDigitChars_cons, Nat.ofDigitChars_nil,
      Char.reduceToNat, true_iff]
    omega
  | [b, c], _, hdecimal, hcode =>
    have hb := hcode b (by simp)
    have hc := hcode c (by simp)
    simp only [isOctet, hdecimal b (by simp), hdecimal c (by simp), Nat.ofDigitChars_cons,
      Nat.ofDigitChars_nil, Char.reduceToNat, Bool.and_self, true_iff]
    omega
  | [a, b, c], _, hdecimal, hcode =>
    have ha := hcode a (by simp)
    have hb := hcode b (by simp)
    have hc := hcode c (by simp)
    rw [isOctet_three_iff (by rw [hdecimal b (by simp), hdigits b (by simp)])
      (by rw [hdecimal c (by simp), hdigits c (by simp)])]
    simp only [Nat.ofDigitChars_cons, Nat.ofDigitChars_nil, Char.reduceToNat]
    omega
  | _ :: _ :: _ :: _ :: _, _, _, _ =>
    simp only [List.length_cons] at hlength
    omega

/-- In ASCII the digit patterns of an octet fit the numerals of at most three digits whose number is
at most 255. -/
theorem isOctet_iff (ha : IsAscii cs) :
    isOctet cs = true ↔ cs.length ≤ 3 ∧ ∃ n ≤ 255, natural? cs = some n := by
  constructor
  · intro h
    obtain ⟨hne, hlength, hdigits⟩ := digits_of_isOctet ha h
    exact ⟨hlength, _, (isOctet_iff_le hne hlength hdigits).1 h,
      natural?_eq_some_iff.2 ⟨hne, hdigits, rfl⟩⟩
  · rintro ⟨hlength, n, hle, hn⟩
    obtain ⟨hne, hdigits, rfl⟩ := natural?_eq_some_iff.1 hn
    exact (isOctet_iff_le hne hlength hdigits).2 hle

/-! ## Dotted addresses -/

/-- What four octets weigh together. -/
def weight (a b c d : Nat) : Nat := a * 0x1000000 + b * 0x10000 + c * 0x100 + d

theorem weigh_four {a b c d : Nat} (ha : a ≤ 255) (hb : b ≤ 255) (hc : c ≤ 255) (hd : d ≤ 255) :
    weigh [a, b, c, d] = weight a b c d := by
  simp only [weigh, weight, List.foldl_cons, List.foldl_nil]
  omega

/-- The texts between the dots of an address. -/
def parts (s : String) : List (List Char) := s.toList.splitOn '.'

/-- The parts of an address are numerals of these octets, none of them greater than 255. -/
structure HasOctets (s : String) (a b c d : Nat) : Prop where
  numbers : (parts s).map natural? = [some a, some b, some c, some d]
  first : a ≤ 255
  second : b ≤ 255
  third : c ≤ 255
  fourth : d ≤ 255

theorem mem_intercalate {parts : List (List Char)} (sep : List Char) (hm : part ∈ parts)
    (hc : c ∈ part) : c ∈ sep.intercalate parts := by
  induction parts with
  | nil => cases hm
  | cons first rest ih =>
    cases rest with
    | nil =>
      obtain rfl := List.mem_singleton.1 hm
      rwa [List.intercalate_singleton]
    | cons second rest =>
      rw [List.intercalate_cons_cons, List.mem_append]
      obtain rfl | hm := List.mem_cons.1 hm
      · exact .inl (List.mem_append_left _ hc)
      · exact .inr (ih hm)

theorem isAscii_part (ha : IsAscii cs) (hm : part ∈ cs.splitOn '.') : IsAscii part := by
  intro c hc
  have hwhole : ['.'].intercalate (cs.splitOn '.') = cs := List.intercalate_splitOn '.'
  refine ha c ?_
  rw [← hwhole]
  exact mem_intercalate _ hm hc

theorem exists_four {α : Type} {parts : List α} (h : parts.length = 4) :
    ∃ p q r t, parts = [p, q, r, t] := by
  obtain ⟨p, parts, rfl⟩ := List.exists_cons_of_length_eq_add_one h
  obtain ⟨q, parts, rfl⟩ := List.exists_cons_of_length_eq_add_one (Nat.succ.inj h)
  obtain ⟨r, parts, rfl⟩ := List.exists_cons_of_length_eq_add_one (Nat.succ.inj (Nat.succ.inj h))
  obtain ⟨t, rfl⟩ := List.length_eq_one_iff.1 (Nat.succ.inj (Nat.succ.inj (Nat.succ.inj h)))
  exact ⟨p, q, r, t, rfl⟩

/-- A dotted text in ASCII has four octets. -/
theorem exists_octets (ha : IsAscii s.toList) (h : isDotted s.toList = true) :
    ∃ a b c d, HasOctets s a b c d := by
  obtain ⟨hfour, hall⟩ := Bool.and_eq_true_iff.1 h
  have hoctet (part : List Char) (hm : part ∈ parts s) : ∃ n ≤ 255, natural? part = some n :=
    ((isOctet_iff (isAscii_part ha hm)).1 (List.all_eq_true.1 hall part hm)).2
  have hlength : (parts s).length = 4 := by simpa [parts] using hfour
  obtain ⟨p, q, r, t, hparts⟩ := exists_four hlength
  rw [hparts] at hoctet
  obtain ⟨a, hale, ha⟩ := hoctet p (by simp)
  obtain ⟨b, hble, hb⟩ := hoctet q (by simp)
  obtain ⟨c, hcle, hc⟩ := hoctet r (by simp)
  obtain ⟨d, hdle, hd⟩ := hoctet t (by simp)
  refine ⟨a, b, c, d, ?_, hale, hble, hcle, hdle⟩
  simp only [hparts, List.map_cons, List.map_nil, ha, hb, hc, hd]

namespace HasOctets

variable {a b c d : Nat}

/-- The number of an address is the weight of its octets. -/
theorem encode_eq (h : HasOctets s a b c d) : encode s = BitVec.ofNat 32 (weight a b c d) := by
  have hvalues : ((parts s).take 4).map octetValue = [a, b, c, d] := by
    calc ((parts s).take 4).map octetValue
        = (((parts s).map natural?).map (·.getD 0)).take 4 := by
          rw [List.map_map, List.map_take]
          rfl
      _ = [a, b, c, d] := by rw [h.numbers]; rfl
  have hencode : encode s = BitVec.ofNat 32 (weigh (((parts s).take 4).map octetValue)) := rfl
  rw [hencode, hvalues, weigh_four h.first h.second h.third h.fourth]

theorem toNat_encode (h : HasOctets s a b c d) : (encode s).toNat = weight a b c d := by
  have hlt : weight a b c d < 0x100000000 := by
    obtain ⟨-, ha, hb, hc, hd⟩ := h
    unfold weight
    omega
  rw [h.encode_eq, BitVec.toNat_ofNat, Nat.mod_eq_of_lt hlt]

/-- The address that is written is the one with that number. -/
theorem ofDotted?_eq (h : HasOctets s a b c d) : ofDotted? s.toList = some (encode s) := by
  have hoctets : (parts s).filterMap (fun part => (natural? part).filter (· ≤ 255)) =
      [a, b, c, d] := by
    have hkept {n : Nat} (hn : n ≤ 255) : (some n).filter (· ≤ 255) = some n := by
      simp [Option.filter, hn]
    calc (parts s).filterMap (fun part => (natural? part).filter (· ≤ 255))
        = ((parts s).map natural?).filterMap (·.filter (· ≤ 255)) := by
          rw [List.filterMap_map]
          rfl
      _ = [a, b, c, d] := by
          rw [h.numbers]
          simp only [List.filterMap_cons, List.filterMap_nil, hkept h.first, hkept h.second,
            hkept h.third, hkept h.fourth]
  have hread : ofDotted? s.toList =
      let octets := (parts s).filterMap fun part => (natural? part).filter (· ≤ 255)
      if octets.length = 4 then some (BitVec.ofNat 32 (weigh octets)) else none := rfl
  rw [hread, hoctets, h.encode_eq, ← weigh_four h.first h.second h.third h.fourth]
  rfl

/-- Without the zeros in front the parts are the decimals of the octets. -/
theorem unpadded_parts (h : HasOctets s a b c d) :
    (parts s).map unpadded = [a, b, c, d].map decimal := by
  have hall (ps : List (List Char)) (ns : List Nat) (hn : ps.map natural? = ns.map some) :
      ps.map unpadded = ns.map decimal := by
    induction ps generalizing ns with
    | nil =>
      cases ns with
      | nil => rfl
      | cons n ns => cases hn
    | cons p ps ih =>
      cases ns with
      | nil => cases hn
      | cons n ns =>
        obtain ⟨hp, hps⟩ := List.cons.inj hn
        rw [List.map_cons, List.map_cons, ih ns hps, unpadded_eq_decimal hp]
  exact hall (parts s) [a, b, c, d] h.numbers

/-- The number of an address tells its octets. -/
theorem encode_eq_iff {t : String} {a' b' c' d' : Nat} (h : HasOctets s a b c d)
    (h' : HasOctets t a' b' c' d') :
    encode s = encode t ↔ [a, b, c, d] = [a', b', c', d'] := by
  rw [BitVec.toNat_inj.symm, h.toNat_encode, h'.toNat_encode]
  obtain ⟨-, ha, hb, hc, hd⟩ := h
  obtain ⟨-, ha', hb', hc', hd'⟩ := h'
  simp only [weight, List.cons.injEq, and_true]
  omega

end HasOctets

/-! ## Writing an address -/

theorem dotted_eq (v : V4) :
    dotted v = decimal (v.toNat / 0x1000000) ++ '.' :: (decimal (v.toNat / 0x10000 % 0x100) ++
      '.' :: (decimal (v.toNat / 0x100 % 0x100) ++ '.' :: decimal (v.toNat % 0x100))) := by
  simp [dotted, octets, List.intercalate_cons_cons]

theorem slash_not_mem_dotted (v : V4) : '/' ∉ dotted v := by
  have hdecimal (n : Nat) : '/' ∉ decimal n := by
    intro hm
    exact absurd (isDigit_of_mem_decimal hm) (by decide)
  simp [dotted_eq, hdecimal]

/-- The decimal of an octet is an octet. -/
theorem isOctet_decimal {n : Nat} (h : n ≤ 255) : isOctet (decimal n) = true := by
  have hascii : IsAscii (decimal n) := by
    intro c hc
    have := (isDigit_iff.1 (isDigit_of_mem_decimal hc)).2
    omega
  have hlength : (decimal n).length ≤ 3 :=
    (Nat.length_toDigits_le_iff (by decide) (by decide)).2 (by omega)
  exact (isOctet_iff hascii).2 ⟨hlength, n, h, natural?_decimal n⟩

theorem parts_dotted (v : V4) : parts (String.ofList (dotted v)) = (octets v).map decimal := by
  rw [parts, String.toList_ofList, splitOn_dotted]

theorem hasOctets_dotted (v : V4) :
    HasOctets (String.ofList (dotted v)) (v.toNat / 0x1000000) (v.toNat / 0x10000 % 0x100)
      (v.toNat / 0x100 % 0x100) (v.toNat % 0x100) where
  numbers := by
    simp only [parts_dotted, octets, List.map_cons, List.map_nil, natural?_decimal]
  first := by
    have := v.isLt
    omega
  second := by omega
  third := by omega
  fourth := by omega

theorem isDotted_dotted (v : V4) : isDotted (dotted v) = true := by
  have hv := v.isLt
  have hoctets : ∀ n ∈ octets v, n ≤ 255 := by
    simp only [octets, List.mem_cons, List.not_mem_nil, or_false, forall_eq_or_imp, forall_eq]
    omega
  simp only [isDotted, splitOn_dotted, List.length_map, Bool.and_eq_true, beq_iff_eq,
    List.all_eq_true, List.mem_map]
  refine ⟨rfl, ?_⟩
  rintro part ⟨n, hn, rfl⟩
  exact isOctet_decimal (hoctets n hn)

theorem encode_dotted (v : V4) : encode (String.ofList (dotted v)) = v := by
  refine BitVec.eq_of_toNat_eq ?_
  rw [(hasOctets_dotted v).toNat_encode]
  unfold weight
  omega

end V4

/-! ## What a dotted address means -/

/-- A text with a slash is a block or nothing. -/
theorem kind_of_slash (h : '/' ∈ s.toList) : kind s = .block ∨ kind s = .invalid := by
  unfold kind
  cases hcut : cut '/' s.toList with
  | none => exact absurd h (cut_eq_none.1 hcut)
  | some found =>
    dsimp only
    split
    · exact .inl rfl
    · exact .inr rfl

theorem kind_of_not_slash (h : '/' ∉ s.toList) :
    kind s = if V4.isDotted s.toList then .v4
      else if V6.isFull s.toList || V6.isCompressed s.toList || (V6.ofText? s.toList).isSome then .v6
      else .invalid := by
  rw [kind, cut_eq_none.2 h]

theorem kind_eq_v4_iff : kind s = .v4 ↔ '/' ∉ s.toList ∧ V4.isDotted s.toList = true := by
  by_cases hslash : '/' ∈ s.toList
  · obtain hk | hk := kind_of_slash hslash
    · simp [hk, hslash]
    · simp [hk, hslash]
  · rw [kind_of_not_slash hslash, and_iff_right hslash]
    split
    · next hdotted => simp [hdotted]
    · next hdotted => split <;> simp [hdotted]

/-- A dotted address in ASCII has four octets, and its number and the address that it stands for are
what they weigh; two of them have the same number exactly if their octets are the same, zeros in
front aside. Each number is that of the dotted address that it is written as. -/
theorem dotted_means_number :
    (∀ s, IsAscii s.toList → kind s = .v4 →
      ∃ a b c d, V4.HasOctets s a b c d ∧ (V4.encode s).toNat = V4.weight a b c d ∧
        numeric? s = some (.v4 (V4.encode s))) ∧
    (∀ s t, IsAscii s.toList → IsAscii t.toList → kind s = .v4 → kind t = .v4 →
      (V4.encode s = V4.encode t ↔ (V4.parts s).map unpadded = (V4.parts t).map unpadded)) ∧
    ∀ v, kind (String.ofList (V4.dotted v)) = .v4 ∧ V4.encode (String.ofList (V4.dotted v)) = v := by
  refine ⟨?_, ?_, ?_⟩
  · intro s ha hk
    obtain ⟨a, b, c, d, h⟩ := V4.exists_octets ha (kind_eq_v4_iff.1 hk).2
    refine ⟨a, b, c, d, h, h.toNat_encode, ?_⟩
    unfold numeric?
    rw [hk]
    show (V4.ofDotted? s.toList).map Numeric.v4 = _
    rw [h.ofDotted?_eq, Option.map_some]
  · intro s t hs ht hks hkt
    obtain ⟨a, b, c, d, h⟩ := V4.exists_octets hs (kind_eq_v4_iff.1 hks).2
    obtain ⟨a', b', c', d', h'⟩ := V4.exists_octets ht (kind_eq_v4_iff.1 hkt).2
    rw [h.encode_eq_iff h', h.unpadded_parts, h'.unpadded_parts]
    exact (List.map_inj_right fun m n => decimal_injective).symm
  · intro v
    refine ⟨kind_eq_v4_iff.2 ?_, V4.encode_dotted v⟩
    rw [String.toList_ofList]
    exact ⟨V4.slash_not_mem_dotted v, V4.isDotted_dotted v⟩

theorem dotted_means_number_padded :
    (∃ a b c d, V4.HasOctets "010.001.0.255" a b c d ∧
      (V4.encode "010.001.0.255").toNat = V4.weight a b c d ∧
      numeric? "010.001.0.255" = some (.v4 167837951)) ∧
    (V4.encode "010.001.0.255" = V4.encode "10.1.00.255" ↔
      (V4.parts "010.001.0.255").map unpadded = (V4.parts "10.1.00.255").map unpadded) ∧
    kind (String.ofList (V4.dotted 167837951)) = .v4 ∧
    V4.encode (String.ofList (V4.dotted 167837951)) = 167837951 := by
  obtain ⟨hoctets, hsame, hback⟩ := dotted_means_number
  have ha : IsAscii "010.001.0.255".toList := by decide +kernel
  have hk : kind "010.001.0.255" = .v4 := by decide +kernel
  have hencode : V4.encode "010.001.0.255" = 167837951 := by decide +kernel
  refine ⟨?_, hsame _ _ ha (by decide +kernel) hk (by decide +kernel), hback _⟩
  obtain ⟨a, b, c, d, h, hweight, hnumeric⟩ := hoctets _ ha hk
  exact ⟨a, b, c, d, h, hweight, hencode ▸ hnumeric⟩

end Gazetteer.Address
