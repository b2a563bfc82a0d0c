/-
Gazetteer.Proofs.Address.AreaText — the text of an area is a code of its number.

The first two octets of an address in plain decimal, joined by a dot, tell the areas of
all addresses apart and nothing else. There is always such a text, since a number is
written with three dots. It is what stands before the second dot of any text in ASCII
of the address, once its octets have no zeros in front; these may be taken away before
the text is cut off or afterwards.
-/
import Gazetteer.Proofs.Address.Dotted

namespace Gazetteer.Address

open Gazetteer.Text

variable {s : String} {p q part : List Char} {rest : List (List Char)} {n : Nat}

/-! ## Texts without zeros in front -/

/-- The text with no zeros in front of what stands between its dots; a last digit stays. -/
def plain (s : String) : String :=
  String.ofList (['.'].intercalate ((V4.parts s).map unpadded))

theorem dot_not_mem_of_natural? (h : natural? part = some n) : '.' ∉ part := by
  intro hm
  exact absurd ((natural?_eq_some_iff.1 h).2.1 _ hm) (by decide)

/-- What is before the second dot are the first two parts. -/
theorem coarse?_of_parts (h : V4.parts s = p :: q :: part :: rest) :
    coarse? s = some (String.ofList (p ++ '.' :: q)) := by
  unfold coarse? V4.coarse?
  rw [show s.toList.splitOn '.' = p :: q :: part :: rest from h]
  rfl

theorem plain_of_parts (h : V4.parts s = [p, q]) :
    plain s = String.ofList (unpadded p ++ '.' :: unpadded q) := by
  simp [plain, h, List.intercalate_cons_cons]

namespace V4

theorem area_eq_octets (v : V4) :
    area v = String.ofList (['.'].intercalate (((octets v).take 2).map decimal)) := by
  simp [area_eq, octets, List.intercalate_cons_cons]

/-- An address is never without the text of its area. -/
theorem coarse?_dotted (v : V4) : Address.coarse? (String.ofList (dotted v)) = some (area v) := by
  rw [area_eq]
  exact coarse?_of_parts (parts_dotted v)

namespace HasOctets

variable {a b c d : Nat}

theorem area_encode (h : HasOctets s a b c d) :
    area (encode s) = String.ofList (decimal a ++ '.' :: decimal b) := by
  have hfirst : (encode s).toNat / 0x1000000 = a := by
    rw [h.toNat_encode]
    obtain ⟨-, ha, hb, hc, hd⟩ := h
    unfold weight
    omega
  have hsecond : (encode s).toNat / 0x10000 % 0x100 = b := by
    rw [h.toNat_encode]
    obtain ⟨-, ha, hb, hc, hd⟩ := h
    unfold weight
    omega
  rw [area_eq, hfirst, hsecond]

/-- Without the zeros in front the text is that of the four octets in plain decimal. -/
theorem parts_plain (h : HasOctets s a b c d) :
    parts (plain s) = [a, b, c, d].map decimal := by
  rw [parts, plain, String.toList_ofList, h.unpadded_parts]
  refine List.splitOn_intercalate '.' ?_ (by simp)
  intro part hm
  obtain ⟨n, -, rfl⟩ := List.mem_map.1 hm
  exact dot_not_mem_decimal n

/-- The area of an address is what its plain text has before the second dot. -/
theorem coarse?_plain (h : HasOctets s a b c d) :
    Address.coarse? (plain s) = some (area (encode s)) := by
  rw [h.area_encode]
  exact coarse?_of_parts h.parts_plain

/-- It is also the plain text of what any text of the address has there. -/
theorem plain_coarse? (h : HasOctets s a b c d) :
    (Address.coarse? s).map plain = some (area (encode s)) := by
  obtain ⟨p, q, r, t, hparts⟩ : ∃ p q r t, parts s = [p, q, r, t] :=
    exists_four (by simpa using congrArg List.length h.numbers)
  have hnumbers := h.numbers
  simp only [hparts, List.map_cons, List.map_nil, List.cons.injEq, and_true] at hnumbers
  obtain ⟨hp, hq, -, -⟩ := hnumbers
  have hcoarse : parts (String.ofList (p ++ '.' :: q)) = [p, q] := by
    rw [parts, String.toList_ofList,
      List.splitOn_append_cons_self_of_not_mem (dot_not_mem_of_natural? hp),
      List.splitOn_eq_singleton (dot_not_mem_of_natural? hq)]
  rw [coarse?_of_parts hparts, Option.map_some, plain_of_parts hcoarse, h.area_encode,
    unpadded_eq_decimal hp, unpadded_eq_decimal hq]

end HasOctets

end V4

/-! ## The code of an area -/

/-- Two addresses have the same text of their area exactly if their upper sixteen bits are the same.
That text is never missing: it is the first two octets in plain decimal, joined by a dot. For a
dotted text in ASCII it is what stands before the second dot, without the zeros in front of its
octets. -/
theorem area_is_code :
    (∀ v w : V4, V4.area v = V4.area w ↔ v.toNat / 65536 = w.toNat / 65536) ∧
    (∀ v : V4, coarse? (String.ofList (V4.dotted v)) = some (V4.area v) ∧
      V4.area v = String.ofList (['.'].intercalate (((V4.octets v).take 2).map decimal))) ∧
    ∀ s, IsAscii s.toList → kind s = .v4 →
      coarse? (plain s) = some (V4.area (V4.encode s)) ∧
        (coarse? s).map plain = some (V4.area (V4.encode s)) := by
  refine ⟨V4.area_eq_iff, fun v => ⟨V4.coarse?_dotted v, V4.area_eq_octets v⟩, ?_⟩
  intro s ha hk
  obtain ⟨a, b, c, d, h⟩ := V4.exists_octets ha (kind_eq_v4_iff.1 hk).2
  exact ⟨h.coarse?_plain, h.plain_coarse?⟩

/-- Zeros in front of an octet do not count, and a zero alone stays. -/
theorem area_is_code_padded :
    kind "010.000.0.1" = .v4 ∧ coarse? "010.000.0.1" = some "010.000" ∧
      plain "010.000.0.1" = "10.0.0.1" ∧ plain "010.000" = "10.0" ∧
      coarse? "10.0.0.1" = some "10.0" ∧ V4.area (V4.encode "010.000.0.1") = "10.0" := by
  have ha : IsAscii "010.000.0.1".toList := by decide +kernel
  have hk : kind "010.000.0.1" = .v4 := by decide +kernel
  have hcoarse : coarse? "010.000.0.1" = some "010.000" := by decide +kernel
  have hplain : plain "010.000.0.1" = "10.0.0.1" := by decide +kernel
  have hshort : plain "010.000" = "10.0" := by decide +kernel
  obtain ⟨-, -, htexts⟩ := area_is_code
  obtain ⟨hbefore, hafter⟩ := htexts _ ha hk
  have harea : V4.area (V4.encode "010.000.0.1") = "10.0" := by
    rw [hcoarse, Option.map_some, hshort] at hafter
    exact (Option.some.inj hafter).symm
  rw [hplain, harea] at hbefore
  exact ⟨hk, hcoarse, hplain, hshort, hbefore, harea⟩

end Gazetteer.Address
