/-
Gazetteer.Proofs.Json.Regular — what is read is regular.

Fields are written into their places one after another, so those of an object
come in order, and each name once. An array or an object that opens takes one
from the depth that is left, so a value nests no deeper than it was allowed to.
-/
import Gazetteer.Proofs.Json.Cases
import Gazetteer.Proofs.Json.Written

namespace Gazetteer.Json

/-- Fields in order, of regular values. -/
structure AreRegular (depth : Nat) (fields : Fields) : Prop where
  ordered : IsOrdered fields
  regular : ∀ field ∈ fields, field.2.IsRegular depth

variable {depth a : Nat} {v : Value} {vs : List Value} {fields before : Fields}
  {cs rest : List Char}

theorem AreRegular.nil (depth : Nat) : AreRegular depth [] :=
  ⟨List.Pairwise.nil, by simp⟩

theorem AreRegular.setField (h : AreRegular depth fields) (hv : v.IsRegular depth) (name : String) :
    AreRegular depth (setField name v fields) := by
  refine ⟨h.ordered.setField name v, ?_⟩
  intro field hm
  rcases mem_setField hm with rfl | hm
  · exact hv
  · exact h.regular field hm

/-- Whatever is read with an allowance is regular. -/
structure ReadsRegular (a : Nat) : Prop where
  ofValue : ∀ {depth cs v rest}, value depth a cs = .ok (v, rest) → v.IsRegular depth
  ofElements : ∀ {depth cs vs rest}, elements depth a cs = .ok (vs, rest) →
    ∀ v ∈ vs, v.IsRegular depth
  ofMoreElements : ∀ {depth cs vs rest}, moreElements depth a cs = .ok (vs, rest) →
    ∀ v ∈ vs, v.IsRegular depth
  ofMembers : ∀ {depth before cs fields rest}, AreRegular depth before →
    members depth a before cs = .ok (fields, rest) → AreRegular depth fields
  ofMember : ∀ {depth before cs fields rest}, AreRegular depth before →
    member depth a before cs = .ok (fields, rest) → AreRegular depth fields
  ofMoreMembers : ∀ {depth before cs fields rest}, AreRegular depth before →
    moreMembers depth a before cs = .ok (fields, rest) → AreRegular depth fields

theorem OpensValue.regular (h : OpensValue depth a cs v rest) (ha : ReadsRegular a) :
    v.IsRegular depth := by
  cases h with
  | text h => exact .text _ _
  | null h => exact .null _
  | true h => exact .boolean _ _
  | false h => exact .boolean _ _
  | number hc h => exact .number _ _
  | array h => exact .array (ha.ofElements h)
  | object h =>
    have hfields := ha.ofMembers (.nil _) h
    exact .object hfields.ordered hfields.regular

theorem elements_regular (ha : ReadsRegular a) (h : elements depth (a + 1) cs = .ok (vs, rest)) :
    ∀ v ∈ vs, v.IsRegular depth := by
  rcases elements_cases h with ⟨-, rfl⟩ | ⟨c, behind, v, others, between, -, -, rfl, hv, hmore⟩
  · simp
  · simpa using ⟨ha.ofValue hv, ha.ofMoreElements hmore⟩

theorem moreElements_regular (ha : ReadsRegular a)
    (h : moreElements depth (a + 1) cs = .ok (vs, rest)) : ∀ v ∈ vs, v.IsRegular depth := by
  rcases moreElements_cases h with ⟨-, rfl⟩ | ⟨behind, v, others, between, -, rfl, hv, hmore⟩
  · simp
  · simpa using ⟨ha.ofValue hv, ha.ofMoreElements hmore⟩

theorem members_regular (ha : ReadsRegular a) (hb : AreRegular depth before)
    (h : members depth (a + 1) before cs = .ok (fields, rest)) : AreRegular depth fields := by
  rcases members_cases h with ⟨-, rfl⟩ | ⟨behind, -, hmember⟩
  · exact hb
  · exact ha.ofMember hb hmember

theorem member_regular (ha : ReadsRegular a) (hb : AreRegular depth before)
    (h : member depth (a + 1) before cs = .ok (fields, rest)) : AreRegular depth fields := by
  obtain ⟨name, afterName, behind, v, between, -, -, hv, hmore⟩ := member_cases h
  exact ha.ofMoreMembers (hb.setField (ha.ofValue hv) name) hmore

theorem moreMembers_regular (ha : ReadsRegular a) (hb : AreRegular depth before)
    (h : moreMembers depth (a + 1) before cs = .ok (fields, rest)) : AreRegular depth fields := by
  rcases moreMembers_cases h with ⟨-, rfl⟩ | ⟨afterComma, behind, -, -, hmember⟩
  · exact hb
  · exact ha.ofMember hb hmember

theorem readsRegular (a : Nat) : ReadsRegular a := by
  induction a with
  | zero =>
    constructor <;> intros <;>
      simp_all [value, elements, moreElements, members, member, moreMembers]
  | succ a ih =>
    exact {
      ofValue h := (value_cases h).regular ih
      ofElements := elements_regular ih
      ofMoreElements := moreElements_regular ih
      ofMembers := members_regular ih
      ofMember := member_regular ih
      ofMoreMembers := moreMembers_regular ih }

/-- The value that a text holds is regular. -/
theorem read_regular {s : String} (h : read s = .ok v) : v.IsRegular maxDepth := by
  obtain ⟨rest, hread, -⟩ := read_eq_ok.1 h
  exact (readsRegular _).ofValue hread

end Gazetteer.Json
