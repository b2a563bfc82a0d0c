/-
Gazetteer.Proofs.Json.Cases — what one call of the reader reads.

White space before a token is skipped. A call that succeeds has read one thing: a token,
an opened array or object, an end, or an element or a field with those behind it. Each
case names the text that it takes and the calls that it makes.
-/
import Gazetteer.Json.Reader
import Gazetteer.Proofs.Members

namespace Gazetteer.Json

theorem map_eq_ok {α β ε : Type} {f : α → β} {x : Except ε α} {y : β} :
    x.map f = .ok y ↔ ∃ z, x = .ok z ∧ f z = y := by
  cases x with
  | error e => simp [Except.map]
  | ok z => simp [Except.map]

/-! ## White space -/

theorem skipSpace_cons {c : Char} (h : isSpace c = false) (cs : List Char) :
    skipSpace (c :: cs) = c :: cs := by
  simp [skipSpace, h]

theorem skipSpace_append {space : List Char} (h : ∀ d ∈ space, isSpace d = true)
    (cs : List Char) : skipSpace (space ++ cs) = skipSpace cs :=
  List.dropWhile_append_of_pos h

/-- The text before the first character that is no white space is white space. -/
theorem skipSpace_eq_cons {c : Char} {cs behind : List Char} (h : skipSpace cs = c :: behind) :
    ∃ space, cs = space ++ c :: behind ∧ isSpace c = false ∧ ∀ d ∈ space, isSpace d = true := by
  obtain ⟨hcs, hspace, hend⟩ := Members.takeWhile_dropWhile_iff.1 ⟨rfl, h⟩
  exact ⟨_, hcs, hend c rfl, hspace⟩

/-! ## Values -/

/-- A value from the first character that is no white space. -/
inductive OpensValue : (depth a : Nat) → List Char → Value → List Char → Prop where
  | text {depth a : Nat} {cs rest : List Char} {s : String} (h : text cs = .ok (s, rest)) :
      OpensValue depth a ('"' :: cs) (.text s) rest
  | null {depth a : Nat} {cs rest : List Char} (h : word ['u', 'l', 'l'] cs = .ok rest) :
      OpensValue depth a ('n' :: cs) .null rest
  | true {depth a : Nat} {cs rest : List Char} (h : word ['r', 'u', 'e'] cs = .ok rest) :
      OpensValue depth a ('t' :: cs) (.boolean true) rest
  | false {depth a : Nat} {cs rest : List Char} (h : word ['a', 'l', 's', 'e'] cs = .ok rest) :
      OpensValue depth a ('f' :: cs) (.boolean false) rest
  | number {depth a : Nat} {c : Char} {cs rest : List Char} {n : Number}
      (hc : opensNumber c = Bool.true) (h : number (c :: cs) = .ok (n, rest)) :
      OpensValue depth a (c :: cs) (.number n) rest
  | array {depth a : Nat} {cs rest : List Char} {vs : List Value}
      (h : elements depth a cs = .ok (vs, rest)) :
      OpensValue (depth + 1) a ('[' :: cs) (.array vs) rest
  | object {depth a : Nat} {cs rest : List Char} {fields : Fields}
      (h : members depth a [] cs = .ok (fields, rest)) :
      OpensValue (depth + 1) a ('\x7b' :: cs) (.object fields) rest

variable {depth a : Nat} {v : Value} {vs : List Value} {fields before : Fields}
  {cs rest : List Char}

theorem value_cases (h : value depth (a + 1) cs = .ok (v, rest)) :
    OpensValue depth a (skipSpace cs) v rest := by
  rw [value] at h
  split at h
  · cases h
  · next c cs hcs =>
    rw [hcs]
    split at h
    · next hc =>
      obtain ⟨_, ht, heq⟩ := map_eq_ok.1 h
      cases heq
      exact hc ▸ .text ht
    split at h
    · next hc =>
      obtain ⟨_, hw, heq⟩ := map_eq_ok.1 h
      cases heq
      exact hc ▸ .null hw
    split at h
    · next hc =>
      obtain ⟨_, hw, heq⟩ := map_eq_ok.1 h
      cases heq
      exact hc ▸ .true hw
    split at h
    · next hc =>
      obtain ⟨_, hw, heq⟩ := map_eq_ok.1 h
      cases heq
      exact hc ▸ .false hw
    split at h
    · next hc =>
      obtain ⟨_, hn, heq⟩ := map_eq_ok.1 h
      cases heq
      exact .number hc hn
    split at h
    · next hc =>
      cases depth with
      | zero => cases h
      | succ depth =>
        obtain ⟨_, hvs, heq⟩ := map_eq_ok.1 h
        cases heq
        exact hc ▸ .array hvs
    split at h
    · next hc =>
      cases depth with
      | zero => cases h
      | succ depth =>
        obtain ⟨_, hfields, heq⟩ := map_eq_ok.1 h
        cases heq
        exact hc ▸ .object hfields
    · cases h

/-! ## Elements -/

/-- What opens with a brace is an object. -/
theorem object_of_brace (h : value depth a ('\x7b' :: cs) = .ok (v, rest)) :
    ∃ fields, v = .object fields := by
  cases a with
  | zero => simp [value] at h
  | succ a =>
    have hcases := value_cases h
    rw [skipSpace_cons (by decide)] at hcases
    cases hcases with
    | object _ => exact ⟨_, rfl⟩
    | number hc _ => exact absurd hc (by decide)

theorem elements_cases (h : elements depth (a + 1) cs = .ok (vs, rest)) :
    (skipSpace cs = ']' :: rest ∧ vs = []) ∨
    ∃ c behind v others between, skipSpace cs = c :: behind ∧ c ≠ ']' ∧ vs = v :: others ∧
      value depth a (c :: behind) = .ok (v, between) ∧
      moreElements depth a between = .ok (others, rest) := by
  rw [elements] at h
  split at h
  · cases h
  · next c behind hcs =>
    split at h
    · next hc =>
      cases h
      exact .inl ⟨hc ▸ hcs, rfl⟩
    · next hc =>
      split at h
      · cases h
      · next v between hv =>
        obtain ⟨_, hmore, heq⟩ := map_eq_ok.1 h
        cases heq
        exact .inr ⟨c, behind, v, _, between, hcs, hc, rfl, hv, hmore⟩

theorem moreElements_cases (h : moreElements depth (a + 1) cs = .ok (vs, rest)) :
    (skipSpace cs = ']' :: rest ∧ vs = []) ∨
    ∃ behind v others between, skipSpace cs = ',' :: behind ∧ vs = v :: others ∧
      value depth a behind = .ok (v, between) ∧
      moreElements depth a between = .ok (others, rest) := by
  rw [moreElements] at h
  split at h
  · cases h
  · next c behind hcs =>
    split at h
    · next hc =>
      cases h
      exact .inl ⟨hc ▸ hcs, rfl⟩
    split at h
    · next hc =>
      split at h
      · cases h
      · next v between hv =>
        obtain ⟨_, hmore, heq⟩ := map_eq_ok.1 h
        cases heq
        exact .inr ⟨behind, v, _, between, hc ▸ hcs, rfl, hv, hmore⟩
    · cases h

/-! ## Fields -/

theorem members_cases (h : members depth (a + 1) before cs = .ok (fields, rest)) :
    (skipSpace cs = '\x7d' :: rest ∧ fields = before) ∨
    ∃ behind, skipSpace cs = '"' :: behind ∧
      member depth a before behind = .ok (fields, rest) := by
  rw [members] at h
  split at h
  · cases h
  · next c behind hcs =>
    split at h
    · next hc =>
      cases h
      exact .inl ⟨hc ▸ hcs, rfl⟩
    split at h
    · next hc => exact .inr ⟨behind, hc ▸ hcs, h⟩
    · cases h

theorem member_cases (h : member depth (a + 1) before cs = .ok (fields, rest)) :
    ∃ name afterName behind v between, text cs = .ok (name, afterName) ∧
      skipSpace afterName = ':' :: behind ∧ value depth a behind = .ok (v, between) ∧
      moreMembers depth a (setField name v before) between = .ok (fields, rest) := by
  rw [member] at h
  split at h
  · cases h
  · next name afterName hname =>
    split at h
    · cases h
    · next c behind hcs =>
      split at h
      · next hc =>
        split at h
        · cases h
        · next v between hv => exact ⟨name, afterName, behind, v, between, hname, hc ▸ hcs, hv, h⟩
      · cases h

theorem moreMembers_cases (h : moreMembers depth (a + 1) before cs = .ok (fields, rest)) :
    (skipSpace cs = '\x7d' :: rest ∧ fields = before) ∨
    ∃ afterComma behind, skipSpace cs = ',' :: afterComma ∧ skipSpace afterComma = '"' :: behind ∧
      member depth a before behind = .ok (fields, rest) := by
  rw [moreMembers] at h
  split at h
  · cases h
  · next c afterComma hcs =>
    split at h
    · next hc =>
      cases h
      exact .inl ⟨hc ▸ hcs, rfl⟩
    split at h
    · next hc =>
      split at h
      · cases h
      · next d behind hbehind =>
        split at h
        · next hd => exact .inr ⟨afterComma, behind, hc ▸ hcs, hd ▸ hbehind, h⟩
        · cases h
    · cases h

/-! ## Whole texts -/

theorem read_eq_ok {s : String} :
    read s = .ok v ↔
      ∃ rest, value maxDepth (allowance s.toList) s.toList = .ok (v, rest) ∧ skipSpace rest = [] := by
  simp only [read, whole]
  split
  · next h => simp [h]
  · next result rest h =>
    simp only [h, List.isEmpty_iff, Except.ok.injEq, Prod.mk.injEq]
    constructor
    · intro hv
      split at hv
      · next hend => exact ⟨rest, ⟨Except.ok.inj hv, rfl⟩, hend⟩
      · cases hv
    · rintro ⟨_, ⟨rfl, rfl⟩, hend⟩
      rw [if_pos hend]

end Gazetteer.Json
