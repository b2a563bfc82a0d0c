/-
Gazetteer.Proofs.Enrichment.Asked — the one address that a line asks for.

The address text of a line is the trimmed line itself, or the trimmed text in the
address field of its event. Whoever answers the line asks for that text, once, if it
is an address or a block, and otherwise asks for nothing and touches nothing.
-/
import Gazetteer.Enrichment.Plan
import Gazetteer.Proofs.Enrichment

namespace Gazetteer.Enrichment

open Json (Fields Value field?)

variable {σ : Type} {ask : String → σ → Location × σ} {addressField line text s : String}
  {state : σ} {asked : List String} {fields : Fields} {event : Value}

/-- An address or a block with nothing blank around it. -/
def IsAskable (text : String) : Prop := Address.kind text ≠ .invalid ∧ Text.trim text = text

instance (text : String) : Decidable (IsAskable text) := inferInstanceAs (Decidable (_ ∧ _))

/-- The address text of a line. -/
inductive HasAddress (addressField line : String) : String → Prop where
  /-- A line that is neither blank nor opens with a brace is one. -/
  | bare (hne : (Text.trim line).isEmpty = false)
      (hopens : (Text.trim line).toList.head? ≠ some '\x7b') :
      HasAddress addressField line (Text.trim line)
  /-- An event holds one in its address field. -/
  | field {fields : Fields} {s : String} (hevent : IsEvent line (.object fields))
      (hfield : field? addressField fields = some (.text s)) :
      HasAddress addressField line (Text.trim s)

theorem HasAddress.trimmed (h : HasAddress addressField line text) : Text.trim text = text := by
  cases h <;> exact Text.trim_trim _

/-! ## Plans -/

/-- The text that a plan asks for. -/
def Plan.asked? : Plan → Option String
  | done _ => none
  | lookUp address _ => some address

theorem Plan.asked?_forAddress_iff (finish : Location → List Char) (address : String) :
    (Plan.forAddress finish address).asked? = some text ↔
      address = text ∧ Address.kind text ≠ .invalid := by
  cases h : Address.kind address with
  | invalid =>
    simp only [forAddress, h, asked?, reduceCtorEq, false_iff, not_and, not_not]
    rintro rfl
    exact h
  | _ =>
    simp only [forAddress, h, asked?, Option.some.injEq]
    refine ⟨?_, And.left⟩
    rintro rfl
    exact ⟨rfl, by simp [h]⟩

/-- An event asks for the text of its address field. -/
theorem Plan.asked?_forEvent_iff :
    (Plan.forEvent addressField (.object fields)).asked? = some text ↔
      (∃ s, field? addressField fields = some (.text s) ∧ Text.trim s = text) ∧
        Address.kind text ≠ .invalid := by
  unfold forEvent addressIn?
  dsimp only
  split
  · next hnone =>
    constructor
    · intro h
      cases h
    · rintro ⟨⟨s, hs, -⟩, -⟩
      rw [hs] at hnone
      cases hnone
  · next address haddress =>
    rw [asked?_forAddress_iff]
    split at haddress
    · next s hs =>
      obtain rfl := Option.some.inj haddress
      simp [hs]
    · cases haddress

theorem plan_of_event (h : IsEvent line event) :
    plan addressField line = .forEvent addressField event := by
  obtain ⟨hbrace, hread⟩ := h
  obtain ⟨cs, hcs⟩ := List.head?_eq_some_iff.1 hbrace
  rw [Text.trim_toList] at hcs
  unfold plan
  rw [Text.trim] at hread
  simp only [hcs] at hread ⊢
  rw [hread]

/-- A line is an event, or an address text as it stands, or has no answer. -/
theorem plan_cases (addressField line : String) :
    (∃ event, IsEvent line event) ∨
      ((Text.trim line).isEmpty = false ∧ (Text.trim line).toList.head? ≠ some '\x7b' ∧
        plan addressField line = .forAddress Json.writeLocation (Text.trim line)) ∨
      plan addressField line = .done none ∧
        ((Text.trim line).isEmpty = true ∨ (Text.trim line).toList.head? = some '\x7b') := by
  have hline : Text.trim line = String.ofList (Text.trimChars line.toList) := rfl
  unfold plan IsEvent
  rw [Text.trim_toList, hline]
  rcases Text.trimChars line.toList with _ | ⟨c, cs⟩
  · exact .inr (.inr ⟨rfl, .inl rfl⟩)
  rcases Decidable.em (c = '\x7b') with rfl | hc
  · cases hread : Json.read (String.ofList ('\x7b' :: cs)) with
    | error fault =>
      refine .inr (.inr ⟨?_, .inr rfl⟩)
      simp only [hread]
    | ok event => exact .inl ⟨event, rfl, rfl⟩
  · refine .inr (.inl ⟨?_, by simpa using hc, by simp [hc]⟩)
    rw [Bool.eq_false_iff, Ne, String.isEmpty_iff, ← String.toList_eq_nil_iff]
    simp

/-- **What a line asks for** is its address text, if that is an address or a block. -/
theorem asked?_plan_iff : (plan addressField line).asked? = some text ↔
    HasAddress addressField line text ∧ Address.kind text ≠ .invalid := by
  constructor
  · intro h
    obtain ⟨event, hevent⟩ | ⟨hne, hopens, hplan⟩ | ⟨hplan, -⟩ := plan_cases addressField line
    · obtain ⟨fields, rfl, -⟩ := hevent.holds
      rw [plan_of_event hevent, Plan.asked?_forEvent_iff] at h
      obtain ⟨⟨s, hfield, rfl⟩, hkind⟩ := h
      exact ⟨.field hevent hfield, hkind⟩
    · rw [hplan, Plan.asked?_forAddress_iff] at h
      obtain ⟨rfl, hkind⟩ := h
      exact ⟨.bare hne hopens, hkind⟩
    · rw [hplan] at h
      cases h
  · rintro ⟨h, hkind⟩
    cases h with
    | bare hne hopens =>
      obtain ⟨event, hevent⟩ | ⟨-, -, hplan⟩ | ⟨-, hblank | hbrace⟩ := plan_cases addressField line
      · exact absurd hevent.1 hopens
      · rw [hplan, Plan.asked?_forAddress_iff]
        exact ⟨rfl, hkind⟩
      · exact absurd hblank (Bool.eq_false_iff.1 hne)
      · exact absurd hbrace hopens
    | field hevent hfield =>
      rw [plan_of_event hevent]
      exact Plan.asked?_forEvent_iff.2 ⟨⟨_, hfield, rfl⟩, hkind⟩

theorem HasAddress.isAskable (h : HasAddress addressField line text)
    (hkind : Address.kind text ≠ .invalid) : IsAskable text := ⟨hkind, h.trimmed⟩

/-! ## Asking -/

/-- To ask as before and to note down what is asked for. -/
def noting (ask : String → σ → Location × σ) (address : String) (state : σ × List String) :
    Location × σ × List String :=
  let (location, later) := ask address state.1
  (location, later, state.2 ++ [address])

/-- What answering a line comes to where each text that is asked for is noted down: the answer is
that of the line, one text at the most has been asked for, and nothing has happened without that. -/
structure AsksOnce (ask : String → σ → Location × σ) (addressField line : String) (state : σ)
    (asked : List String) (taken : Option (List Char) × σ × List String) : Prop where
  answered : (taken.1, taken.2.1) = answer addressField ask line state
  once : ∀ text, HasAddress addressField line text → Address.kind text ≠ .invalid →
    taken.2 = ((ask text state).2, asked ++ [text])
  untouched : (∀ text, HasAddress addressField line text → Address.kind text = .invalid) →
    taken.2 = (state, asked)

theorem asksOnce (ask : String → σ → Location × σ) (addressField line : String) (state : σ)
    (asked : List String) :
    AsksOnce ask addressField line state asked
      (answer addressField (noting ask) line (state, asked)) := by
  have hiff (text : String) : (plan addressField line).asked? = some text ↔
      HasAddress addressField line text ∧ Address.kind text ≠ .invalid := asked?_plan_iff
  have hanswer := @follow_plan σ ask state addressField line
  rw [← follow_plan]
  cases hplan : plan addressField line with
  | done text =>
    rw [hplan] at hiff hanswer
    refine ⟨hanswer, ?_, fun _ => rfl⟩
    intro text h hkind
    cases (hiff text).2 ⟨h, hkind⟩
  | lookUp address finish =>
    rw [hplan] at hiff hanswer
    refine ⟨hanswer, ?_, ?_⟩
    · intro text h hkind
      obtain rfl := Option.some.inj ((hiff text).2 ⟨h, hkind⟩)
      rfl
    · intro hnone
      obtain ⟨h, hkind⟩ := (hiff address).1 rfl
      exact absurd (hnone address h) hkind

/-- What asking for addresses and blocks keeps, answering a line keeps. -/
theorem answer_keeps {good : σ → Prop}
    (hask : ∀ text state, IsAskable text → good state → good (ask text state).2)
    (hs : good state) (addressField line : String) : good (answer addressField ask line state).2 := by
  rw [← follow_plan]
  cases hplan : plan addressField line with
  | done text => exact hs
  | lookUp address finish =>
    obtain ⟨h, hkind⟩ := asked?_plan_iff.1 (congrArg Plan.asked? hplan)
    exact hask address state (h.isAskable hkind) hs

end Gazetteer.Enrichment
