/-
Gazetteer.Proofs.Json.Written — a written value is read back as it was.

A value is regular when the fields of its objects come in the strict order of
their names and its arrays and objects nest no deeper than the reader allows. A
regular value whose numbers are all whole is read back from the text that is
written for it, whatever follows that does not go on with a number. The reader's
allowance of twice the length of the text is never used up.
-/
import Gazetteer.Proofs.Json.Cases
import Gazetteer.Proofs.Json.Fields
import Gazetteer.Proofs.Json.Number
import Gazetteer.Proofs.Json.Quoted

namespace Gazetteer.Json

/-- All numbers of a value are whole. -/
inductive Value.IsWhole : Value → Prop where
  | null : IsWhole .null
  | boolean (b : Bool) : IsWhole (.boolean b)
  | number {n : Number} (h : n.IsWhole) : IsWhole (.number n)
  | text (s : String) : IsWhole (.text s)
  | array {elements : List Value} (h : ∀ element ∈ elements, IsWhole element) :
      IsWhole (.array elements)
  | object {fields : Fields} (h : ∀ field ∈ fields, IsWhole field.2) : IsWhole (.object fields)

/-- Fields come in order everywhere, and at most `depth` arrays and objects are nested. -/
inductive Value.IsRegular : (depth : Nat) → Value → Prop where
  | null (depth : Nat) : IsRegular depth .null
  | boolean (depth : Nat) (b : Bool) : IsRegular depth (.boolean b)
  | number (depth : Nat) (n : Number) : IsRegular depth (.number n)
  | text (depth : Nat) (s : String) : IsRegular depth (.text s)
  | array {depth : Nat} {elements : List Value}
      (h : ∀ element ∈ elements, IsRegular depth element) : IsRegular (depth + 1) (.array elements)
  | object {depth : Nat} {fields : Fields} (ho : IsOrdered fields)
      (h : ∀ field ∈ fields, IsRegular depth field.2) : IsRegular (depth + 1) (.object fields)

/-- The text of a value is read as the value. -/
structure Value.Returns (depth : Nat) (v : Value) : Prop where
  opens : ∃ c cs, v.write = c :: cs ∧ isSpace c = false ∧ c ≠ ']'
  reads : ∀ allowance rest, EndsNumber rest → 2 * v.write.length ≤ allowance →
    value depth allowance (v.write ++ rest) = .ok (v, rest)

variable {depth a : Nat} {v : Value} {vs : List Value} {name : String} {before fields : Fields}
  {c : Char} {cs rest : List Char}

theorem Value.Returns.length_pos (h : v.Returns depth) : 0 < v.write.length := by
  obtain ⟨c, cs, hcs, -, -⟩ := h.opens
  simp [hcs]

/-! ## Words, texts and numbers -/

theorem returns_null (depth : Nat) : Value.null.Returns depth := by
  refine ⟨⟨'n', ['u', 'l', 'l'], by simp [Value.write], rfl, by decide⟩, ?_⟩
  intro allowance rest _ ha
  cases allowance with
  | zero => simp [Value.write] at ha
  | succ a => simp [Value.write, value, skipSpace_cons, isSpace, word, Except.map]

theorem returns_boolean (depth : Nat) (b : Bool) : (Value.boolean b).Returns depth := by
  cases b with
  | true =>
    refine ⟨⟨'t', ['r', 'u', 'e'], by simp [Value.write], rfl, by decide⟩, ?_⟩
    intro allowance rest _ ha
    cases allowance with
    | zero => simp [Value.write] at ha
    | succ a => simp [Value.write, value, skipSpace_cons, isSpace, word, Except.map]
  | false =>
    refine ⟨⟨'f', ['a', 'l', 's', 'e'], by simp [Value.write], rfl, by decide⟩, ?_⟩
    intro allowance rest _ ha
    cases allowance with
    | zero => simp [Value.write] at ha
    | succ a => simp [Value.write, value, skipSpace_cons, isSpace, word, Except.map]

theorem returns_text (depth : Nat) (s : String) : (Value.text s).Returns depth := by
  refine ⟨⟨'"', _, by rw [Value.write, quote], rfl, by decide⟩, ?_⟩
  intro allowance rest _ ha
  cases allowance with
  | zero => simp [Value.write, quote] at ha
  | succ a =>
    obtain ⟨inside, hinside, htext⟩ := text_quote s rest
    rw [Value.write, hinside, value, skipSpace_cons (by decide)]
    simp [htext, Except.map]

theorem opensNumber_facts (h : opensNumber c = true) :
    isSpace c = false ∧ c ≠ ']' ∧ c ≠ '"' ∧ c ≠ 'n' ∧ c ≠ 't' ∧ c ≠ 'f' := by
  have hne : ∀ d, opensNumber d = false → c ≠ d := by
    rintro d hd rfl
    simp [h] at hd
  refine ⟨?_, hne _ rfl, hne _ rfl, hne _ rfl, hne _ rfl, hne _ rfl⟩
  simp [isSpace, hne ' ' rfl, hne '\n' rfl, hne '\t' rfl, hne '\r' rfl]

theorem returns_number (depth : Nat) {n : Number} (h : n.IsWhole) :
    (Value.number n).Returns depth := by
  obtain ⟨c, cs, hcs, hopens⟩ : ∃ c cs, n.write = c :: cs ∧ opensNumber c = true := by
    cases n with
    | whole value => exact write_whole_cons value
    | double value => exact h.elim
  obtain ⟨hspace, hbracket, hquote, hn, ht, hf⟩ := opensNumber_facts hopens
  refine ⟨⟨c, cs, by rw [Value.write, hcs], hspace, hbracket⟩, ?_⟩
  intro allowance rest hrest ha
  have hread := number_write h hrest
  simp only [Value.write, hcs, List.cons_append] at hread ha ⊢
  cases allowance with
  | zero => simp at ha
  | succ a =>
    rw [value, skipSpace_cons hspace]
    simp [hquote, hn, ht, hf, hopens, hread, Except.map]

/-! ## Arrays -/

/-- What is written after an element of an array. -/
def afterElement : List Value → List Char
  | [] => [']']
  | vs => ',' :: writeElements vs

theorem writeElements_cons (v : Value) (vs : List Value) :
    writeElements (v :: vs) = v.write ++ afterElement vs := by
  cases vs <;> simp [writeElements, afterElement]

theorem afterElement_cons (v : Value) (vs : List Value) :
    afterElement (v :: vs) = ',' :: (v.write ++ afterElement vs) := by
  rw [afterElement, writeElements_cons]
  simp

theorem afterElement_length_pos (vs : List Value) : 0 < (afterElement vs).length := by
  cases vs <;> simp [afterElement]

theorem afterElement_endsNumber (vs : List Value) (rest : List Char) :
    EndsNumber (afterElement vs ++ rest) := by
  cases vs <;> exact .cons (by decide) (by decide) (by decide) (by decide) _

theorem moreElements_write (h : ∀ v ∈ vs, v.Returns depth) (ha : 2 * (afterElement vs).length ≤ a)
    (rest : List Char) : moreElements depth a (afterElement vs ++ rest) = .ok (vs, rest) := by
  induction vs generalizing a with
  | nil =>
    cases a with
    | zero => simp [afterElement] at ha
    | succ a => simp [afterElement, moreElements, skipSpace_cons, isSpace]
  | cons v vs ih =>
    have hv := h v (by simp)
    have hpos := hv.length_pos
    simp only [afterElement_cons, List.length_cons, List.length_append] at ha
    cases a with
    | zero => omega
    | succ a =>
      have hread := hv.reads a _ (afterElement_endsNumber vs rest) (by omega)
      have hmore := ih (a := a) (fun w hw => h w (by simp [hw])) (by omega)
      simp [afterElement_cons, moreElements, skipSpace_cons, isSpace, hread, hmore, Except.map]

theorem elements_write (h : ∀ v ∈ vs, v.Returns depth) (ha : 2 * (writeElements vs).length ≤ a)
    (rest : List Char) : elements depth a (writeElements vs ++ rest) = .ok (vs, rest) := by
  cases vs with
  | nil =>
    cases a with
    | zero => simp [writeElements] at ha
    | succ a => simp [writeElements, elements, skipSpace_cons, isSpace]
  | cons v vs =>
    have hv := h v (by simp)
    have hpos := hv.length_pos
    have hafter := afterElement_length_pos vs
    simp only [writeElements_cons, List.length_append] at ha
    obtain ⟨c, cs, hcs, hspace, hbracket⟩ := hv.opens
    cases a with
    | zero => omega
    | succ a =>
      have hread := hv.reads a _ (afterElement_endsNumber vs rest) (by omega)
      have hmore : moreElements depth a (afterElement vs ++ rest) = .ok (vs, rest) :=
        moreElements_write (fun w hw => h w (by simp [hw])) (by omega) rest
      simp only [hcs, List.cons_append] at hread
      simp [writeElements_cons, hcs, elements, skipSpace_cons hspace, hbracket, hread, hmore,
        Except.map]

theorem returns_array (h : ∀ v ∈ vs, v.Returns depth) : (Value.array vs).Returns (depth + 1) := by
  refine ⟨⟨'[', _, by rw [Value.write], rfl, by decide⟩, ?_⟩
  intro allowance rest _ ha
  simp only [Value.write, List.length_cons] at ha
  cases allowance with
  | zero => omega
  | succ a =>
    have hread := elements_write (a := a) h (by omega) rest
    simp [Value.write, value, skipSpace_cons, isSpace, opensNumber, hread, Except.map]

/-! ## Objects -/

/-- What is written after a field of an object. -/
def afterField : Fields → List Char
  | [] => ['\x7d']
  | fields => ',' :: writeFields fields

theorem writeFields_cons (name : String) (v : Value) (fields : Fields) :
    writeFields ((name, v) :: fields) = quote name ++ ':' :: (v.write ++ afterField fields) := by
  cases fields <;> simp [writeFields, writeField, afterField]

theorem afterField_cons (name : String) (v : Value) (fields : Fields) :
    afterField ((name, v) :: fields) = ',' :: writeFields ((name, v) :: fields) := by
  rw [afterField]
  simp

theorem afterField_endsNumber (fields : Fields) (rest : List Char) :
    EndsNumber (afterField fields ++ rest) := by
  cases fields <;> exact .cons (by decide) (by decide) (by decide) (by decide) _

theorem two_le_length_quote (s : String) : 2 ≤ (quote s).length := by
  simp [quote]

/-- A field is read from after the quote of its name, and then those behind it. -/
theorem member_write (before : Fields) (hv : v.Returns depth)
    (hmore : moreMembers depth a (before ++ [(name, v)]) (afterField fields ++ rest) =
      .ok (before ++ (name, v) :: fields, rest))
    (ho : IsOrdered (before ++ [(name, v)])) (ha : 2 * v.write.length ≤ a) :
    ∃ inside, writeFields ((name, v) :: fields) ++ rest = '"' :: inside ∧
      member depth (a + 1) before inside = .ok (before ++ (name, v) :: fields, rest) := by
  obtain ⟨inside, hinside, htext⟩ :=
    text_quote name (':' :: (v.write ++ (afterField fields ++ rest)))
  have hread := hv.reads a _ (afterField_endsNumber fields rest) ha
  refine ⟨inside, ?_, ?_⟩
  · rw [← hinside]
    simp [writeFields_cons]
  · simp [member, htext, skipSpace_cons, isSpace, hread, setField_eq_append ho, hmore]

theorem moreMembers_write (h : ∀ field ∈ fields, field.2.Returns depth)
    (ho : IsOrdered (before ++ fields)) (ha : 2 * (afterField fields).length ≤ a)
    (rest : List Char) :
    moreMembers depth a before (afterField fields ++ rest) = .ok (before ++ fields, rest) := by
  induction fields generalizing a before with
  | nil =>
    cases a with
    | zero => simp [afterField] at ha
    | succ a => simp [afterField, moreMembers, skipSpace_cons, isSpace]
  | cons field fields ih =>
    obtain ⟨name, v⟩ := field
    have hv : v.Returns depth := h (name, v) (by simp)
    have hname := two_le_length_quote name
    simp only [afterField_cons, writeFields_cons, List.length_cons, List.length_append] at ha
    have hall : IsOrdered (before ++ [(name, v)] ++ fields) := by simpa using ho
    obtain ⟨b, rfl⟩ : ∃ b, a = b + 2 := ⟨a - 2, by omega⟩
    have hmore := ih (a := b) (fun w hw => h w (by simp [hw])) hall (by omega)
    rw [List.append_assoc, List.singleton_append] at hmore
    obtain ⟨inside, hinside, hmember⟩ :=
      member_write before hv hmore (List.pairwise_append.1 hall).1 (by omega)
    simp [afterField_cons, hinside, moreMembers, skipSpace_cons, isSpace, hmember]

theorem members_write (h : ∀ field ∈ fields, field.2.Returns depth) (ho : IsOrdered fields)
    (ha : 2 * (writeFields fields).length ≤ a) (rest : List Char) :
    members depth a [] (writeFields fields ++ rest) = .ok (fields, rest) := by
  cases fields with
  | nil =>
    cases a with
    | zero => simp [writeFields] at ha
    | succ a => simp [writeFields, members, skipSpace_cons, isSpace]
  | cons field fields =>
    obtain ⟨name, v⟩ := field
    have hv : v.Returns depth := h (name, v) (by simp)
    have hname := two_le_length_quote name
    simp only [writeFields_cons, List.length_cons, List.length_append] at ha
    obtain ⟨b, rfl⟩ : ∃ b, a = b + 2 := ⟨a - 2, by omega⟩
    have hmore : moreMembers depth b [(name, v)] (afterField fields ++ rest) =
        .ok ([(name, v)] ++ fields, rest) :=
      moreMembers_write (fun w hw => h w (by simp [hw])) ho (by omega) rest
    obtain ⟨inside, hinside, hmember⟩ :=
      member_write [] hv hmore (List.pairwise_singleton _ _) (by omega)
    simpa [hinside, members, skipSpace_cons, isSpace] using hmember

theorem returns_object (h : ∀ field ∈ fields, field.2.Returns depth) (ho : IsOrdered fields) :
    (Value.object fields).Returns (depth + 1) := by
  refine ⟨⟨'\x7b', _, by rw [Value.write], rfl, by decide⟩, ?_⟩
  intro allowance rest _ ha
  simp only [Value.write, List.length_cons] at ha
  cases allowance with
  | zero => omega
  | succ a =>
    have hread := members_write (a := a) h ho (by omega) rest
    simp [Value.write, value, skipSpace_cons, isSpace, opensNumber, hread, Except.map]

/-! ## Values -/

theorem returns (hr : v.IsRegular depth) (hw : v.IsWhole) : v.Returns depth := by
  induction hr with
  | null depth => exact returns_null depth
  | boolean depth b => exact returns_boolean depth b
  | number depth n =>
    cases hw with
    | number h => exact returns_number depth h
  | text depth s => exact returns_text depth s
  | array h ih =>
    cases hw with
    | array hw => exact returns_array fun v hv => ih v hv (hw v hv)
  | object ho h ih =>
    cases hw with
    | object hw => exact returns_object (fun field hf => ih field hf (hw field hf)) ho

/-- The text of a value holds that value. -/
theorem read_toText (hr : v.IsRegular maxDepth) (hw : v.IsWhole) : read v.toText = .ok v := by
  have hread := (returns hr hw).reads (allowance v.write) [] .nil (by unfold allowance; omega)
  simp only [List.append_nil] at hread
  simp [read, Value.toText, hread, whole, skipSpace]

end Gazetteer.Json
