/-
Gazetteer.Proofs.Json.Location — a location is read back from every text of it.

A text of a location is an object that has the three fields in any order, each once,
among fields of other names that hold anything; or an array of the three texts. Names
and texts may be spelled in any way, and white space may stand between any two tokens.
The reader keeps the fields that it has met, reads over the others, and is left with the
location. What is written for a location is one of its texts, so no two locations are
written alike.
-/
import Gazetteer.Json.Location
import Gazetteer.Proofs.Json.Grammar

namespace Gazetteer.Json

variable {l : Location} {field : LocationField} {fields : List LocationField}
  {parts : LocationParts} {isNext : Bool} {gap name colon text cs rest space : List Char}

/-! ## The texts of a location -/

/-- The text of a field. -/
def LocationField.of (l : Location) : LocationField → String
  | country => l.country
  | region => l.region
  | address => l.address

/-- Objects from inside that have the listed fields in the order of the list, among others. -/
inductive HasFields (l : Location) : (isNext : Bool) → List LocationField → List Char → Prop where
  | done {isNext : Bool} {space : List Char} (h : IsSpace space) :
      HasFields l isNext [] (space ++ ['\x7d'])
  | field {isNext : Bool} {field : LocationField} {fields : List LocationField}
      {gap name colon text rest : List Char} (hgap : IsGap isNext gap)
      (hname : Spells field.name.toList name) (hcolon : IsColon colon)
      (htext : Spells (field.of l).toList text) (hrest : HasFields l true fields rest) :
      HasFields l isNext (field :: fields)
        (gap ++ '"' :: (name ++ '"' :: (colon ++ '"' :: (text ++ '"' :: rest))))
  | other {isNext : Bool} {fields : List LocationField} {s : String}
      {gap name colon value rest : List Char} (hgap : IsGap isNext gap)
      (hname : Spells s.toList name) (hother : ∀ field : LocationField, s ≠ field.name)
      (hcolon : IsColon colon) (hvalue : Phrase.value.Derives value)
      (hrest : HasFields l true fields rest) :
      HasFields l isNext fields (gap ++ '"' :: (name ++ '"' :: (colon ++ (value ++ rest))))

/-- The JSON texts of a location. -/
inductive IsTextOf (l : Location) : List Char → Prop where
  | object {fields : List LocationField} {before inside after : List Char} (hb : IsSpace before)
      (order : fields.Perm [.country, .region, .address]) (h : HasFields l false fields inside)
      (ha : IsSpace after) : IsTextOf l (before ++ '\x7b' :: (inside ++ after))
  | array {before first second third country region address space after : List Char}
      (hb : IsSpace before) (hfirst : IsGap false first)
      (hcountry : Spells l.country.toList country) (hsecond : IsGap true second)
      (hregion : Spells l.region.toList region) (hthird : IsGap true third)
      (haddress : Spells l.address.toList address)
      (hs : IsSpace space) (ha : IsSpace after) :
      IsTextOf l (before ++ '[' :: (first ++ '"' :: (country ++ '"' :: (second ++
        '"' :: (region ++ '"' :: (third ++ '"' :: (address ++ '"' :: (space ++ ']' :: after))))))))

/-! ## One field -/

theorem ofName?_name (field : LocationField) : LocationField.ofName? field.name = some field := by
  cases field <;> decide

theorem ofName?_other {s : String} (h : ∀ field : LocationField, s ≠ field.name) :
    LocationField.ofName? s = none := by
  unfold LocationField.ofName?
  rw [List.find?_eq_none]
  intro field _
  simpa using (h field).symm

theorem afterColon_colon (h : IsColon colon) (cs : List Char) :
    ∃ after, IsSpace after ∧ after.length ≤ colon.length ∧
      afterColon (colon ++ cs) = .ok (after ++ cs) := by
  obtain ⟨before, after, hb, ha, rfl⟩ := h
  refine ⟨after, ha, by simp; omega, ?_⟩
  have hmark := skipSpace_mark hb (by decide : ':' ∈ marks) (after ++ cs)
  simp [afterColon, hmark]

theorem textValue_spells {s : String} (hs : IsSpace space) (h : Spells s.toList text)
    (rest : List Char) : textValue (space ++ '"' :: (text ++ '"' :: rest)) = .ok (s, rest) := by
  have hskip : skipSpace (space ++ '"' :: (text ++ '"' :: rest)) =
      '"' :: (text ++ '"' :: rest) := by
    rw [skipSpace_append hs, skipSpace_cons (by decide)]
  simp only [textValue, hskip, h.text]

/-- A field that has not been met yet is kept. -/
theorem locationMember_field {s : String} (hname : Spells field.name.toList name)
    (hcolon : IsColon colon) (htext : Spells s.toList text) (hnew : parts.get field = none)
    (rest : List Char) :
    locationMember parts (name ++ '"' :: (colon ++ '"' :: (text ++ '"' :: rest))) =
      .ok (parts.set s field, rest) := by
  obtain ⟨after, hafter, -, hpast⟩ := afterColon_colon hcolon ('"' :: (text ++ '"' :: rest))
  have hread := textValue_spells hafter htext rest
  unfold locationMember
  simp only [hname.text, ofName?_name, hnew, hpast, hread, bind, Except.bind]
  rfl

/-- A field of another name is read over. -/
theorem locationMember_other (parts : LocationParts) {s : String} {value : List Char}
    (hname : Spells s.toList name) (hother : ∀ field : LocationField, s ≠ field.name)
    (hcolon : IsColon colon) (hvalue : Phrase.value.Derives value) (hrest : EndsNumber rest) :
    locationMember parts (name ++ '"' :: (colon ++ (value ++ rest))) = .ok (parts, rest) := by
  obtain ⟨after, hafter, -, hpast⟩ := afterColon_colon hcolon (value ++ rest)
  have hskip := hvalue.skipValue (a := allowance (after ++ (value ++ rest))) hafter
    (by simp only [allowance, List.length_append]; omega) hrest
  unfold locationMember
  simp only [hname.text, ofName?_other hother, hpast, hskip, bind, Except.bind]
  rfl

/-- Of an object from inside, a field is taken and the rest is left. -/
theorem locationMembers_member {a : Nat} {after : LocationParts} (hgap : IsGap isNext gap)
    (h : locationMember parts cs = .ok (after, rest)) :
    locationMembers (a + 1) isNext parts (gap ++ '"' :: cs) =
      locationMembers a true after rest := by
  obtain ⟨c, behind, space, hfirst, hclose, hcomma, hs, hbehind⟩ := hgap.opens cs
    (by decide : isSpace '"' = false) (by decide : '"' ≠ '\x7d') (by decide)
  have hquote : skipSpace (if isNext then behind else c :: behind) = '"' :: cs := by
    rw [hbehind, skipSpace_append hs, skipSpace_cons (by decide)]
  simp only [locationMembers, hfirst, if_neg hclose, hcomma, hquote, h]
  rfl

/-! ## All fields -/

/-- The parts of a location but for the listed fields. -/
def LocationParts.without (l : Location) (fields : List LocationField) : LocationParts where
  country := if .country ∈ fields then .none else some l.country
  region := if .region ∈ fields then .none else some l.region
  address := if .address ∈ fields then .none else some l.address

theorem get_without (h : field ∈ fields) : (LocationParts.without l fields).get field = none := by
  cases field <;> simp [LocationParts.without, LocationParts.get, h]

theorem set_without (h : field ∉ fields) :
    (LocationParts.without l (field :: fields)).set (field.of l) field =
      LocationParts.without l fields := by
  cases field <;> simp [LocationParts.without, LocationParts.set, LocationField.of, h]

theorem complete_without : (LocationParts.without l []).complete = .ok l := rfl

theorem without_all (h : fields.Perm [.country, .region, .address]) :
    LocationParts.without l fields = .none := by
  simp [LocationParts.without, LocationParts.none, h.mem_iff]

theorem HasFields.endsNumber (h : HasFields l true fields cs) (tail : List Char) :
    EndsNumber (cs ++ tail) := by
  cases h with
  | done hs =>
    rw [List.append_assoc]
    exact endsNumber_mark hs (by decide) _
  | field hgap | other hgap =>
    rw [List.append_assoc]
    exact hgap.endsNumber _

/-- With the listed fields still to come, an object from inside is read as the location. -/
theorem HasFields.members {a : Nat} (h : HasFields l isNext fields cs) (hnodup : fields.Nodup)
    (ha : cs.length ≤ a) (tail : List Char) :
    locationMembers a isNext (.without l fields) (cs ++ tail) = .ok (l, tail) := by
  -- along the object: the parts lack the fields that are still to come, and no others
  induction h generalizing a with
  | @done isNext space hs =>
    obtain ⟨a, rfl⟩ := Nat.exists_eq_add_one.mpr (show 0 < a by simp at ha; omega)
    have hend := skipSpace_mark hs (by decide : '\x7d' ∈ marks) tail
    simp [locationMembers, hend, complete_without, Except.map]
  | @field isNext field fields gap name colon text rest hgap hname hcolon htext _ ih =>
    -- no field comes twice, so that the parts lack it before it is met and hold it afterwards
    obtain ⟨hnew, hnodup⟩ := List.nodup_cons.mp hnodup
    simp only [List.length_append, List.length_cons] at ha
    obtain ⟨a, rfl⟩ := Nat.exists_eq_add_one.mpr (show 0 < a by omega)
    have hlacks : (LocationParts.without l (field :: fields)).get field = none :=
      get_without List.mem_cons_self
    have hmember := locationMember_field hname hcolon htext hlacks (rest ++ tail)
    rw [set_without hnew] at hmember
    have hread := locationMembers_member (a := a) hgap hmember
    simp only [List.append_assoc, List.cons_append]
    rw [hread]
    exact ih hnodup (by omega)
  | @other isNext fields s gap name colon value rest hgap hname hother hcolon hvalue hrest ih =>
    simp only [List.length_append, List.length_cons] at ha
    obtain ⟨a, rfl⟩ := Nat.exists_eq_add_one.mpr (show 0 < a by omega)
    have hmember := locationMember_other (.without l fields) hname hother hcolon hvalue
      (hrest.endsNumber tail)
    have hread := locationMembers_member (a := a) hgap hmember
    simp only [List.append_assoc, List.cons_append]
    rw [hread]
    exact ih hnodup (by omega)

/-! ## Objects and arrays -/

theorem locationElement_spells {s : String} (hgap : IsGap isNext gap)
    (htext : Spells s.toList text) (rest : List Char) :
    locationElement isNext (gap ++ '"' :: (text ++ '"' :: rest)) = .ok (s, rest) := by
  obtain ⟨c, behind, after, hfirst, hclose, hcomma, hs, hbehind⟩ := hgap.opens
    (text ++ '"' :: rest) (by decide : isSpace '"' = false) (by decide : '"' ≠ ']') (by decide)
  cases isNext with
  | false =>
    have hread := textValue_spells hs htext rest
    rw [← hbehind] at hread
    simpa [locationElement, hfirst, hclose] using hread
  | true =>
    have hread := textValue_spells (by simp [IsSpace] : IsSpace []) htext rest
    have hquote : skipSpace behind = '"' :: (text ++ '"' :: rest) := by
      rw [show behind = _ from hbehind, skipSpace_append hs, skipSpace_cons (by decide)]
    have hc : (c != ',') = false := hcomma
    simpa [locationElement, hfirst, hclose, hc, hquote] using hread

theorem location_object {before : List Char} (hb : IsSpace before)
    (order : fields.Perm [.country, .region, .address]) (h : HasFields l false fields cs)
    (tail : List Char) : location (before ++ '\x7b' :: (cs ++ tail)) = .ok (l, tail) := by
  have hnodup : fields.Nodup := order.nodup_iff.mpr (by decide)
  have hopen : skipSpace (before ++ '\x7b' :: (cs ++ tail)) = '\x7b' :: (cs ++ tail) := by
    rw [skipSpace_append hb, skipSpace_cons (by decide)]
  have hread := h.members (a := allowance (before ++ '\x7b' :: (cs ++ tail))) hnodup
    (by simp [allowance]; omega) tail
  rw [without_all order] at hread
  simpa only [location, hopen] using hread

theorem whole_space {α : Type} {value : α} (hs : IsSpace space) :
    whole (.ok (value, space)) = .ok value := by
  have hend : skipSpace space = [] := by
    rw [← List.append_nil space, skipSpace_append hs]
    rfl
  simp [whole, hend]

theorem location_array {before first second third country region address : List Char}
    (hb : IsSpace before) (hfirst : IsGap false first)
    (hcountry : Spells l.country.toList country) (hsecond : IsGap true second)
    (hregion : Spells l.region.toList region) (hthird : IsGap true third)
    (haddress : Spells l.address.toList address) (hs : IsSpace space) (tail : List Char) :
    location (before ++ '[' :: (first ++ '"' :: (country ++ '"' :: (second ++
      '"' :: (region ++ '"' :: (third ++ '"' :: (address ++ '"' :: (space ++ ']' :: tail)))))))) =
        .ok (l, tail) := by
  have hend := skipSpace_mark hs (by decide : ']' ∈ marks) tail
  rw [location, skipSpace_append hb, skipSpace_cons (by decide)]
  simp only [locationElements, locationElement_spells hfirst hcountry,
    locationElement_spells hsecond hregion, locationElement_spells hthird haddress, hend, bind,
    Except.bind, if_true]
  rfl

/-- Every text of a location is read as it. -/
theorem IsTextOf.read {s : String} (h : IsTextOf l s.toList) : readLocation s = .ok l := by
  unfold readLocation
  generalize s.toList = cs at h
  cases h with
  | object hb order h ha => rw [location_object hb order h, whole_space ha]
  | array hb hfirst hcountry hsecond hregion hthird haddress hs ha =>
    rw [location_array hb hfirst hcountry hsecond hregion hthird haddress hs, whole_space ha]

/-! ## What is written -/

theorem HasFields.written (field : LocationField) (hgap : IsGap isNext gap)
    (h : HasFields l true fields rest) :
    HasFields l isNext (field :: fields)
      (gap ++ (writeField (field.name, .text (field.of l)) ++ rest)) := by
  have hcolon : IsColon [':'] := ⟨[], [], by simp [IsSpace], by simp [IsSpace], rfl⟩
  have hfield := HasFields.field hgap (spells_written field.name.toList) hcolon
    (spells_written (field.of l).toList) h
  simpa [writeField, Value.write, quote] using hfield

/-- What is written for a location is one of its texts. -/
theorem isTextOf_writeLocation (l : Location) : IsTextOf l (writeLocation l) := by
  have hspace : IsSpace [] := by simp [IsSpace]
  have hfirst : IsGap false [] := ⟨[], [], hspace, hspace, rfl⟩
  have hcomma : IsGap true [','] := ⟨[], [], hspace, hspace, rfl⟩
  have hdone : HasFields l true [] ['\x7d'] := .done hspace
  have haddress := HasFields.written .address hcomma hdone
  have hregion := HasFields.written .region hcomma haddress
  have hcountry := HasFields.written .country hfirst hregion
  have htext := IsTextOf.object hspace (.refl _) hcountry hspace
  simpa [writeLocation, LocationField.of] using htext

theorem read_writeLocation (l : Location) :
    readLocation (String.ofList (writeLocation l)) = .ok l :=
  IsTextOf.read (String.toList_ofList ▸ isTextOf_writeLocation l)

/-- A location is read back from what is written for it and from every other text of it, and no
two locations are written alike. -/
theorem location_read_back (l : Location) :
    readLocation (String.ofList (writeLocation l)) = .ok l ∧
      (∀ other, writeLocation other = writeLocation l → other = l) ∧
      IsTextOf l (writeLocation l) ∧
      ∀ s : String, IsTextOf l s.toList → readLocation s = .ok l := by
  refine ⟨read_writeLocation l, ?_, isTextOf_writeLocation l, fun s h => h.read⟩
  intro other heq
  have hother := read_writeLocation other
  rw [heq, read_writeLocation l] at hother
  exact (Except.ok.inj hother).symm

/-- The address comes first, then another field. -/
theorem location_read_back_reordered :
    let l : Location := ⟨"\"", "A\n", "😀"⟩
    let s := "\n\x7b \"ip\":\"\\ud83d\\ude00\",\"more\":[null,\x7b\"n\":-1.5e3\x7d]," ++
      "\"country\" :\"\\\"\",\"region_or_city\":\"A\\n\"\x7d "
    IsTextOf l s.toList ∧ readLocation s = .ok l := by
  intro l s
  have hspace : IsSpace [] := by simp [IsSpace]
  have hblank : IsSpace [' '] := by simp [IsSpace, isSpace]
  have hline : IsSpace ['\n'] := by simp [IsSpace, isSpace]
  have hfirst : IsGap false [' '] := ⟨[], [' '], hspace, hblank, rfl⟩
  have hinside : IsGap false [] := ⟨[], [], hspace, hspace, rfl⟩
  have hcomma : IsGap true [','] := ⟨[], [], hspace, hspace, rfl⟩
  have hcolon : IsColon [':'] := ⟨[], [], hspace, hspace, rfl⟩
  have hspaced : IsColon [' ', ':'] := ⟨[' '], [], hblank, hspace, rfl⟩
  have hone : IsDigits ['1'] := ⟨by decide, List.all_eq_true.mp rfl⟩
  have hfive : IsDigits ['5'] := ⟨by decide, List.all_eq_true.mp rfl⟩
  have hthree : IsDigits ['3'] := ⟨by decide, List.all_eq_true.mp rfl⟩
  have hfraction : IsFraction ['.', '5'] := .inr ⟨['5'], hfive, rfl⟩
  have hexponent : IsExponent ['e', '3'] :=
    .inr ⟨'e', [], ['3'], .inl rfl, .inl rfl, hthree, rfl⟩
  have hnumber : IsNumber ['-', '1', '.', '5', 'e', '3'] :=
    ⟨['-'], ['1'], _, _, .inr rfl, ⟨hone, by decide⟩, hfraction, hexponent, rfl⟩
  have hname : IsInside ['n'] := .plain (by simp [IsPlain]) .nil
  have hobject := Phrase.Derives.object
    (.member hinside hname hcolon (.number hnumber) (.noMember hspace))
  have hmore := Phrase.Derives.array
    (.element hinside .null (.element hcomma hobject (.noElement hspace)))
  have hhigh : IsUnit ['d', '8', '3', 'd'] := ⟨rfl, List.all_eq_true.mp rfl⟩
  have hlow : IsUnit ['d', 'e', '0', '0'] := ⟨rfl, List.all_eq_true.mp rfl⟩
  have hpair := Spells.pair hhigh hlow (by decide) (by decide) .nil
  rw [show paired _ _ = '😀' by decide, show ['😀'] = l.address.toList by decide] at hpair
  have hregion : HasFields l true [.region] _ :=
    .field hcomma (spells_written _) hcolon (spells_written _) (.done hspace)
  have hcountry : HasFields l true [.country, .region] _ :=
    .field hcomma (spells_written _) hspaced (spells_written _) hregion
  have hother : ∀ field : LocationField, "more" ≠ field.name := by
    intro field
    cases field <;> decide
  have hadded : HasFields l true [.country, .region] _ :=
    .other hcomma (spells_written _) hother hcolon hmore hcountry
  have haddress : HasFields l false [.address, .country, .region] _ :=
    .field hfirst (spells_written _) hcolon hpair hadded
  have htext : IsTextOf l s.toList :=
    cast (congrArg (IsTextOf l) (by decide)) (IsTextOf.object hline (by decide) haddress hblank)
  exact ⟨htext, (location_read_back l).2.2.2 s htext⟩

end Gazetteer.Json
