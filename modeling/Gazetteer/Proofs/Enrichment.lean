/-
Gazetteer.Proofs.Enrichment — an event comes back as it was, with its place.

A line that holds an object is answered with the text of an object. Read again,
that text has every field of the event but the country and the city, and these are
of the location that was answered for its address, or what they were before when
it has none. The text depends on nothing but the fields that were read and on that
answer: neither on the order in which the fields were written, nor on white space,
escapes or fields that were written over.
-/
import Gazetteer.Enrichment
import Gazetteer.Proofs.Json.Regular
import Gazetteer.Proofs.Json.Trimmed
import Gazetteer.Proofs.Text.Trimmed
import Gazetteer.Service
import Gazetteer.Store.Fixed

namespace Gazetteer.Enrichment

open Json (Fields Value field? setField)

variable {σ τ : Type} {ask : String → σ → Location × σ} {addressField line s : String}
  {fields others : Fields} {event : Value} {location : Location} {state : σ}

/-- A line holds an event, as it stands or trimmed. -/
def HoldsEvent (line : String) (fields : Fields) : Prop :=
  Json.read line = .ok (.object fields) ∨ Json.read (Text.trim line) = .ok (.object fields)

theorem HoldsEvent.trimmed (h : HoldsEvent line fields) :
    Json.read (Text.trim line) = .ok (.object fields) :=
  h.elim Json.read_trim id

theorem HoldsEvent.regular (h : HoldsEvent line fields) :
    (Value.object fields).IsRegular Json.maxDepth :=
  Json.read_regular h.trimmed

theorem HoldsEvent.ordered (h : HoldsEvent line fields) : Json.IsOrdered fields := by
  generalize hd : Json.maxDepth = depth
  have hregular := hd ▸ h.regular
  cases hregular with
  | object ho _ => exact ho

/-- Trimmed, it opens with a brace. -/
theorem HoldsEvent.opens (h : HoldsEvent line fields) :
    ∃ cs, Text.trimChars line.toList = '\x7b' :: cs := by
  obtain ⟨rest, hvalue, -⟩ := Json.read_eq_ok.1 h.trimmed
  obtain ⟨space, used, hline, hspace, -⟩ := Json.object_again hvalue
  rw [Text.trim_toList] at hline
  -- nothing blank is left at the head, so the brace comes first
  obtain rfl : space = [] := by
    cases space with
    | nil => rfl
    | cons c space =>
      have hblank := Json.isBlank_of_isSpace (hspace c (by simp))
      simp [Text.isBlank_head?_trimChars line.toList c (by simp [hline])] at hblank
  exact ⟨_, hline⟩

/-- A line is an event: trimmed, it opens with a brace and is read as `event`. -/
def IsEvent (line : String) (event : Value) : Prop :=
  (Text.trim line).toList.head? = some '\x7b' ∧ Json.read (Text.trim line) = .ok event

theorem IsEvent.holds (h : IsEvent line event) :
    ∃ fields, event = .object fields ∧ HoldsEvent line fields := by
  obtain ⟨hbrace, hread⟩ := h
  obtain ⟨rest, hvalue, -⟩ := Json.read_eq_ok.1 hread
  obtain ⟨cs, hcs⟩ := List.head?_eq_some_iff.1 hbrace
  rw [hcs] at hvalue
  obtain ⟨fields, rfl⟩ := Json.object_of_brace hvalue
  exact ⟨fields, rfl, .inr hread⟩

theorem HoldsEvent.isEvent (h : HoldsEvent line fields) : IsEvent line (.object fields) := by
  obtain ⟨cs, hopens⟩ := h.opens
  exact ⟨by rw [Text.trim_toList, hopens, List.head?_cons], h.trimmed⟩

/-! ## The location of an address -/

/-- The location that answers an address: the sentinel for a text that is none, else that of
whoever is asked. -/
def answerTo (ask : String → σ → Location × σ) (address : String) (state : σ) : Location :=
  if Address.kind address = .invalid then .unknown address else (ask address state).1

theorem locate_fst (ask : String → σ → Location × σ) (address : String) (state : σ) :
    (locate ask address state).1 = answerTo ask address state := by
  cases h : Address.kind address <;> simp [locate, answerTo, h]

theorem enrich_of_text (h : field? addressField fields = some (.text s)) :
    (enrich addressField ask (.object fields) state).1 =
      place (answerTo ask (Text.trim s) state) (.object fields) := by
  simp [enrich, addressIn?, h, ← locate_fst]

theorem enrich_of_other (h : ∀ s, field? addressField fields ≠ some (.text s)) :
    (enrich addressField ask (.object fields) state).1 = .object fields := by
  simp [enrich, addressIn?]

/-! ## Fields written into an event -/

/-- The fields of an event with the country and the city of a location. -/
def placed (location : Location) (fields : Fields) : Fields :=
  setField "city" (.text location.region) (setField "country" (.text location.country) fields)

theorem place_object (location : Location) (fields : Fields) :
    place location (.object fields) = .object (placed location fields) := rfl

theorem field?_placed_country : field? "country" (placed location fields) =
    some (.text location.country) := by
  rw [placed, Json.field?_setField_of_ne (by decide), Json.field?_setField_self]

theorem field?_placed_city : field? "city" (placed location fields) =
    some (.text location.region) := by
  rw [placed, Json.field?_setField_self]

theorem field?_placed_of_ne {name : String} (hcountry : name ≠ "country") (hcity : name ≠ "city") :
    field? name (placed location fields) = field? name fields := by
  rw [placed, Json.field?_setField_of_ne hcity, Json.field?_setField_of_ne hcountry]

theorem placed_regular (h : (Value.object fields).IsRegular Json.maxDepth) :
    (Value.object (placed location fields)).IsRegular Json.maxDepth := by
  generalize Json.maxDepth = depth at *
  cases h with
  | object ho h =>
    have hfields : Json.AreRegular _ fields := ⟨ho, h⟩
    have hplaced := (hfields.setField (.text _ location.country) "country").setField
      (.text _ location.region) "city"
    exact .object hplaced.ordered hplaced.regular

theorem placed_whole (h : (Value.object fields).IsWhole) :
    (Value.object (placed location fields)).IsWhole := by
  cases h with
  | object h =>
    refine .object ?_
    intro field hm
    rcases Json.mem_setField hm with rfl | hm
    · exact .text _
    rcases Json.mem_setField hm with rfl | hm
    · exact .text _
    · exact h field hm

/-! ## The answer to an event -/

theorem answer_event (h : HoldsEvent line fields) :
    (answer addressField ask line state).1 =
      some (enrich addressField ask (.object fields) state).1.write := by
  have hread := h.trimmed
  obtain ⟨cs, hline⟩ := h.opens
  unfold answer
  rw [Text.trim] at hread
  simp only [hline] at hread ⊢
  rw [hread]

/-- The text that answers an event holds the event. -/
theorem read_answer (ask : String → σ → Location × σ) (addressField : String) (state : σ)
    (h : HoldsEvent line fields) (hwhole : (Value.object fields).IsWhole) :
    ∃ text, (answer addressField ask line state).1 = some text ∧
      Json.read (String.ofList text) =
        .ok (enrich addressField ask (.object fields) state).1 := by
  refine ⟨_, answer_event h, ?_⟩
  by_cases hs : ∃ s, field? addressField fields = some (.text s)
  · obtain ⟨s, hs⟩ := hs
    rw [enrich_of_text hs, place_object]
    exact Json.read_toText (placed_regular h.regular) (placed_whole hwhole)
  · rw [enrich_of_other fun s htext => hs ⟨s, htext⟩]
    exact Json.read_toText h.regular hwhole

/-! ## Equal events -/

/-- Two ways to answer the address of an event name the same country and region. -/
def AgreeOn (addressField : String) (fields : Fields) (answers others : String → Location) :
    Prop :=
  ∀ s, field? addressField fields = some (.text s) →
    (others (Text.trim s)).country = (answers (Text.trim s)).country ∧
    (others (Text.trim s)).region = (answers (Text.trim s)).region

theorem placed_congr {other : Location} (hcountry : other.country = location.country)
    (hregion : other.region = location.region) : placed other fields = placed location fields := by
  rw [placed, hcountry, hregion, placed]

theorem enrich_congr {ask' : String → τ → Location × τ} {state' : τ}
    (h : AgreeOn addressField fields (answerTo ask · state) (answerTo ask' · state')) :
    (enrich addressField ask' (.object fields) state').1 =
      (enrich addressField ask (.object fields) state).1 := by
  by_cases hs : ∃ s, field? addressField fields = some (.text s)
  · obtain ⟨s, hs⟩ := hs
    obtain ⟨hcountry, hregion⟩ := h s hs
    rw [enrich_of_text hs, enrich_of_text hs, place_object, place_object,
      placed_congr hcountry hregion]
  · have hnone := fun s htext => hs ⟨s, htext⟩
    rw [enrich_of_other hnone, enrich_of_other hnone]

/-- Lines that hold the same fields and whose address has the same answer are answered alike. -/
theorem answer_congr {ask' : String → τ → Location × τ} {state' : τ} {other : String}
    (h : HoldsEvent line fields) (ho : HoldsEvent other others)
    (hsame : ∀ name, field? name others = field? name fields)
    (hagree : AgreeOn addressField fields (answerTo ask · state) (answerTo ask' · state')) :
    (answer addressField ask' other state').1 = (answer addressField ask line state).1 := by
  obtain rfl := ho.ordered.ext h.ordered hsame
  rw [answer_event ho, enrich_congr hagree, answer_event h]

/-- **An event survives its enrichment.** A line that holds an object whose numbers are whole is
answered, and the answer holds the object. Only the country and the city may differ: they are those
of the location of the address, if the address field holds a text. Any other line with the same
fields and the same country and region for its address has the same answer, to the letter. -/
theorem event_survives (ask : String → σ → Location × σ) (addressField : String) (state : σ)
    (h : HoldsEvent line fields) (hwhole : (Value.object fields).IsWhole) :
    ∃ text fields', (answer addressField ask line state).1 = some text ∧
      Json.read (String.ofList text) = .ok (.object fields') ∧
      (∀ name, name ≠ "country" → name ≠ "city" → field? name fields' = field? name fields) ∧
      (∀ s, field? addressField fields = some (.text s) →
        field? "country" fields' = some (.text (answerTo ask (Text.trim s) state).country) ∧
        field? "city" fields' = some (.text (answerTo ask (Text.trim s) state).region)) ∧
      ((∀ s, field? addressField fields ≠ some (.text s)) → fields' = fields) ∧
      ∀ {τ : Type} (ask' : String → τ → Location × τ) (state' : τ) (other : String)
        (others : Fields), HoldsEvent other others →
        (∀ name, field? name others = field? name fields) →
        AgreeOn addressField fields (answerTo ask · state) (answerTo ask' · state') →
        (answer addressField ask' other state').1 = some text := by
  obtain ⟨text, htext, hread⟩ := read_answer ask addressField state h hwhole
  have hcanonical : ∀ {τ : Type} (ask' : String → τ → Location × τ) (state' : τ) (other : String)
      (others : Fields), HoldsEvent other others →
      (∀ name, field? name others = field? name fields) →
      AgreeOn addressField fields (answerTo ask · state) (answerTo ask' · state') →
      (answer addressField ask' other state').1 = some text := by
    intro τ ask' state' other others hothers hsame hagree
    rw [answer_congr h hothers hsame hagree, htext]
  by_cases hs : ∃ s, field? addressField fields = some (.text s)
  · obtain ⟨s, hs⟩ := hs
    rw [enrich_of_text hs, place_object] at hread
    refine ⟨text, _, htext, hread, fun name => field?_placed_of_ne, ?_, ?_, hcanonical⟩
    · intro t ht
      obtain rfl : s = t := by simpa [hs] using ht
      exact ⟨field?_placed_country, field?_placed_city⟩
    · intro hnone
      exact absurd hs (hnone s)
  · have hnone := fun s htext => hs ⟨s, htext⟩
    rw [enrich_of_other hnone] at hread
    refine ⟨text, fields, htext, hread, fun _ _ _ => rfl, ?_, fun _ => rfl, hcanonical⟩
    intro s htext
    exact absurd htext (hnone s)

/-- A service without a cache in front of a store that knows one address. -/
def californian (address : String) (state : Service × Store.Fixed) :
    Location × Service × Store.Fixed :=
  state.1.resolve (fun address store => store.resolve address) address state.2

def californianState : Service × Store.Fixed :=
  (⟨none, {}⟩,
    .ofAnswers [("8.8.8.8", ⟨⟨"United States", "California", "8.8.8.8"⟩, .disabled⟩)])

/-- One line has white space around it, and the other does not. -/
theorem event_survives_californian :
    ∃ text fields',
      (answer "ip" californian "\x7b\"city\":null,\"ip\":\" 8.8.8.8\",\"n\":-7\x7d"
        californianState).1 = some text ∧
      Json.read (String.ofList text) = .ok (.object fields') ∧
      field? "n" fields' = some (.number (.whole (-7))) ∧
      field? "country" fields' = some (.text "United States") ∧
      field? "city" fields' = some (.text "California") ∧
      (answer "ip" californian "  \x7b\"city\":null,\"ip\":\" 8.8.8.8\",\"n\":-7\x7d \t"
        californianState).1 = some text := by
  let fields : Fields :=
    [("city", .null), ("ip", .text " 8.8.8.8"), ("n", .number (.whole (-7)))]
  have hwhole : (Value.object fields).IsWhole := by
    refine .object ?_
    simp only [fields, List.forall_mem_cons, List.not_mem_nil, false_implies, implies_true,
      and_true]
    exact ⟨.null, .text _, .number ⟨by decide, by decide⟩⟩
  have hregular : (Value.object fields).IsRegular Json.maxDepth := by
    refine .object ?_ ?_
    · unfold Json.IsOrdered
      decide
    · simp only [fields, List.forall_mem_cons, List.not_mem_nil, false_implies, implies_true,
        and_true]
      exact ⟨.null _, .text _ _, .number _ _⟩
  have htext : (Value.object fields).toText =
      "\x7b\"city\":null,\"ip\":\" 8.8.8.8\",\"n\":-7\x7d" := by
    decide +kernel
  have hread := htext ▸ Json.read_toText hregular hwhole
  have htrim : Text.trim "  \x7b\"city\":null,\"ip\":\" 8.8.8.8\",\"n\":-7\x7d \t" =
      "\x7b\"city\":null,\"ip\":\" 8.8.8.8\",\"n\":-7\x7d" := by
    decide +kernel
  have hplace : answerTo californian (Text.trim " 8.8.8.8") californianState =
      ⟨"United States", "California", "8.8.8.8"⟩ := by
    decide +kernel
  obtain ⟨text, fields', hanswer, hagain, hothers, hplaced, -, hcanonical⟩ :=
    event_survives californian "ip" californianState (.inl hread) hwhole
  obtain ⟨hcountry, hcity⟩ := hplaced " 8.8.8.8" rfl
  rw [hplace] at hcountry hcity
  refine ⟨text, fields', hanswer, hagain, ?_, hcountry, hcity, ?_⟩
  · rw [hothers "n" (by decide) (by decide)]
    rfl
  · exact hcanonical californian californianState _ fields (.inr (htrim ▸ hread)) (fun _ => rfl)
      (fun _ _ => ⟨rfl, rfl⟩)

end Gazetteer.Enrichment
