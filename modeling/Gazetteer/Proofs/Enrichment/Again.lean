/-
Gazetteer.Proofs.Enrichment.Again — an event that has its place already.

The answer to an event is an event again, with the address it had. Given to a
service whose locations depend on the text alone, it gets the country and the city
that are already in it, so it comes back to the letter. What a run has written about
some events, a second run writes again.
-/
import Gazetteer.Proofs.CommandLine.Answers
import Gazetteer.Proofs.Enrichment

namespace Gazetteer.Enrichment

open CommandLine (DependsOnText Steady answerAll batches)
open Json (Fields Value field? setField)

variable {σ : Type} {ask : String → σ → Location × σ} {locationOf : String → Location}
  {good : σ → Prop} {addressField line : String} {fields : Fields} {event : Value}
  {location : Location} {state later : σ}

/-- The country and the city are written over by the same. -/
theorem placed_placed (h : Json.IsOrdered fields) :
    placed location (placed location fields) = placed location fields := by
  have hordered : ∀ {fields}, Json.IsOrdered fields → Json.IsOrdered (placed location fields) :=
    fun ho => (ho.setField _ _).setField _ _
  refine (hordered (hordered h)).ext (hordered h) ?_
  intro name
  rcases Decidable.em (name = "city") with rfl | hcity
  · rw [field?_placed_city, field?_placed_city]
  rcases Decidable.em (name = "country") with rfl | hcountry
  · rw [field?_placed_country, field?_placed_country]
  · exact field?_placed_of_ne hcountry hcity

/-- An event whose numbers are whole is one after its enrichment. -/
theorem enrich_whole (ask : String → σ → Location × σ) (addressField : String) (state : σ)
    (h : (Value.object fields).IsWhole) :
    ∃ fields', (enrich addressField ask (.object fields) state).1 = .object fields' ∧
      (Value.object fields').IsWhole := by
  unfold enrich
  split
  · exact ⟨fields, rfl, h⟩
  · exact ⟨_, place_object _ fields, placed_whole h⟩

theorem answerTo_congr (ha : DependsOnText ask locationOf good) (hs : good state)
    (hl : good later) (address : String) :
    answerTo ask address later = answerTo ask address state := by
  rw [answerTo, answerTo, (ha address later hl).1, (ha address state hs).1]

/-- An enriched event keeps its address, and the location of that address is in it. -/
theorem enrich_enrich (ha : DependsOnText ask locationOf good) (hs : good state)
    (hl : good later) (hcountry : addressField ≠ "country") (hcity : addressField ≠ "city")
    (ho : Json.IsOrdered fields) :
    (enrich addressField ask (enrich addressField ask (.object fields) state).1 later).1 =
      (enrich addressField ask (.object fields) state).1 := by
  by_cases htext : ∃ s, field? addressField fields = some (.text s)
  · obtain ⟨s, hfield⟩ := htext
    have hkept : field? addressField (placed (answerTo ask (Text.trim s) state) fields) =
        some (.text s) := (field?_placed_of_ne hcountry hcity).trans hfield
    rw [enrich_of_text hfield, place_object, enrich_of_text hkept, place_object,
      answerTo_congr ha hs hl, placed_placed ho]
  · have hnone := fun s hfield => htext ⟨s, hfield⟩
    rw [enrich_of_other hnone, enrich_of_other hnone]

/-- The answer to an event is an event and its own answer. -/
theorem answer_again (ha : DependsOnText ask locationOf good) (hs : good state)
    (hcountry : addressField ≠ "country") (hcity : addressField ≠ "city")
    (h : HoldsEvent line fields) (hwhole : (Value.object fields).IsWhole) :
    ∃ text fields', (answer addressField ask line state).1 = some text ∧
      HoldsEvent (String.ofList text) fields' ∧ (Value.object fields').IsWhole ∧
      ∀ later, good later → (answer addressField ask (String.ofList text) later).1 = some text := by
  obtain ⟨text, htext, hread⟩ := read_answer ask addressField state h hwhole
  obtain ⟨fields', hfields, hwhole'⟩ := enrich_whole ask addressField state hwhole
  have hagain : HoldsEvent (String.ofList text) fields' := .inl (hread.trans (hfields ▸ rfl))
  refine ⟨text, fields', htext, hagain, hwhole', ?_⟩
  intro later hl
  rw [answer_event hagain, ← hfields, enrich_enrich ha hs hl hcountry hcity h.ordered,
    ← answer_event h, htext]

/-- If the answer to every line is its own answer, so are all of them together. -/
theorem filterMap_again {truly : String → Option (List Char)} {lines : List String}
    (h : ∀ line ∈ lines, ∃ text, truly line = some text ∧ truly (String.ofList text) = some text) :
    (lines.filterMap truly).length = lines.length ∧
      ((lines.filterMap truly).map String.ofList).filterMap truly = lines.filterMap truly := by
  induction lines with
  | nil => exact ⟨rfl, rfl⟩
  | cons line lines ih =>
    obtain ⟨text, hline, hagain⟩ := h line (by simp)
    obtain ⟨hlength, hothers⟩ := ih fun other hm => h other (by simp [hm])
    simp [hline, hagain, hlength, hothers]

/-- What a run has written about some events, a second run writes again, whatever the batches. -/
theorem answerAll_again (ha : DependsOnText ask locationOf good) (hs : good state)
    (hl : good later) (hcountry : addressField ≠ "country") (hcity : addressField ≠ "city")
    (workers workers' : Nat) {lines : List String}
    (h : ∀ line ∈ lines, ∃ event, IsEvent line event ∧ event.IsWhole) :
    let texts := (answerAll (answer addressField ask) (batches workers [] lines) state).1
    texts.length = lines.length ∧
      (answerAll (answer addressField ask) (batches workers' [] (texts.map String.ofList)) later).1 =
        texts := by
  intro texts
  have hsteady := ha.steady addressField
  have htexts : texts = lines.filterMap _ :=
    (hsteady.answerAll hs _).trans (by rw [CommandLine.flatten_batches, List.nil_append])
  have hsecond := hsteady.answerAll hl (batches workers' [] (texts.map String.ofList))
  rw [CommandLine.flatten_batches, List.nil_append] at hsecond
  rw [hsecond, htexts]
  refine filterMap_again ?_
  intro line hm
  obtain ⟨event, hevent, hwhole⟩ := h line hm
  obtain ⟨fields, rfl, hholds⟩ := hevent.holds
  obtain ⟨text, -, hfirst, -, -, hagain⟩ := answer_again ha hs hcountry hcity hholds hwhole
  exact ⟨text, (hsteady line state hs).1.symm.trans hfirst,
    (hsteady _ later hl).1.symm.trans (hagain later hl)⟩

/-- **Enriching twice changes nothing.** Take a service whose locations depend on the text that is
asked for alone as long as its state is good, and an address field that is neither the country nor
the city. A line that is an event with whole numbers has an answer. That answer is such an event
too, and whenever it is the line to be answered, now or after any other lines, the answer is the
line itself, to the letter. -/
theorem enriched_event_stays (ha : DependsOnText ask locationOf good) (hs : good state)
    (hcountry : addressField ≠ "country") (hcity : addressField ≠ "city")
    (hevent : IsEvent line event) (hwhole : event.IsWhole) :
    ∃ text event', (answer addressField ask line state).1 = some text ∧
      good (answer addressField ask line state).2 ∧
      IsEvent (String.ofList text) event' ∧ event'.IsWhole ∧
      ∀ later, good later →
        (answer addressField ask (String.ofList text) later).1 = some text ∧
        good (answer addressField ask (String.ofList text) later).2 := by
  obtain ⟨fields, rfl, hholds⟩ := hevent.holds
  have hsteady := ha.steady addressField
  obtain ⟨text, fields', htext, hholds', hwhole', hagain⟩ :=
    answer_again ha hs hcountry hcity hholds hwhole
  refine ⟨text, _, htext, (hsteady line state hs).2, hholds'.isEvent, hwhole', ?_⟩
  intro later hl
  exact ⟨hagain later hl, (hsteady _ later hl).2⟩

/-- A service that keeps one location, in front of a store that knows one address: the second time
the location comes from the store again, since another address has been asked for in between. -/
theorem enriched_event_stays_californian :
    let answers :=
      [("8.8.8.8", (⟨⟨"United States", "California", "8.8.8.8"⟩, .disabled⟩ : Resolved))]
    let ask := CommandLine.serve fun address (store : Store.Fixed) => store.resolve address
    let start : Service × Store.Fixed := (⟨some (.empty 1), {}⟩, .ofAnswers answers)
    let first := answer "ip" ask " \x7b\"city\":\"?\",\"ip\":\"8.8.8.8 \"\x7d" start
    let other := answer "ip" ask "9.9.9.9" first.2
    ∃ text, first.1 = some text ∧
      (answer "ip" ask (String.ofList text) other.2).1 = some text := by
  intro answers ask start first other
  let locate := fun address => (answers.reverse.lookup address).map (·.location)
  let fields : Fields := [("city", .text "?"), ("ip", .text "8.8.8.8 ")]
  have hwhole : (Value.object fields).IsWhole := by
    refine .object ?_
    simp only [fields, List.forall_mem_cons, List.not_mem_nil, false_implies, implies_true,
      and_true]
    exact ⟨.text _, .text _⟩
  have hregular : (Value.object fields).IsRegular Json.maxDepth := by
    refine .object (by unfold Json.IsOrdered; decide) ?_
    simp only [fields, List.forall_mem_cons, List.not_mem_nil, false_implies, implies_true,
      and_true]
    exact ⟨.text _ _, .text _ _⟩
  have htext : (Value.object fields).toText =
      Text.trim " \x7b\"city\":\"?\",\"ip\":\"8.8.8.8 \"\x7d" := by
    decide +kernel
  have hevent : IsEvent " \x7b\"city\":\"?\",\"ip\":\"8.8.8.8 \"\x7d" (.object fields) :=
    HoldsEvent.isEvent (.inr (htext ▸ Json.read_toText hregular hwhole))
  have hfaithful : CommandLine.Faithful (fun address (store : Store.Fixed) => store.resolve address)
      locate (·.answers = answers) := by
    intro address store hstore
    exact ⟨by simp [Store.Fixed.resolve, locate, hstore], hstore⟩
  have hs : Service.IsSound locate 1 start.1 ∧ start.2.answers = answers :=
    ⟨CommandLine.isSound_created (show Service.create 1 true = .ok start.1 from rfl), rfl⟩
  have ha := CommandLine.dependsOnText_serve hfaithful 1
  obtain ⟨text, -, htext, hgood, -, -, hagain⟩ :=
    enriched_event_stays ha hs (show "ip" ≠ "country" by decide) (by decide) hevent hwhole
  exact ⟨text, htext, (hagain other.2 (ha.steady "ip" "9.9.9.9" first.2 hgood).2).1⟩

end Gazetteer.Enrichment
