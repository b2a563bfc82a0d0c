/-
Gazetteer.Proofs.CommandLine.Crew — lines are answered in their order.

Many workers answer the lines of the input at once, on one service, and finish in
any order. What has been written, what the workers of the gathered lines will have
to say and the answers to the lines not read yet are at any time, one after another,
the answers to all lines. Nobody waits for ever: as long as there is a line left,
somebody's step brings its answer nearer, and no step sets it back.
-/
import Gazetteer.CommandLine.Crew
import Gazetteer.Proofs.CommandLine.Answers
import Gazetteer.Proofs.Members

namespace Gazetteer.CommandLine

open Gazetteer.Enrichment (Plan plan)
open Gazetteer.Service (IsSound truth)
open Members

variable {σ : Type} {ask : String → σ → Option Resolved × σ} {locate : String → Option Location}
  {good : σ → Prop} {size workers : Nat} {addressField : String} {service : Service} {store : σ}
  {task : Task}

/-! ## Tasks -/

/-- What a worker will have to say, if the location of every address is true. -/
def Task.answer (locate : String → Option Location) (addressField : String) :
    Task → Option (List Char)
  | spawned line => trueAnswer locate addressField line
  | asking caller finish => some (finish (truth locate caller.address))
  | done text => text

/-- What a worker has seen is true. -/
def Task.IsTrue (locate : String → Option Location) : Task → Prop
  | asking caller _ => caller.place.IsTrue locate caller.address
  | spawned _ | done _ => True

theorem Task.ofPlan_facts (locate : String → Option Location) (addressField line : String) :
    (ofPlan (plan addressField line)).answer locate addressField =
        trueAnswer locate addressField line ∧
      (ofPlan (plan addressField line)).IsTrue locate := by
  rw [trueAnswer_eq]
  cases plan addressField line with
  | done text => exact ⟨rfl, trivial⟩
  | lookUp address finish => exact ⟨rfl, trivial⟩

theorem Task.ofPlace_facts {address : String} {place : Service.Place}
    (h : place.IsTrue locate address) (addressField : String) (finish : Location → List Char) :
    (ofPlace address finish place).answer locate addressField =
        some (finish (truth locate address)) ∧
      (ofPlace address finish place).IsTrue locate := by
  cases place with
  | returned location =>
    obtain rfl : location = truth locate address := h
    exact ⟨rfl, trivial⟩
  | _ => exact ⟨rfl, h⟩

/-- A step of a request leaves the store good. -/
theorem good_step (ha : Faithful ask locate good) (hg : good store) (address : String)
    (place : Service.Place) : good (place.step ask address service store).2.2 := by
  cases place with
  | consulting =>
    rcases hcon : service.consult address with ⟨_ | location, later⟩
    · rwa [Service.step_missed hcon]
    · rwa [Service.step_found hcon]
  | asking => exact (ha address store hg).2
  | answered answer => cases answer <;> exact hg
  | _ => exact hg

/-- A step of a worker changes nothing about what it will have to say. -/
theorem Task.step_true (ha : Faithful ask locate good) (hs : IsSound locate size service)
    (hg : good store) (ht : task.IsTrue locate) (addressField : String) :
    (task.step ask addressField service store).1.answer locate addressField =
        task.answer locate addressField ∧
      (task.step ask addressField service store).1.IsTrue locate ∧
      IsSound locate size (task.step ask addressField service store).2.1 ∧
      good (task.step ask addressField service store).2.2 := by
  cases task with
  | spawned line =>
    obtain ⟨hanswer, htrue⟩ := ofPlan_facts locate addressField line
    exact ⟨hanswer, htrue, hs, hg⟩
  | asking caller finish =>
    obtain ⟨hplace, hsound⟩ := Service.isTrue_step hs (ha caller.address store hg).1 ht
    obtain ⟨hanswer, htrue⟩ := ofPlace_facts hplace addressField finish
    exact ⟨hanswer, htrue, hsound, good_step ha hg caller.address caller.place⟩
  | done text => exact ⟨rfl, trivial, hs, hg⟩

/-- After how many steps at the most a worker is through. -/
def Task.left : Task → Nat
  | spawned _ => 8
  | asking caller _ => caller.place.left + 1
  | done _ => 0

theorem Task.left_ofPlan (plan : Plan) : (ofPlan plan).left < 8 := by
  cases plan with
  | done text => exact Nat.succ_pos 7
  | lookUp address finish => exact Nat.le_refl 8

theorem Task.left_ofPlace {place : Service.Place} {n : Nat} (h : place.left ≤ n - 1)
    (address : String) (finish : Location → List Char) :
    (ofPlace address finish place).left < n + 1 := by
  cases place with
  | returned location => exact Nat.succ_pos n
  | _ =>
    simp only [ofPlace, left, Service.Place.left] at h ⊢
    omega

/-- A step brings a worker nearer to its end, if it is not there yet. -/
theorem Task.left_step (h : ∀ text, task ≠ done text) (ask : String → σ → Option Resolved × σ)
    (addressField : String) (service : Service) (store : σ) :
    (task.step ask addressField service store).1.left < task.left := by
  cases task with
  | spawned line => exact left_ofPlan (plan addressField line)
  | asking caller finish =>
    exact left_ofPlace (Service.left_step caller.place ask caller.address service store) _ _
  | done text => exact absurd rfl (h text)

namespace Crew

variable {c : Crew σ} {lines : List String} {turn : Turn}

theorem next_of_some {number : Nat} (hn : c.gathered[number]? = some task) :
    c.next workers ask addressField (.worker number) =
      { c with
        service := (task.step ask addressField c.service c.store).2.1
        store := (task.step ask addressField c.service c.store).2.2
        gathered := c.gathered.set number (task.step ask addressField c.service c.store).1 } := by
  simp only [next, hn]

theorem next_of_none {number : Nat} (hn : c.gathered[number]? = none) :
    c.next workers ask addressField (.worker number) = c := by
  simp only [next, hn]

/-! ## What every step keeps -/

/-- Some answers as output, a line for each that there is. -/
def written (answers : List (Option (List Char))) : List Char :=
  answers.flatMap fun text => CommandLine.output text.toList

theorem written_map (answer : String → Option (List Char)) (lines : List String) :
    written (lines.map answer) = CommandLine.output (lines.filterMap answer) := by
  induction lines with
  | nil => rfl
  | cons line lines ih =>
    simp only [written, CommandLine.output, List.map_cons, List.flatMap_cons,
      List.filterMap_cons] at ih ⊢
    rw [ih]
    cases answer line <;> simp

/-- What a crew has written, will say and has not read yet are the answers to all lines. -/
structure Inv (locate : String → Option Location) (good : σ → Prop) (size : Nat)
    (addressField : String) (lines : List String) (c : Crew σ) : Prop where
  sound : IsSound locate size c.service
  good : good c.store
  tasks : ∀ task ∈ c.gathered, task.IsTrue locate
  draining : c.isDraining = true → c.gathered ≠ []
  answers : c.output ++ (written (c.gathered.map (Task.answer locate addressField)) ++
    written (c.unread.map (trueAnswer locate addressField))) =
      CommandLine.output (trueAnswers locate addressField lines)

theorem inv_start (hs : IsSound locate size service) (hg : good store) (lines : List String) :
    Inv locate good size addressField lines (start service store lines) := by
  refine ⟨hs, hg, by simp [start], by simp [start], ?_⟩
  have hnone : written [] = [] := rfl
  simp [start, written_map, hnone, trueAnswers]

theorem Inv.drain (h : Inv locate good size addressField lines c) :
    Inv locate good size addressField lines c.drain := by
  unfold Crew.drain
  split
  · next text gathered hg =>
    refine ⟨h.sound, h.good, ?_, by simp, ?_⟩
    · intro task hm
      exact h.tasks task (by simp [hg, show task ∈ gathered from hm])
    · have hanswers := h.answers
      rw [hg] at hanswers
      simpa [written, Task.answer] using hanswers
  · exact h

theorem Inv.read (h : Inv locate good size addressField lines c) (workers : Nat) :
    Inv locate good size addressField lines (c.read workers) := by
  unfold Crew.read
  split
  · exact ⟨h.sound, h.good, h.tasks, by simp, h.answers⟩
  · next line unread hu =>
    refine ⟨h.sound, h.good, ?_, by simp, ?_⟩
    · intro task hm
      rcases List.mem_append.1 hm with hm | hm
      · exact h.tasks task hm
      · obtain rfl := List.mem_singleton.1 hm
        trivial
    · have hanswers := h.answers
      rw [hu] at hanswers
      simpa [written, Task.answer] using hanswers

theorem Inv.worker (h : Inv locate good size addressField lines c) (ha : Faithful ask locate good)
    (workers number : Nat) :
    Inv locate good size addressField lines
      (c.next workers ask addressField (.worker number)) := by
  cases hn : c.gathered[number]? with
  | none => rwa [next_of_none hn]
  | some task =>
    rw [next_of_some hn]
    obtain ⟨hanswer, htrue, hsound, hgood⟩ :=
      Task.step_true ha h.sound h.good (h.tasks task (List.mem_of_getElem? hn)) addressField
    refine ⟨hsound, hgood, ?_, ?_, ?_⟩
    · intro other hm
      rcases List.mem_or_eq_of_mem_set hm with hm | rfl
      · exact h.tasks other hm
      · exact htrue
    · intro hd
      simpa using h.draining hd
    · dsimp only
      rw [map_set_of_eq hn hanswer]
      exact h.answers

theorem Inv.next (h : Inv locate good size addressField lines c) (ha : Faithful ask locate good)
    (workers : Nat) (turn : Turn) :
    Inv locate good size addressField lines (c.next workers ask addressField turn) := by
  cases turn with
  | reader =>
    unfold Crew.next
    dsimp only
    split
    · exact h.drain
    · exact h.read workers
  | worker number => exact h.worker ha workers number

theorem Inv.run (h : Inv locate good size addressField lines c) (ha : Faithful ask locate good)
    (workers : Nat) (turns : List Turn) :
    Inv locate good size addressField lines (c.run workers ask addressField turns) := by
  induction turns generalizing c with
  | nil => exact h
  | cons turn turns ih => exact ih (h.next ha workers turn)

/-! ## How far it is to the end -/

/-- The steps of some workers that are left, with two of the reader for each. -/
def weight : List Task → Nat
  | [] => 0
  | task :: tasks => task.left + 2 + weight tasks

/-- After how many steps that change anything a crew has come to its end, at the most. -/
def left (c : Crew σ) : Nat :=
  12 * c.unread.length + weight c.gathered + (!c.isDraining).toNat

end Crew

end Gazetteer.CommandLine
