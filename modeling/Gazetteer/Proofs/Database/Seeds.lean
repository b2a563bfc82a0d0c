/-
Gazetteer.Proofs.Database.Seeds — a database that has been filled seed by seed.

A seed is the record of a place or a block. The tables of places and blocks come
of the seeds alone: the last record of each place, and the rows of all blocks. An
address text is matched by a block around it, or by the block that it names, if
there is a record of the block's place. What the database answers is such a
record, and it answers nothing only where there is none.
-/
import Mathlib.Data.List.Induction
import Gazetteer.Proofs.Address.Area
import Gazetteer.Proofs.Store.Conversation

namespace Gazetteer.Database

open Gazetteer.Address

/-! ## Seeds -/

/-- One entry of a location database. -/
inductive Seed where
  /-- The record of a place. -/
  | place (number : Int) (country region city : String)
  /-- A block of a place. -/
  | block (text : String) (place : Int)

/-- The places after one seed more. -/
def Seed.plant (places : List Place) : Seed → List Place
  | place number country region city =>
    putPlace ⟨number, .text country, .text region, .text city⟩ places
  | block _ _ => places

/-- The rows of a seed. -/
def Seed.rows : Seed → List Block
  | place _ _ _ _ => []
  | block text number =>
    ((Range.ofBlock? text).map fun range =>
      (BlockRow.ofRange text number range).map Block.ofRow).getD []

/-- What a seed says about a place. -/
def Seed.names? (number : Int) : Seed → Option Names
  | place other country region _ => if other = number then some ⟨country, region⟩ else none
  | block _ _ => none

/-- The last record of a place. -/
def record? (seeds : List Seed) (number : Int) : Option Names :=
  seeds.reverse.findSome? (·.names? number)

/-- The database holds exactly what has been planted. -/
structure Holds (db : Database) (seeds : List Seed) : Prop where
  places : db.places = .table (seeds.foldl Seed.plant [])
  blocks : db.blocks = .table (seeds.flatMap Seed.rows)

/-- There is a block for an address text among the seeds, and its place has these names. -/
def Matches (seeds : List Seed) (address : String) (names : Names) : Prop :=
  ∃ text place, .block text place ∈ seeds ∧ record? seeds place = some names ∧
    match Address.kind address with
    | .v4 => ∃ range, Range.ofBlock? text = some range ∧ range.Contains (V4.encode address)
    | .block => text = address
    | .v6 | .invalid => False

variable {seeds : List Seed} {db : Database} {address : String} {names : Names}

/-! ## Records of places -/

theorem placeOf?_putPlace (place : Place) (places : List Place) (b : Block) :
    placeOf? (putPlace place places) b =
      if b.place = .integer place.number then some place else placeOf? places b := by
  unfold placeOf? putPlace
  rw [List.find?_append, List.find?_filter]
  by_cases hb : b.place = .integer place.number
  · have hnone : (places.find? fun p =>
        decide (decide (p.number ≠ place.number) = true ∧
          decide (b.place = .integer p.number) = true)) = none := by
      rw [List.find?_eq_none]
      intro p _ hp
      obtain ⟨hne, heq⟩ := of_decide_eq_true hp
      rw [hb] at heq
      exact of_decide_eq_true hne (Cell.integer.inj (of_decide_eq_true heq)).symm
    rw [hnone, if_pos hb]
    simp [hb]
  · have hsame : (places.find? fun p =>
        decide (decide (p.number ≠ place.number) = true ∧
          decide (b.place = .integer p.number) = true)) =
        places.find? fun p => decide (b.place = .integer p.number) := by
      congr 1
      funext p
      by_cases hp : b.place = .integer p.number
      · have hne : p.number ≠ place.number := fun he => hb (he ▸ hp)
        simp [hp, hne]
      · simp [hp]
    rw [hsame, if_neg hb]
    simp [hb]

theorem record?_append (seeds : List Seed) (seed : Seed) (number : Int) :
    record? (seeds ++ [seed]) number = (seed.names? number).or (record? seeds number) := by
  unfold record?
  rw [List.reverse_append, List.reverse_singleton, List.singleton_append, List.findSome?_cons]
  cases seed.names? number <;> rfl

/-- The record that a block finds is the last one of its place. -/
theorem placeOf?_plant (seeds : List Seed) {b : Block} {number : Int}
    (hb : b.place = .integer number) :
    (placeOf? (seeds.foldl Seed.plant []) b).map (fun p => (p.country, p.region)) =
      (record? seeds number).map fun names => (.text names.country, .text names.region) := by
  -- from the last seed on, as a later record of a place takes the place of an earlier one
  induction seeds using List.reverseRec with
  | nil => rfl
  | append_singleton seeds seed ih =>
    rw [List.foldl_append, List.foldl_cons, List.foldl_nil, record?_append]
    cases seed with
    | block text place => exact ih
    | place other country region city =>
      show (placeOf? (putPlace ⟨other, .text country, .text region, .text city⟩ _) b).map _ =
        ((if other = number then some ⟨country, region⟩ else none : Option Names).or _).map _
      rw [placeOf?_putPlace, hb]
      by_cases hn : other = number
      · rw [if_pos hn, if_pos (by rw [hn])]
        rfl
      · rw [if_neg hn, if_neg fun he => hn (Cell.integer.inj he).symm]
        exact ih

/-! ## Picking a block -/

theorem mem_matching {test : Block → Bool} {blocks : List Block} {places : List Place}
    {b : Block} {p : Place} :
    (b, p) ∈ matching test blocks places ↔
      b ∈ blocks ∧ test b = true ∧ placeOf? places b = some p := by
  unfold matching
  rw [List.mem_filterMap]
  constructor
  · rintro ⟨a, hm, ha⟩
    split at ha
    · next ht =>
      obtain ⟨q, hq, he⟩ := Option.map_eq_some_iff.1 ha
      obtain ⟨rfl, rfl⟩ := Prod.mk.inj he
      exact ⟨hm, ht, hq⟩
    · cases ha
  · rintro ⟨hm, ht, hp⟩
    exact ⟨b, hm, by simp [ht, hp]⟩

/-- The pair that comes first is one of the pairs. -/
theorem least?_mem {pairs : List (Block × Place)} {pair : Block × Place}
    (h : least? pairs = some pair) : pair ∈ pairs := by
  cases pairs with
  | nil => cases h
  | cons first pairs =>
    obtain rfl := Option.some.inj h
    clear h
    induction pairs generalizing first with
    | nil => exact List.mem_cons_self
    | cons next pairs ih =>
      rw [List.foldl_cons]
      split
      · exact List.mem_cons_of_mem _ (ih next)
      · rcases List.mem_cons.1 (ih first) with he | hm
        · rw [he]
          exact List.mem_cons_self
        · exact List.mem_cons_of_mem _ (List.mem_cons_of_mem _ hm)

theorem least?_eq_none {pairs : List (Block × Place)} (h : least? pairs = none) : pairs = [] := by
  cases pairs with
  | nil => rfl
  | cons first pairs => cases h

/-! ## Answers -/

/-- Each row of a block belongs to a block among the seeds. -/
theorem mem_rows {b : Block} :
    b ∈ seeds.flatMap Seed.rows ↔
      ∃ text number range, Seed.block text number ∈ seeds ∧
        Range.ofBlock? text = some range ∧
        ∃ row ∈ BlockRow.ofRange text number range, b = .ofRow row := by
  rw [List.mem_flatMap]
  constructor
  · rintro ⟨seed, hm, hb⟩
    cases seed with
    | place number country region city => cases hb
    | block text number =>
      cases hr : Range.ofBlock? text with
      | none => simp [Seed.rows, hr] at hb
      | some range =>
        simp only [Seed.rows, hr, Option.map_some, Option.getD_some, List.mem_map] at hb
        obtain ⟨row, hrow, rfl⟩ := hb
        exact ⟨text, number, range, hm, hr, row, hrow, rfl⟩
  · rintro ⟨text, number, range, hm, hr, row, hrow, rfl⟩
    refine ⟨_, hm, ?_⟩
    simp only [Seed.rows, hr, Option.map_some, Option.getD_some, List.mem_map]
    exact ⟨row, hrow, rfl⟩

theorem covers_ofRow (row : BlockRow) (v : V4) :
    Block.covers (V4.area v) v (.ofRow row) = true ↔ row.Answers v := by
  unfold Block.covers BlockRow.Answers
  simp only [Block.ofRow, Cell.isAtMost, Cell.isAtLeast, Cell.less, Bool.and_eq_true, beq_iff_eq,
    Cell.text.injEq, bne_iff_ne, ne_eq, reduceCtorEq, not_false_eq_true, true_and,
    Bool.not_eq_true', decide_eq_false_iff_not, Int.not_lt, Int.ofNat_le, and_assoc]

/-- Where a pick takes one of the pairs, unless there is none, the answer is that of a match, unless
there is none. -/
theorem answer_of_pick {pairs : List (Block × Place)} {found : Option (Block × Place)}
    {Match : Names → Prop} (hnone : found = none → pairs = [])
    (hmem : ∀ pair, found = some pair → pair ∈ pairs)
    (hnames : ∀ pair ∈ pairs, ∃ names, Match names ∧ pair.2.country = .text names.country ∧
      pair.2.region = .text names.region)
    (hmatch : ∀ names, Match names → pairs ≠ []) :
    (answer (found.map (·.2)) = .ok none ∧ ∀ names, ¬ Match names) ∨
      ∃ names, answer (found.map (·.2)) = .ok (some names) ∧ Match names := by
  cases found with
  | none => exact .inl ⟨rfl, fun names hm => hmatch names hm (hnone rfl)⟩
  | some pair =>
    obtain ⟨names, hm, hcountry, hregion⟩ := hnames pair (hmem pair rfl)
    refine .inr ⟨names, ?_, hm⟩
    simp [answer, Names.read?, hcountry, hregion, Cell.read?]

/-- The pairs of rows and records are those of the blocks that pass the test and whose place has a
record. -/
theorem mem_pairs (seeds : List Seed) (test : Block → Bool) (pair : Block × Place) :
    pair ∈ matching test (seeds.flatMap Seed.rows) (seeds.foldl Seed.plant []) ↔
      ∃ text number range row, Seed.block text number ∈ seeds ∧
        Range.ofBlock? text = some range ∧ row ∈ BlockRow.ofRange text number range ∧
        test (.ofRow row) = true ∧ pair.1 = .ofRow row ∧
        placeOf? (seeds.foldl Seed.plant []) (.ofRow row) = some pair.2 := by
  obtain ⟨b, p⟩ := pair
  rw [mem_matching, mem_rows]
  constructor
  · rintro ⟨⟨text, number, range, hm, hr, row, hrow, rfl⟩, ht, hp⟩
    exact ⟨text, number, range, row, hm, hr, hrow, ht, rfl, hp⟩
  · rintro ⟨text, number, range, row, hm, hr, hrow, ht, rfl, hp⟩
    exact ⟨⟨text, number, range, hm, hr, row, hrow, rfl⟩, ht, hp⟩

/-- The record of the place that a row belongs to. -/
theorem record?_of_row (seeds : List Seed) {text : String} {number : Int} {range : Range}
    {row : BlockRow}
    (hrow : row ∈ BlockRow.ofRange text number range) :
    (placeOf? (seeds.foldl Seed.plant []) (.ofRow row)).map (fun p => (p.country, p.region)) =
      (record? seeds number).map fun names => (.text names.country, .text names.region) := by
  obtain ⟨index, -, -, rfl⟩ := mem_ofRange.1 hrow
  exact placeOf?_plant seeds rfl

/-- Where a block passes the test with one of its rows exactly if it is hit, a pick among the pairs
answers with the names of a block that is hit. -/
theorem answer_of_hit (test : Block → Bool) {Hit : String → Prop} {found : Option (Block × Place)}
    (hnone : found = none →
      matching test (seeds.flatMap Seed.rows) (seeds.foldl Seed.plant []) = [])
    (hmem : ∀ pair, found = some pair →
      pair ∈ matching test (seeds.flatMap Seed.rows) (seeds.foldl Seed.plant []))
    (hrange : ∀ text, Hit text → ∃ range, Range.ofBlock? text = some range)
    (hhit : ∀ text number range, Range.ofBlock? text = some range →
      ((∃ row ∈ BlockRow.ofRange text number range, test (.ofRow row) = true) ↔ Hit text)) :
    let Match := fun names => ∃ text number, Seed.block text number ∈ seeds ∧
      record? seeds number = some names ∧ Hit text
    (answer (found.map (·.2)) = .ok none ∧ ∀ names, ¬ Match names) ∨
      ∃ names, answer (found.map (·.2)) = .ok (some names) ∧ Match names := by
  refine answer_of_pick hnone hmem ?_ ?_
  · intro pair hm
    obtain ⟨text, number, range, row, hblock, hr, hrow, ht, -, hp⟩ := (mem_pairs _ _ _).1 hm
    have hrecord := record?_of_row seeds hrow
    rw [hp] at hrecord
    cases hnames : record? seeds number with
    | none =>
      rw [hnames] at hrecord
      cases hrecord
    | some names =>
      rw [hnames] at hrecord
      obtain ⟨hcountry, hregion⟩ := Prod.mk.inj (Option.some.inj hrecord)
      exact ⟨names, ⟨text, number, hblock, hnames, (hhit text number range hr).1 ⟨row, hrow, ht⟩⟩,
        hcountry, hregion⟩
  · rintro names ⟨text, number, hblock, hnames, hhits⟩
    obtain ⟨range, hr⟩ := hrange text hhits
    obtain ⟨row, hrow, ht⟩ := (hhit text number range hr).2 hhits
    have hrecord := record?_of_row seeds hrow
    rw [hnames] at hrecord
    obtain ⟨p, hp, -⟩ := Option.map_eq_some_iff.1 hrecord
    exact List.ne_nil_of_mem
      ((mem_pairs _ _ (.ofRow row, p)).2 ⟨text, number, range, row, hblock, hr, hrow, ht, rfl, hp⟩)

/-- A database finds a match for an address text, unless there is none. -/
theorem Holds.locate (h : db.Holds seeds) (address : String) :
    (db.locate address = .ok none ∧ ∀ names, ¬ Matches seeds address names) ∨
      ∃ names, db.locate address = .ok (some names) ∧ Matches seeds address names := by
  unfold Database.locate Matches
  cases hk : Address.kind address with
  | v4 =>
    simp only [ask, h.blocks, h.places, Slot.rows?]
    refine answer_of_hit (Block.covers (V4.encode address).area (V4.encode address)) ?_ ?_ ?_ ?_
    · intro hf
      split at hf
      · exact least?_eq_none hf
      · exact List.head?_eq_none_iff.1 hf
    · intro pair hf
      split at hf
      · exact least?_mem hf
      · exact List.mem_of_mem_head? hf
    · rintro text ⟨range, hr, -⟩
      exact ⟨range, hr⟩
    · intro text number range hr
      simp only [covers_ofRow, exists_answers_iff, hr, Option.some.injEq, exists_eq_left']
  | block =>
    simp only [ask, h.blocks, h.places, Slot.rows?]
    refine answer_of_hit (fun b => decide (b.block = .text address))
      (fun hf => List.head?_eq_none_iff.1 hf) (fun pair hf => List.mem_of_mem_head? hf)
      ?_ ?_
    · rintro text rfl
      exact ofBlock?_of_kind hk
    · intro text number range hr
      have htext {row : BlockRow} (hrow : row ∈ BlockRow.ofRange text number range) :
          row.block = text := by
        obtain ⟨index, -, -, rfl⟩ := mem_ofRange.1 hrow
        rfl
      constructor
      · rintro ⟨row, hrow, ht⟩
        have ht := Cell.text.inj (of_decide_eq_true ht)
        rwa [htext hrow] at ht
      · rintro rfl
        obtain ⟨row, hrow⟩ := List.exists_mem_of_ne_nil _ (ofRange_ne_nil hr text number)
        refine ⟨row, hrow, decide_eq_true ?_⟩
        show Cell.text row.block = _
        rw [htext hrow]
  | v6 =>
    refine .inl ⟨rfl, ?_⟩
    rintro names ⟨_, _, -, -, hfalse⟩
    exact hfalse
  | invalid =>
    refine .inl ⟨rfl, ?_⟩
    rintro names ⟨_, _, -, -, hfalse⟩
    exact hfalse

end Gazetteer.Database
