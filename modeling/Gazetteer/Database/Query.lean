/-
Gazetteer.Database.Query — the three questions asked of a location database.

Each question answers with two texts or with nothing, and fails if a table it
reads lacks its columns or if a text it reads is not text. A block answers for
an address with the record of its place; a block whose place has no record does
not answer at all. Of several blocks around one address the one with the least
first address answers, then the one with the least last address, then the one
inserted first; where the index of the ranges is missing, simply the one inserted
first. Of several blocks with one text the first inserted answers.
-/
import Gazetteer.Database.Tables
import Gazetteer.Location

namespace Gazetteer.Database

/-- The two texts that a question answers with. -/
structure Names where
  country : String
  region : String
  deriving DecidableEq, Repr

/-- The location of an address text that a question answered. -/
def Names.location (names : Names) (address : String) : Location :=
  ⟨names.country, names.region, address⟩

/-- The texts of two cells. -/
def Names.read? (country region : Cell) : Option Names := do
  return ⟨← country.read?, ← region.read?⟩

/-- A question to a database. -/
inductive Query where
  /-- The saved answer for an address text. -/
  | saved (address : String)
  /-- The place of a block around an address that is filed under an area. -/
  | covering (area : String) (value : Address.V4)
  /-- The place of a block with exactly this text. -/
  | named (block : String)
  deriving DecidableEq, Repr

/-- The record of a block's place. -/
def placeOf? (places : List Place) (b : Block) : Option Place :=
  places.find? fun p => decide (b.place = .integer p.number)

/-- A block is filed under an area and lies around an address. -/
def Block.covers (area : String) (value : Address.V4) (b : Block) : Bool :=
  b.area == .text area && b.first.isAtMost value.toNat && b.last.isAtLeast value.toNat

/-- A block comes before another one when ranges are looked up. -/
def Block.less (a b : Block) : Bool :=
  a.first.less b.first || (a.first == b.first && a.last.less b.last)

/-- The blocks that pass a test and have a place on record, with that record, in order. -/
def matching (test : Block → Bool) (blocks : List Block) (places : List Place) :
    List (Block × Place) :=
  blocks.filterMap fun b => if test b then (placeOf? places b).map fun p => (b, p) else none

/-- The first of the pairs whose block no other pair's block precedes. -/
def least? : List (Block × Place) → Option (Block × Place)
  | [] => none
  | pair :: pairs =>
    some (pairs.foldl (fun best next => if next.1.less best.1 then next else best) pair)

/-- The answer of a place record, if there is one. -/
def answer (found : Option Place) : Except StoreError (Option Names) :=
  match found with
  | none => .ok none
  | some place =>
    match Names.read? place.country place.region with
    | none => .error .query
    | some names => .ok (some names)

/-- The tables whose rows a question reads: those of the places only if a block is found. -/
def tablesFor (db : Database) (query : Query) : List Table :=
  let finds := fun (test : Block → Bool) => (db.blocks.rows?.getD []).any test
  match query with
  | .saved _ => [.saved]
  | .covering area value => .blocks :: if finds (Block.covers area value) then [.places] else []
  | .named block => .blocks :: if finds fun b => b.block == .text block then [.places] else []

/-- The answer to a question. -/
def ask (db : Database) : Query → Except StoreError (Option Names)
  | .saved address =>
    match db.saved.rows? with
    | none => .error .query
    | some rows =>
      match rows.find? fun row => decide (row.address = .text address) with
      | none => .ok none
      | some row =>
        match Names.read? row.country row.region with
        | none => .error .query
        | some names => .ok (some names)
  | .covering area value =>
    match db.blocks.rows?, db.places.rows? with
    | some blocks, some places =>
      let pairs := matching (Block.covers area value) blocks places
      answer ((if rangeIndex ∈ db.indexes then least? pairs else pairs.head?).map (·.2))
    | _, _ => .error .query
  | .named block =>
    match db.blocks.rows?, db.places.rows? with
    | some blocks, some places =>
      answer ((matching (fun b => decide (b.block = .text block)) blocks places).head?.map (·.2))
    | _, _ => .error .query

end Gazetteer.Database
