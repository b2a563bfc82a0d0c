/-
Gazetteer.Database.Cell — what one column of one row holds.

Cells are ordered null, numbers, text, bytes; two cells of one kind are ordered
by their content, numbers by their size. A text column turns a number into its
decimal and keeps the other kinds. An integer column turns a text that spells a
decimal into a number: exactly if it has neither point nor exponent and fits 64
bits, or else into a floating-point number, which again is kept as an integer if
it is one.
-/
import Gazetteer.Decimal.Literal

namespace Gazetteer.Database

/-- What one column of one row holds. -/
inductive Cell where
  | null
  | integer (value : Int)
  /-- A floating-point number that is no integer of 64 bits. -/
  | real (value : Rat)
  | text (value : String)
  | bytes (value : List UInt8)
  deriving DecidableEq, Repr

namespace Cell

/-- The cell as a text column keeps it. -/
def asText : Cell → Cell
  | integer value => text (String.ofList (Text.signedDecimal value))
  | real value => text (String.ofList (Decimal.writeDyadic value))
  | cell => cell

/-- A floating-point number as a cell: an integer if it is one strictly between -2^63 and 2^63. -/
def ofReal (value : Rat) : Cell :=
  if value.den = 1 ∧ value.num.natAbs < 0x8000000000000000 then integer value.num else real value

/-- The number that a decimal is. -/
def ofLiteral (x : Decimal.Literal) : Cell :=
  match x.whole?.filter Text.fitsInt64 with
  | some n => integer n
  | none => ofReal x.value

/-- The cell as an integer column keeps it. -/
def asInteger : Cell → Cell
  | text value => ((Decimal.Literal.read? value.toList).map ofLiteral).getD (text value)
  | cell => cell

/-- The text read from a cell: null reads as nothing, and only text reads as text. -/
def read? : Cell → Option String
  | null => some ""
  | text value => some value
  | integer _ | real _ | bytes _ => none

/-- The place of a cell's kind in the order of cells. -/
def rank : Cell → Nat
  | null => 0
  | integer _ | real _ => 1
  | text _ => 2
  | bytes _ => 3

/-- Lexicographic order of byte sequences. -/
def bytesLess : List UInt8 → List UInt8 → Bool
  | _, [] => false
  | [], _ :: _ => true
  | a :: as, b :: bs => a < b || (a == b && bytesLess as bs)

/-- A cell comes before another one. -/
def less : Cell → Cell → Bool
  | integer a, integer b => a < b
  | integer a, real b => (mkRat a 1).blt b
  | real a, integer b => a.blt (mkRat b 1)
  | real a, real b => a.blt b
  | text a, text b => a < b
  | bytes a, bytes b => bytesLess a b
  | a, b => a.rank < b.rank

/-- A cell that is not null is at most an integer. -/
def isAtMost (cell : Cell) (n : Int) : Bool := cell != null && !less (integer n) cell

def isAtLeast (cell : Cell) (n : Int) : Bool := !less cell (integer n)

end Cell

end Gazetteer.Database
