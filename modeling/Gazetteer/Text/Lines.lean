/-
Gazetteer.Text.Lines — bytes line by line.

A line ends with a line feed, which belongs to it, or with the input. No byte
is lost: the lines one after another are the input. The text of a line leaves
out the line feed and one carriage return before it; if the bytes left are not
UTF-8 that is a fault, whose place is counted from the start of the line.
-/
import Gazetteer.Text.Utf8

namespace Gazetteer.Text

/-- The byte that ends a line. -/
def lineFeed : UInt8 := 0x0A

/-- The lines of an input, each with its line feed. -/
def lines : List UInt8 → List (List UInt8)
  | [] => []
  | b :: bs =>
    if b = lineFeed then [b] :: lines bs
    else match lines bs with
      | [] => [[b]]
      | line :: rest => (b :: line) :: rest

/-- The byte that may stand before a line feed. -/
def carriageReturn : UInt8 := 0x0D

def withoutLineEnd (line : List UInt8) : List UInt8 :=
  if line.getLast? != some lineFeed then line
  else if line.dropLast.getLast? == some carriageReturn then line.dropLast.dropLast
  else line.dropLast

/-- The text of a line, or its first fault. -/
def readLine (line : List UInt8) : Except Utf8.Fault String :=
  Utf8.read ⟨(withoutLineEnd line).toArray⟩

theorem flatten_lines (bytes : List UInt8) : (lines bytes).flatten = bytes := by
  induction bytes with
  | nil => rfl
  | cons b bs ih =>
    rw [lines]
    split
    · simp [ih]
    · split
      · next h => rw [h] at ih; simp [← ih]
      · next h => rw [h] at ih; simp [← ih]

end Gazetteer.Text
