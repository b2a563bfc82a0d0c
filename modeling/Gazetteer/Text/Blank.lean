/-
Gazetteer.Text.Blank — white space, and cutting it off both ends.

Settings, command-line input and address fields are trimmed before they are
read. The class is the Unicode property White_Space: twenty-five characters,
of which core's ASCII class `Char.isWhitespace` holds only four.
-/
namespace Gazetteer.Text

/-- A character has the Unicode property White_Space. -/
def isBlank (c : Char) : Bool :=
  let n := c.toNat
  (0x09 ≤ n && n ≤ 0x0D) || n == 0x20 || n == 0x85 || n == 0xA0 || n == 0x1680
    || (0x2000 ≤ n && n ≤ 0x200A) || n == 0x2028 || n == 0x2029 || n == 0x202F
    || n == 0x205F || n == 0x3000

/-- The text without the white space at its two ends. -/
def trimChars (cs : List Char) : List Char :=
  ((cs.dropWhile isBlank).reverse.dropWhile isBlank).reverse

/-- The text without the white space at its two ends. -/
def trim (s : String) : String := String.ofList (trimChars s.toList)

/-- Core's white space is white space here too. -/
theorem isBlank_of_isWhitespace {c : Char} (h : c.isWhitespace = true) : isBlank c = true := by
  simp only [Char.isWhitespace, Bool.or_eq_true, decide_eq_true_eq] at h
  rcases h with ((rfl | rfl) | rfl) | rfl <;> decide

theorem trim_toList (s : String) : (trim s).toList = trimChars s.toList :=
  String.toList_ofList

end Gazetteer.Text
