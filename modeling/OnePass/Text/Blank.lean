/-
  OnePass/Text/Blank.lean
  =======================
  **Blank characters and trimming** — white space in the sense of Unicode.

  `trim` takes the blanks off both ends of a text.  The rest of the text starts
  and ends with a character that is not blank, unless nothing is left.
-/
import OnePass.Text.CodePoint

namespace OnePass.Text

/-- The code points of white space, as increasing inclusive ranges. -/
def blankRanges : RangeTable := [
  (0x9, 0xD), (0x20, 0x20), (0x85, 0x85), (0xA0, 0xA0), (0x1680, 0x1680), (0x2000, 0x200A),
  (0x2028, 0x2029), (0x202F, 0x202F), (0x205F, 0x205F), (0x3000, 0x3000)]

/-- The characters that separate and never belong to a name. -/
def isBlank (c : Char) : Bool := blankRanges.holds c

def trimStart (text : List Char) : List Char := text.dropWhile isBlank

def trim (text : List Char) : List Char := (trimStart (trimStart text).reverse).reverse

theorem isBlank_of_isWhitespace {c : Char} (h : c.isWhitespace = true) : isBlank c = true := by
  simp only [Char.isWhitespace, Bool.or_eq_true, decide_eq_true_eq] at h
  rcases h with ((rfl | rfl) | rfl) | rfl <;> decide

/-- A text that starts with a blank is never the result of dropping them. -/
theorem head?_trimStart {text : List Char} {c : Char} (h : (trimStart text).head? = some c) :
    isBlank c = false := by
  induction text with
  | nil => simp [trimStart] at h
  | cons d rest ih =>
    by_cases hd : isBlank d = true
    · exact ih (by simpa [trimStart, List.dropWhile_cons, hd] using h)
    · simp only [trimStart, List.dropWhile_cons, hd] at h
      simp only [Bool.not_eq_true] at hd
      simp_all

end OnePass.Text
