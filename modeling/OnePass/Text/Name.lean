/-
  OnePass/Text/Name.lean
  ======================
  **Names** — a Latin letter or an underscore, and word characters behind it.

  `scanName` takes the longest name off the front of a text.
-/
import OnePass.Text.Blank
import OnePass.Text.Word

namespace OnePass.Text

/-- The characters a name may start with: ASCII letters and the underscore. -/
def isNameStart (c : Char) : Bool := c.isAlpha || c == '_'

/-- The longest name in front of a text, and what follows it. -/
def scanName : List Char → Option (List Char × List Char)
  | [] => none
  | c :: rest =>
    if isNameStart c then some (c :: rest.takeWhile isWord, rest.dropWhile isWord) else none

/-- The whole text is a name. -/
def isName : List Char → Bool
  | [] => false
  | c :: rest => isNameStart c && rest.all isWord

end OnePass.Text
