/-
  OnePass/Subscripted.lean
  ========================
  **The form `name[index]`** — a name with a text in brackets behind it.

  Blanks may stand before the opening bracket and around the index.  The index
  has at least one character and holds neither a blank nor a closing bracket;
  what it means depends on where the form is used.
-/
import OnePass.Text.Name

namespace OnePass

open Text

/-- A name and the text between the brackets behind it. -/
structure Subscripted where
  name : List Char
  index : List Char
  deriving DecidableEq

namespace Subscripted

/-- The characters an index may hold. -/
def isIndexChar (c : Char) : Bool := !isBlank c && c != ']'

/-- What follows an opening bracket and the blanks behind it. -/
def afterOpening? (text : List Char) : Option (List Char) :=
  match trimStart text with
  | '[' :: rest => some (trimStart rest)
  | _ => none

/-- An index and the closing bracket that ends the text. -/
def closedIndex? (text : List Char) : Option (List Char) :=
  let index := text.takeWhile isIndexChar
  if !index.isEmpty && trimStart (text.dropWhile isIndexChar) == [']'] then some index else none

/-- Reads a text of the form `name[index]`. -/
def parse? (text : List Char) : Option Subscripted := do
  let (name, rest) ← scanName text
  let index ← (afterOpening? rest).bind closedIndex?
  return { name, index }

end Subscripted

end OnePass
