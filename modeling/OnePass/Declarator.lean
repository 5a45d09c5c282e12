/-
  OnePass/Declarator.lean
  =======================
  **Declarators** — what a declaration names, and how many words it takes.

  A plain name takes one word.  `name[N]` takes `N` words; `N` has neither sign
  nor leading zero, and all of the array must be within reach of an offset.
-/
import OnePass.Fault
import OnePass.Offset
import OnePass.Subscripted
import OnePass.Text.Numeral

namespace OnePass

open Text

/-- A name to declare with its size in words. -/
structure Declarator where
  name : String
  words : Nat
  deriving DecidableEq

namespace Declarator

/-- The number of elements given between brackets. -/
def size? (index : List Char) : Option Nat :=
  if index.head? = some '0' then none
  else (numeral? index).filter fun words => FitsWord (bytesOf words)

/-- Reads `name[N]`. -/
def array? (text : List Char) : Option Declarator := do
  let form ← Subscripted.parse? text
  let words ← size? form.index
  return { name := String.ofList form.name, words }

/-- Reads a declarator with no blanks around it. -/
def ofTrimmed (text : List Char) : Except Fault Declarator :=
  if text.contains '[' then
    match array? text with
    | some declarator => .ok declarator
    | none => .error (.invalidArrayDeclaration (String.ofList text))
  else if isName text then .ok { name := String.ofList text, words := 1 }
  else .error (.invalidIdentifier (String.ofList text))

def parse (spec : String) : Except Fault Declarator := ofTrimmed (trim spec.toList)

end Declarator

end OnePass
