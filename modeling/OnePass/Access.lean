/-
  OnePass/Access.lean
  ===================
  **Accesses** — how an expression refers to a variable or an array element.

  `a[3]` has a literal subscript, `a[i]` a named one; every other text is taken
  as a name and left to look-up.  A subscript that begins with a minus sign or
  a digit is meant as a literal: it has to be a number that is not negative and
  fits a word.
-/
import OnePass.Fault
import OnePass.Offset
import OnePass.Subscripted
import OnePass.Text.Numeral

namespace OnePass

open Text

/-- What stands between the brackets of an access. -/
inductive Subscript where
  | literal (index : Nat)
  | named (name : String)
  deriving DecidableEq

/-- A reference to a variable, or to an element of it. -/
structure Access where
  name : String
  subscript : Option Subscript := none
  deriving DecidableEq

namespace Access

/-- A subscript of this form is meant as a number. -/
def isNumeric (index : List Char) : Bool :=
  index.head?.any fun c => c == '-' || c.isDigit

/-- The value of a literal subscript; with a minus sign it can only be zero. -/
def literal? : List Char → Option Nat
  | '-' :: digits => (numeral? digits).filter fun index => index = 0
  | digits => (numeral? digits).filter fun index => FitsWord index

/-- Reads an access with no blanks around it. -/
def ofTrimmed (text : List Char) : Except Fault Access :=
  match Subscripted.parse? text with
  | none => .ok { name := String.ofList text }
  | some form =>
    let name := String.ofList form.name
    if isNumeric form.index then
      match literal? form.index with
      | some index => .ok { name, subscript := some (.literal index) }
      | none => .error (.invalidArrayIndex (String.ofList text))
    else .ok { name, subscript := some (.named (String.ofList form.index)) }

def parse (spec : String) : Except Fault Access := ofTrimmed (trim spec.toList)

end Access

end OnePass
