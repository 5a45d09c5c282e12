/-
  OnePass/Record.lean
  ===================
  **Records** — the type of a value and the place where it is found.

  Records are what the steps of a session pass to one another: the answer of
  one report is an operand of a later one.
-/
import OnePass.ValueType

namespace OnePass

/-- Where a value is found. -/
inductive Place where
  /-- The value is the word at the offset. -/
  | stack (offset : Int)
  /-- The word at the offset is itself the offset of the value. -/
  | indirect (offset : Int)
  /-- The value is a text in the data segment. -/
  | label (name : String)
  deriving DecidableEq

/-- The type and the place of a value. -/
structure Record where
  type : ValueType
  place : Place
  deriving DecidableEq

end OnePass
