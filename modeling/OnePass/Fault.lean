/-
  OnePass/Fault.lean
  ==================
  **What can go wrong** — the causes of failure and their messages.

  A fault names its cause and carries what a reader needs to find it.  Every
  fault but `aborted` ends the session it arises in; `aborted` is the answer to
  every report made after that.
-/
import OnePass.ValueType
import OnePass.Text.Quoted

namespace OnePass

/-- Why a step of a session fails. -/
inductive Fault where
  /-- The name is bound in no active scope. -/
  | undeclaredSymbol (name : String)
  /-- The innermost scope binds the name already, to a symbol at `offset`. -/
  | duplicateDeclaration (name : String) (offset : Int)
  /-- The word is not the name of a type that can be declared. -/
  | invalidType (typeName : String)
  /-- The declaration has a bracket but is not of the form `name[N]`. -/
  | invalidArrayDeclaration (spec : String)
  | typeMismatch (expected found : ValueType)
  /-- An operand that has to be a scalar is not; `role` is the operand's use. -/
  | invalidOperandType (type : ValueType) (role : String)
  | scopeUnderflow
  /-- A symbol has no scope to go to. -/
  | noActiveScope (name : String)
  /-- The declaration is not a name. -/
  | invalidIdentifier (spec : String)
  | invalidArrayIndex (spec : String)
  /-- The frame cannot grow by that many words. -/
  | frameOverflow (words : Nat)
  | registersExhausted
  /-- An earlier fault has ended the session. -/
  | aborted
  deriving DecidableEq

namespace Fault

def message : Fault → String
  | undeclaredSymbol name => "symbol not found: " ++ name
  | duplicateDeclaration name offset =>
    "symbol already exists: " ++ name ++ " (at offset " ++ toString offset ++ ")"
  | invalidType typeName => "invalid type in variable declaration: " ++ typeName
  | invalidArrayDeclaration spec => "invalid array declaration: " ++ spec
  | typeMismatch expected found =>
    "assignment types do not match: expected " ++ expected.name ++ ", found " ++ found.name
  | invalidOperandType type role =>
    role ++ " operand type must be int or char, found " ++ type.name
  | scopeUnderflow => "leaving a scope with no active scope"
  | noActiveScope name => "no active scope to hold " ++ name
  | invalidIdentifier spec => "invalid identifier: " ++ Text.quote spec
  | invalidArrayIndex spec => "invalid array subscript: " ++ spec
  | frameOverflow words => "stack frame cannot hold " ++ toString words ++ " more word(s)"
  | registersExhausted => "all address registers are in use"
  | aborted => "compilation already aborted"

end Fault

end OnePass
