/-
  OnePass/Session/Values.lean
  ===========================
  **Literals, operators and assignment** — the rules about values.

  A number or a character is stored in a temporary of its own, and so is the
  result of an operator, which is always an integer.  An integer may be
  assigned to a character; apart from that, types have to agree.
-/
import OnePass.Operator
import OnePass.Session.Operands

namespace OnePass.Session

open Asm

/-! ### Literals -/

/-- Stores a number in a new temporary. -/
def scalarLiteral (type : ValueType) (value : Int) : Step Session Record := do
  let offset ← newTemporary type
  emitAll [.li (.t 0) (.number value), .sw (.t 0) (.slot offset)]
  return { type, place := .stack offset }

def intLiteral (value : Int) : Step Session Record := scalarLiteral .int value

/-- A character literal; its value is the code point. -/
def charLiteral (c : Char) : Step Session Record := scalarLiteral .char c.toNat

/-- A string literal, which goes to the data segment under a new label. -/
def stringLiteral (text : String) : Step Session Record := do
  let (_, label) ← inEnvironment Environment.newStringLabel
  inListing (Listing.addString { label, text })
  return { type := .string, place := .label label }

/-! ### Operators and assignment -/

/-- Applies an operator to two values and stores the result in a new temporary. -/
def apply (operator : Operator) (left right : Record) : Step Session Record := do
  requireScalar left "arithmetic"
  requireScalar right "arithmetic"
  let result ← newTemporary .int
  annotate (operator.name ++ " -> " ++ toString result)
  let lhs ← operand left "arithmetic"
  let rhs ← operand right "arithmetic"
  emitAll [.lw (.t 1) lhs, .lw (.t 2) rhs]
  release lhs
  release rhs
  emitAll operator.code
  emit (.sw (.t 0) (.slot result))
  return { type := .int, place := .stack result }

/-- A value of type `value` may be assigned to a target of type `target`. -/
def canAssign (target value : ValueType) : Bool :=
  target == value || (target == .char && value == .int)

def assign (target value : Record) : Step Session Unit := do
  if canAssign target.type value.type then
    let destination ← operand target "assignment"
    let source ← operand value "assignment"
    emitAll [.lw (.t 1) source, .sw (.t 1) destination]
    release source
    release destination
  else Step.fail (.typeMismatch target.type value.type)

end OnePass.Session
