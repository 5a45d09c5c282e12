/-
  OnePass/Session/Flow.lean
  =========================
  **Branches and labels** — the rules control flow is put together from.

  A branch forward draws its label before the label has a place; the caller
  places it later.  `if` and `else` are `branchIfZero`, `branchThenLabel` and
  `defineLabel`; a loop is `defineLabel`, `branchIfZero` and `branchAndLabel`.
-/
import OnePass.Session.Operands

namespace OnePass.Session

open Asm

/-- Branches to a new label if the value is zero, and returns the label. -/
def branchIfZero (condition : Record) : Step Session String := do
  let label ← newLabel
  let source ← operand condition "condition"
  emit (.lw (.t 0) source)
  release source
  emit (.beqz (.t 0) label)
  return label

/-- Branches to a new label, places the pending one, and returns the new one. -/
def branchThenLabel (pending : String) : Step Session String := do
  let label ← newLabel
  emit (.b label)
  place pending
  return label

/-- Branches to a label and places another one behind the branch. -/
def branchAndLabel (target label : String) : Step Session Unit := do
  emit (.b target)
  place label

/-- Places a label, a new one unless a name is given, and returns it. -/
def defineLabel (name : Option String) : Step Session String := do
  let label ← name.elim newLabel pure
  place label
  return label

end OnePass.Session
