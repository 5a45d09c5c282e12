/-
  OnePass/Operator.lean
  =====================
  **Operators** — the binary operators and the code that applies them.

  An operator finds its operands in `$t1` and `$t2` and leaves its result in
  `$t0`.  Conjunction first turns each operand into 0 or 1, since the machine's
  `and` works bit by bit; it uses `$t3` and `$t4` for that.
-/
import OnePass.Asm.Instruction

namespace OnePass

open Asm

inductive Operator where
  | less
  | greater
  | add
  | sub
  | mul
  | div
  | equal
  | or
  | and
  deriving DecidableEq

namespace Operator

/-- The operator written with a symbol. -/
def ofSymbol? (symbol : String) : Option Operator :=
  if symbol = "<" then some less
  else if symbol = ">" then some greater
  else if symbol = "+" then some add
  else if symbol = "-" then some sub
  else if symbol = "*" then some mul
  else if symbol = "/" then some div
  else if symbol = "==" then some equal
  else if symbol = "||" then some or
  else if symbol = "&&" then some and
  else none

def name : Operator → String
  | less => "Less"
  | greater => "Greater"
  | add => "Add"
  | sub => "Sub"
  | mul => "Mul"
  | div => "Div"
  | equal => "Equal"
  | or => "Or"
  | and => "And"

/-- Applies the operator to `$t1` and `$t2`; the result is in `$t0`. -/
def code : Operator → List Instruction
  | less => [.alu .slt (.t 0) (.t 1) (.t 2)]
  | greater => [.alu .sgt (.t 0) (.t 1) (.t 2)]
  | add => [.alu .add (.t 0) (.t 1) (.t 2)]
  | sub => [.alu .sub (.t 0) (.t 1) (.t 2)]
  | mul => [.wide .mult (.t 1) (.t 2), .mflo (.t 0)]
  | div => [.wide .div (.t 1) (.t 2), .mflo (.t 0)]
  | equal => [.alu .seq (.t 0) (.t 1) (.t 2)]
  | or => [.alu .or (.t 0) (.t 1) (.t 2)]
  | and =>
    [.alu .sne (.t 3) (.t 1) .zero, .alu .sne (.t 4) (.t 2) .zero, .alu .and (.t 0) (.t 3) (.t 4)]

end Operator

end OnePass
