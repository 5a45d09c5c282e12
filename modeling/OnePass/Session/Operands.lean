/-
  OnePass/Session/Operands.lean
  =============================
  **Operands** — from records to operands of loads and stores.

  An operand on the stack needs no code.  For one whose offset is itself kept
  on the stack, code is emitted that puts its address into a register of the
  pool.  That code uses `$t0` and `$t1`, so all operands of an instruction are
  resolved before the first is loaded.
-/
import OnePass.Record
import OnePass.Session

namespace OnePass.Session

open Asm

/-- Refuses values that can be neither loaded nor stored. -/
def requireScalar (record : Record) (role : String) : Step Session Unit :=
  if record.type.isScalar then pure () else Step.fail (.invalidOperandType record.type role)

/-- Puts the address of the word whose offset is kept at `offset` into a register. -/
def addressCode (offset : Int) (r : AddressRegister) : List Instruction :=
  [.move (.t 0) .sp, .lw (.t 1) (.slot offset), .alu .add r.register (.t 0) (.t 1)]

/-- The operand for the value of a record; `role` is its use in messages. -/
def operand (record : Record) (role : String) : Step Session Operand := do
  requireScalar record role
  match record.place with
  | .stack offset => return .slot offset
  | .indirect offset =>
    let r ← inPool AddressPool.acquire
    emitAll (addressCode offset r)
    return .through r
  | .label _ => Step.fail (.invalidOperandType record.type role)

/-- Gives back the register of an operand that goes through one. -/
def release : Operand → Step Session Unit
  | .slot _ => pure ()
  | .through r => inPool (AddressPool.release r)

end OnePass.Session
