/-
  OnePass/Session/Console.lean
  ============================
  **Console input and output** — the rules that use the machine's services.
-/
import OnePass.Session.Operands

namespace OnePass.Session

open Asm

/-- The service that reads a value of a type.  Texts cannot be read. -/
def readService? : ValueType → Option Service
  | .int => some .readInt
  | .char => some .readChar
  | .string => none

def printService : ValueType → Service
  | .int => .printInt
  | .char => .printChar
  | .string => .printString

def read (target : Record) : Step Session Unit := do
  match readService? target.type with
  | none => Step.fail (.invalidOperandType target.type "input")
  | some service =>
    let destination ← operand target "input"
    emitAll [.select service, .syscall, .sw .v0 destination]
    release destination

def write (value : Record) : Step Session Unit := do
  match value.place with
  | .label name => emitAll [.la .a0 name, .select .printString, .syscall]
  | _ =>
    let source ← operand value "output"
    emit (.lw .a0 source)
    release source
    emitAll [.select (printService value.type), .syscall]

def newline : Step Session Unit :=
  emitAll [.li .a0 .lineFeed, .select .printChar, .syscall]

end OnePass.Session
