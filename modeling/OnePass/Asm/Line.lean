/-
  OnePass/Asm/Line.lean
  =====================
  **Lines of a listing** — instructions, labels, annotations and lines taken as
  they are.

  `isCode` tells what the assembler acts on from what it skips: an annotation
  stands behind the assembler's comment sign.
-/
import OnePass.Asm.Instruction

namespace OnePass.Asm

/-- One element of a listing's body. -/
inductive Line where
  | instruction (i : Instruction)
  /-- Marks the place a branch goes to. -/
  | label (name : String)
  /-- A remark for the reader, skipped by the assembler. -/
  | remark (text : String)
  /-- A line given by its text. -/
  | verbatim (text : String)
  deriving DecidableEq

namespace Line

def text : Line → String
  | instruction i => i.text
  | label name => name ++ ":"
  | remark text => "# " ++ text
  | verbatim text => text

/-- The assembler acts on the line. -/
def isCode : Line → Bool
  | remark _ => false
  | _ => true

end Line

end OnePass.Asm
