/-
  OnePass/Session/Naming.lean
  ===========================
  **Scopes, declarations and references** — the rules about names.

  A declaration is checked in a fixed order: its type, its form, whether the
  innermost scope has the name, whether the frame has room, and last whether
  there is a scope at all.  A reference with a literal subscript is settled
  while the program is read; one with a named subscript becomes code that
  computes the element's offset into a temporary.
-/
import OnePass.Access
import OnePass.Declarator
import OnePass.Session.Operands

namespace OnePass.Session

open Asm

def enterScope : Step Session Unit := inEnvironment Environment.enterScope

def leaveScope : Step Session Unit := inEnvironment Environment.leaveScope

/-! ### Declarations -/

/-- The type a declaration asks for. -/
def declaredType (typeName : String) : Except Fault ValueType :=
  match ValueType.ofName? typeName with
  | some type => .ok type
  | none => .error (.invalidType typeName)

/-- Refuses a name the innermost scope has already. -/
def requireFresh (name : String) : Step Session Unit := do
  let env := (← Step.current).environment
  match (env.findLocal? name).bind env.symbol? with
  | some previous => Step.fail (.duplicateDeclaration name previous.offset)
  | none => return ()

/-- Declares a variable or an array and returns the number of its symbol. -/
def declare (typeName spec : String) : Step Session SymbolId := do
  let type ← Step.ofExcept (declaredType typeName)
  let declarator ← Step.ofExcept (Declarator.parse spec)
  requireFresh declarator.name
  let offset ← inFrame (Frame.allocate declarator.words)
  Step.report (.declared type declarator.name declarator.words offset)
  annotate (type.name ++ " " ++ spec ++ " at " ++ toString offset)
  inEnvironment <|
    Environment.insert { name := declarator.name, type, offset, words := declarator.words }

/-! ### References -/

/-- The variable with a name.  A string label is no variable. -/
def lookupVariable (name : String) : Step Session Symbol := do
  let symbol ← lookupSymbol name
  if symbol.type.isScalar then return symbol else Step.fail (.undeclaredSymbol name)

/-- Puts the offset of an array element into a slot: the offset of the array
    less four times the word at the offset of the index. -/
def elementCode (base index slot : Int) : List Instruction :=
  [.lw (.t 0) (.slot index),
   .alu .add (.t 0) (.t 0) (.t 0),
   .alu .add (.t 0) (.t 0) (.t 0),
   .li (.t 1) (.number base),
   .alu .sub (.t 0) (.t 1) (.t 0),
   .sw (.t 0) (.slot slot)]

def resolve (spec : String) : Step Session Record := do
  let access ← Step.ofExcept (Access.parse spec)
  let symbol ← lookupVariable access.name
  match access.subscript with
  | none => return { type := symbol.type, place := .stack symbol.offset }
  | some (.literal index) =>
    match below? symbol.offset index with
    | some offset => return { type := symbol.type, place := .stack offset }
    | none => Step.fail (.invalidArrayIndex spec)
  | some (.named name) =>
    let index ← lookupSymbol name
    let slot ← newTemporary .int
    annotate ("&" ++ spec ++ " -> " ++ toString slot)
    emitAll (elementCode symbol.offset index.offset slot)
    return { type := symbol.type, place := .indirect slot }

end OnePass.Session
