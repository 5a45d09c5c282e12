/-
  OnePass/Environment.lean
  ========================
  **The environment** — scopes of names over one collection of symbols.

  Symbols are numbered in the order in which they come and stay for the whole
  session.  A scope binds names to such numbers.  Active scopes are searched
  from the innermost outward; a scope that is left is put aside, or dropped,
  and never searched again.  Binding a name again in one scope rebinds it:
  whether that is an error is for the caller to decide.
-/
import Std.Data.ExtTreeMap
import OnePass.GeneratedName
import OnePass.Step

namespace OnePass

/-- A named value of the program with its place in the frame. -/
structure Symbol where
  name : String
  type : ValueType
  /-- Byte offset from the stack pointer. -/
  offset : Int
  /-- Size in words; a string label takes none. -/
  words : Nat
  deriving DecidableEq

/-- The number of a symbol in the order of insertion. -/
abbrev SymbolId := Nat

/-- The names bound in one block. -/
abbrev Scope := Std.ExtTreeMap String SymbolId

/-- The names of a program while it is read. -/
structure Environment where
  /-- All symbols so far, each at the place of its number. -/
  symbols : Array Symbol := #[]
  /-- The scopes that have not been left, the innermost first. -/
  active : List Scope := []
  /-- The scopes that have been left, in that order. -/
  retired : Array Scope := #[]
  /-- Whether scopes are kept when they are left. -/
  retains : Bool := true
  /-- How many names have been generated. -/
  drawn : Nat := 0

namespace Environment

def depth (env : Environment) : Nat := env.active.length

def symbol? (env : Environment) (id : SymbolId) : Option Symbol := env.symbols[id]?

/-- The symbol a name is bound to in the innermost scope. -/
def findLocal? (env : Environment) (name : String) : Option SymbolId :=
  env.active.head?.bind fun scope => scope[name]?

/-- The symbol a name is bound to in the innermost scope that binds it. -/
def find? (env : Environment) (name : String) : Option SymbolId :=
  env.active.findSome? fun scope => scope[name]?

/-- The symbol of a name that has to be bound. -/
def lookup (env : Environment) (name : String) : Except Fault SymbolId :=
  match env.find? name with
  | some id => .ok id
  | none => .error (.undeclaredSymbol name)

/-- What the bound name stands for. -/
def lookupSymbol (env : Environment) (name : String) : Except Fault Symbol :=
  match (env.find? name).bind env.symbol? with
  | some symbol => .ok symbol
  | none => .error (.undeclaredSymbol name)

/-- One line for each active scope with the names in it, in increasing order;
    the outermost scope comes first and has number 1. -/
def dump (env : Environment) : String :=
  String.join <| env.active.reverse.mapIdx fun i scope =>
    "scope " ++ toString (i + 1) ++ ": " ++ " ".intercalate scope.keys ++ "\n"

/-! ### Steps -/

def enterScope : Step Environment Unit := do
  let env ← Step.current
  Step.replace { env with active := ∅ :: env.active }
  Step.report (.enteredScope (env.depth + 1))

def leaveScope : Step Environment Unit := do
  let env ← Step.current
  match env.active with
  | [] => Step.fail .scopeUnderflow
  | scope :: outer =>
    Step.report (.leftScope env.depth scope.size)
    Step.replace
      { env with
        active := outer
        retired := if env.retains then env.retired.push scope else env.retired }

/-- Adds a symbol and binds its name to it in the innermost scope. -/
def insert (symbol : Symbol) : Step Environment SymbolId := do
  let env ← Step.current
  match env.active with
  | [] => Step.fail (.noActiveScope symbol.name)
  | scope :: outer =>
    let id := env.symbols.size
    Step.replace
      { env with
        symbols := env.symbols.push symbol
        active := scope.insert symbol.name id :: outer }
    return id

/-- Draws the next generated name. -/
def drawName (kind : NameKind) : Step Environment String := do
  let env ← Step.current
  Step.replace { env with drawn := env.drawn + 1 }
  return generatedName kind env.drawn

/-- Adds a temporary of one word at an offset. -/
def newTemporary (type : ValueType) (offset : Int) : Step Environment SymbolId := do
  let name ← drawName .temporary
  Step.report (.temporary name type offset)
  insert { name, type, offset, words := 1 }

/-- Adds the label of a string literal and returns its number and its name. -/
def newStringLabel : Step Environment (SymbolId × String) := do
  let name ← drawName .stringLabel
  Step.report (.stringLabel name)
  let id ← insert { name, type := .string, offset := 0, words := 0 }
  return (id, name)

/-- Draws a branch label, which is no symbol. -/
def newBranchLabel : Step Environment String := drawName .branchLabel

end Environment

end OnePass
