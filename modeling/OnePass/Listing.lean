/-
  OnePass/Listing.lean
  ====================
  **The listing** — the body of the program and its string literals.

  Lines and literals are collected in the order in which they come.  `render`
  writes the assembly file: a fixed opening, the body with a line for each
  element, a fixed ending, and one entry for each literal.
-/
import OnePass.Step

namespace OnePass

open Asm

/-- A text in the data segment. -/
structure StringEntry where
  label : String
  text : String
  deriving DecidableEq

namespace StringEntry

/-- How a character is written between the quotes of a string directive. -/
def escapeChar (c : Char) : List Char :=
  match c with
  | '\n' => ['\\', 'n']
  | '\t' => ['\\', 't']
  | '"' => ['\\', '"']
  | '\\' => ['\\', '\\']
  | c => [c]

/-- A text as written between the quotes of a string directive. -/
def escape (text : String) : String := String.ofList (text.toList.flatMap escapeChar)

/-- The directive that places the text in the data segment. -/
def directive (entry : StringEntry) : String :=
  entry.label ++ ": \t\t .asciiz \"" ++ escape entry.text ++ "\"\n"

end StringEntry

structure Listing where
  body : Array Line := #[]
  strings : Array StringEntry := #[]
  annotated : Bool := false

namespace Listing

/-- What stands before the body. -/
def opening : String :=
  "# Prolog:\n" ++
  ".text\n" ++
  "main:\n" ++
  "move $fp $sp\n" ++
  "la $a0 ProgStart\n" ++
  "li $v0 4\n" ++
  "syscall\n" ++
  "# End of Prolog\n" ++
  "\n"

/-- What stands behind the body, up to the program's own literals. -/
def ending : String :=
  "\n" ++
  "# Postlog:\n" ++
  "la $a0 ProgEnd\n" ++
  "li $v0 4\n" ++
  "syscall\n" ++
  "li $v0 10\n" ++
  "syscall\n" ++
  ".data\n" ++
  "ProgStart: \t .asciiz \"Program Start\\n\"\n" ++
  "ProgEnd:   \t .asciiz \"Program End\\n\"\n"

def render (listing : Listing) : String :=
  opening ++
  String.join (listing.body.toList.map fun line => line.text ++ "\n") ++
  ending ++
  String.join (listing.strings.toList.map StringEntry.directive)

/-! ### Steps -/

def emit (line : Line) : Step Listing Unit := do
  Step.report (.emitted line)
  let listing ← Step.current
  Step.replace { listing with body := listing.body.push line }

/-- Appends a remark to the body if annotations are written. -/
def annotate (text : String) : Step Listing Unit := do
  let listing ← Step.current
  if listing.annotated then
    Step.replace { listing with body := listing.body.push (.remark text) }

def addString (entry : StringEntry) : Step Listing Unit := do
  let listing ← Step.current
  Step.replace { listing with strings := listing.strings.push entry }

end Listing

end OnePass
