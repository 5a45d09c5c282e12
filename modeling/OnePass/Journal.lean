/-
  OnePass/Journal.lean
  ====================
  **The journal** — what a session did, as a list of events.

  An event is kept as data; its severity and its wording are functions of it.
  A journal has a level and keeps the events that are at least as severe, in
  the order in which they happened.  Nothing reads the journal back while the
  session runs.
-/
import OnePass.Asm.Line
import OnePass.Fault

namespace OnePass

/-- How much an event matters, the gravest first. -/
inductive Severity where
  | error
  | warn
  | info
  | debug
  | trace
  deriving DecidableEq

namespace Severity

def verbosity : Severity → Nat
  | error => 1
  | warn => 2
  | info => 3
  | debug => 4
  | trace => 5

def name : Severity → String
  | error => "error"
  | warn => "warn"
  | info => "info"
  | debug => "debug"
  | trace => "trace"

def ofName? (name : String) : Option Severity :=
  if name = "error" then some error
  else if name = "warn" then some warn
  else if name = "info" then some info
  else if name = "debug" then some debug
  else if name = "trace" then some trace
  else none

/-- The word that opens a journal entry. -/
def tag : Severity → String
  | error => "ERROR"
  | warn => "WARN"
  | info => "INFO"
  | debug => "DEBUG"
  | trace => "TRACE"

end Severity

inductive Event where
  /-- A scope became the innermost one, at the given depth. -/
  | enteredScope (depth : Nat)
  /-- The scope at the given depth was left with that many names in it. -/
  | leftScope (depth names : Nat)
  | temporary (name : String) (type : ValueType) (offset : Int)
  | stringLabel (name : String)
  | allocated (words : Nat) (offset cursor : Int)
  | declared (type : ValueType) (name : String) (words : Nat) (offset : Int)
  | emitted (line : Asm.Line)
  | aborted (cause : Fault)
  deriving DecidableEq

namespace Event

def severity : Event → Severity
  | enteredScope _ => .trace
  | leftScope _ _ => .trace
  | temporary _ _ _ => .debug
  | stringLabel _ => .debug
  | allocated _ _ _ => .trace
  | declared _ _ _ _ => .debug
  | emitted _ => .trace
  | aborted _ => .error

def message : Event → String
  | enteredScope depth => "entered scope " ++ toString depth
  | leftScope depth names =>
    "left scope " ++ toString depth ++ " (" ++ toString names ++ " symbols)"
  | temporary name type offset =>
    "temporary " ++ name ++ ": " ++ type.name ++ " at " ++ toString offset
  | stringLabel name => "string label " ++ name
  | allocated words offset cursor =>
    "allocated " ++ toString words ++ " word(s) at " ++ toString offset ++ ", cursor now " ++
      toString cursor
  | declared type name words offset =>
    "declared " ++ type.name ++ " " ++ name ++ " (" ++ toString words ++ " word(s)) at " ++
      toString offset
  | emitted line => "emit: " ++ line.text
  | aborted cause => "compilation aborted: " ++ cause.message

end Event

/-- The events of a session that are at least as severe as its level. -/
structure Journal where
  /-- The least severe events that are kept; nothing is kept without a level. -/
  level : Option Severity := none
  /-- The events kept so far, the oldest first. -/
  events : Array Event := #[]

namespace Journal

/-- A journal at the level keeps events of the severity. -/
def keeps (level : Option Severity) (severity : Severity) : Bool :=
  match level with
  | none => false
  | some least => severity.verbosity ≤ least.verbosity

def add (journal : Journal) (event : Event) : Journal :=
  if keeps journal.level event.severity then
    { journal with events := journal.events.push event }
  else journal

@[simp] theorem level_add (journal : Journal) (event : Event) :
    (journal.add event).level = journal.level := by
  unfold add
  split <;> rfl

/-- An event is kept at the end, or not at all. -/
theorem toList_events_add (journal : Journal) (event : Event) :
    (journal.add event).events.toList =
      journal.events.toList ++ [event].filter fun e => keeps journal.level e.severity := by
  unfold add
  by_cases h : keeps journal.level event.severity = true <;> simp [h]

end Journal

end OnePass
