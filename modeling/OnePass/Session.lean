/-
  OnePass/Session.lean
  ====================
  **The session** — all state of one compilation, and the rule of the first
  fault.

  A session has an environment, a frame, a listing and a pool of address
  registers, and shares nothing with other sessions.  `act` performs a rule of
  the language: the first fault is kept, and after it every rule is refused
  without a trace in the state or the journal.
-/
import OnePass.AddressPool
import OnePass.Environment
import OnePass.Frame
import OnePass.Listing

namespace OnePass

open Asm

/-- What can be chosen for a session. -/
structure Options where
  annotate : Bool := false
  /-- Scopes are kept when they are left. -/
  retainScopes : Bool := true
  deriving DecidableEq

/-- Annotations go with a journal that keeps events of debugging. -/
def Options.ofLevel (level : Option Severity) : Options :=
  { annotate := Journal.keeps level .debug }

structure Session where
  environment : Environment := {}
  frame : Frame := {}
  listing : Listing := {}
  pool : AddressPool := {}
  /-- The fault that ended the session. -/
  firstFault : Option Fault := none

namespace Session

variable {α : Type}

/-- A session in which nothing has happened yet. -/
def start (options : Options) : Session where
  environment := { retains := options.retainScopes }
  listing := { annotated := options.annotate }

def isAborted (session : Session) : Bool := session.firstFault.isSome

/-- The assembly file; after a fault it holds what was written before. -/
def assembly (session : Session) : String := session.listing.render

/-- Performs a rule, unless a fault has ended the session. -/
def act (rule : Step Session α) : Step Session α := fun s =>
  match s.state.firstFault with
  | some _ => .error .aborted s
  | none =>
    match rule s with
    | .ok a t => .ok a t
    | .error cause t =>
      .error cause
        { state := { t.state with firstFault := some cause }
          journal := t.journal.add (.aborted cause) }

/-! ### Steps of the parts -/

def inEnvironment (step : Step Environment α) : Step Session α :=
  step.within Session.environment fun session environment => { session with environment }

def inFrame (step : Step Frame α) : Step Session α :=
  step.within Session.frame fun session frame => { session with frame }

def inListing (step : Step Listing α) : Step Session α :=
  step.within Session.listing fun session listing => { session with listing }

def inPool (step : Step AddressPool α) : Step Session α :=
  step.within Session.pool fun session pool => { session with pool }

def emit (instruction : Instruction) : Step Session Unit :=
  inListing (Listing.emit (.instruction instruction))

def emitAll (code : List Instruction) : Step Session Unit := code.forM emit

def place (label : String) : Step Session Unit := inListing (Listing.emit (.label label))

/-- Appends a remark if annotations are written. -/
def annotate (text : String) : Step Session Unit := inListing (Listing.annotate text)

def lookupSymbol (name : String) : Step Session Symbol := do
  Step.ofExcept ((← Step.current).environment.lookupSymbol name)

/-- Takes a word from the frame for a new temporary and returns its offset. -/
def newTemporary (type : ValueType) : Step Session Int := do
  let offset ← inFrame (Frame.allocate 1)
  let _ ← inEnvironment (Environment.newTemporary type offset)
  return offset

def newLabel : Step Session String := inEnvironment Environment.newBranchLabel

end Session

end OnePass
