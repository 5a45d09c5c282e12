/-
  OnePass/Action.lean
  ===================
  **Actions** — what a parser reports to a session, as data.

  There is one action for each rule of the language that has code.  `run`
  performs actions in order; since they are data, what holds after any number
  of them can be stated and proved by induction.
-/
import OnePass.Session.Console
import OnePass.Session.Flow
import OnePass.Session.Naming
import OnePass.Session.Values

namespace OnePass

/-- A report of the parser. -/
inductive Action where
  | enterScope
  | leaveScope
  | declare (typeName spec : String)
  | resolve (spec : String)
  | intLiteral (value : Int)
  | charLiteral (value : Char)
  | stringLiteral (text : String)
  | apply (operator : Operator) (left right : Record)
  | assign (target value : Record)
  | branchIfZero (condition : Record)
  | branchThenLabel (pending : String)
  | branchAndLabel (target label : String)
  | defineLabel (name : Option String)
  | read (target : Record)
  | write (value : Record)
  | newline
  deriving DecidableEq

/-- What a session answers to an action that succeeds. -/
inductive Reply where
  | done
  | symbol (id : SymbolId)
  | record (record : Record)
  | label (name : String)
  deriving DecidableEq

namespace Action

/-- The rule behind an action. -/
def rule : Action → Step Session Reply
  | enterScope => do Session.enterScope; return .done
  | leaveScope => do Session.leaveScope; return .done
  | declare typeName spec => return .symbol (← Session.declare typeName spec)
  | resolve spec => return .record (← Session.resolve spec)
  | intLiteral value => return .record (← Session.intLiteral value)
  | charLiteral value => return .record (← Session.charLiteral value)
  | stringLiteral text => return .record (← Session.stringLiteral text)
  | apply operator left right => return .record (← Session.apply operator left right)
  | assign target value => do Session.assign target value; return .done
  | branchIfZero condition => return .label (← Session.branchIfZero condition)
  | branchThenLabel pending => return .label (← Session.branchThenLabel pending)
  | branchAndLabel target label => do Session.branchAndLabel target label; return .done
  | defineLabel name => return .label (← Session.defineLabel name)
  | read target => do Session.read target; return .done
  | write value => do Session.write value; return .done
  | newline => do Session.newline; return .done

/-- The answer to an action, and the session after it. -/
def perform (action : Action) (s : Journaled Session) : Except Fault Reply × Journaled Session :=
  (Session.act action.rule).perform s

/-- The answers to actions in order, and the session after them. -/
def run : List Action → Journaled Session → List (Except Fault Reply) × Journaled Session
  | [], s => ([], s)
  | action :: rest, s =>
    let (answer, t) := action.perform s
    let (answers, u) := run rest t
    (answer :: answers, u)

end Action

end OnePass
