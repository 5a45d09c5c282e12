/-
  OnePass/Proofs/Parts.lean
  =========================
  **Rules are made of parts.**

  Every rule is put together by `>>=` from a few basic steps.  What holds of these
  and goes on along `>>=` holds of all rules that need no other steps
  (`Composed`), and of every action if it also holds of the steps that generate
  names, open and leave scopes, or declare (`Composed.rule`).  Some properties
  allow for one step of another kind among the basic ones: these are put together
  by `Around`.
-/
import OnePass.Proofs.Failure

namespace OnePass

open Asm Step Session

/-- The property holds of the basic steps that leave names and scopes alone, and
    goes on along `>>=`. -/
structure Composed (P : (α : Type) → Step Session α → Prop) : Prop where
  pure : ∀ {α : Type} (a : α), P α (pure a)
  bind : ∀ {α β : Type} {step : Step Session α} {next : α → Step Session β},
    P α step → (∀ a, P β (next a)) → P β (step >>= next)
  current_bind : ∀ {α : Type} {next : Session → Step Session α},
    (∀ s, P α (next s)) → P α (current >>= next)
  /-- A rule fails by itself only when a check does. -/
  fail : ∀ {α : Type} {cause : Fault}, cause.isCheck = true → P α (fail cause)
  line : ∀ {line : Line}, line.isCode = true → P Unit (inListing (Listing.emit line))
  annotate : ∀ text, P Unit (annotate text)
  addString : ∀ entry, P Unit (inListing (Listing.addString entry))
  acquire : P AddressRegister (inPool AddressPool.acquire)
  free : ∀ r, P Unit (inPool (AddressPool.release r))

/-- Steps of the second kind remain so when steps of the first go before or follow. -/
structure Around (P Q : (α : Type) → Step Session α → Prop) : Prop where
  of_part : ∀ {α : Type} {step : Step Session α}, P α step → Q α step
  after : ∀ {α β : Type} {step : Step Session α} {next : α → Step Session β},
    P α step → (∀ a, Q β (next a)) → Q β (step >>= next)
  before : ∀ {α β : Type} {step : Step Session α} {next : α → Step Session β},
    Q α step → (∀ a, P β (next a)) → Q β (step >>= next)

variable {P Q : (α : Type) → Step Session α → Prop}

/-! ### Rules without names -/

namespace Composed

variable (h : Composed P)

include h

theorem ofExcept {α : Type} {result : Except Fault α}
    (hcheck : ∀ cause, result = .error cause → cause.isCheck = true) :
    P α (Step.ofExcept result) := by
  cases result with
  | ok a => exact h.pure a
  | error cause => exact h.fail (hcheck cause rfl)

theorem emit (instruction : Instruction) : P Unit (emit instruction) := h.line rfl

theorem place (label : String) : P Unit (place label) := h.line rfl

theorem emitAll (code : List Instruction) : P Unit (emitAll code) := by
  induction code with
  | nil => exact h.pure ()
  | cons instruction rest ih => exact h.bind (h.emit instruction) fun _ => ih

theorem release (target : Operand) : P Unit (release target) := by
  cases target with
  | slot offset => exact h.pure ()
  | through r => exact h.free r

theorem requireScalar (record : Record) (role : String) : P Unit (requireScalar record role) := by
  unfold Session.requireScalar
  split
  · exact h.pure ()
  · exact h.fail rfl

theorem operand (record : Record) (role : String) : P Operand (operand record role) := by
  refine h.bind (h.requireScalar record role) fun _ => ?_
  split
  · exact h.pure _
  · exact h.bind h.acquire fun r => h.bind (h.emitAll _) fun _ => h.pure _
  · exact h.fail rfl

theorem lookupSymbol (name : String) : P Symbol (lookupSymbol name) := by
  refine h.current_bind fun s => h.ofExcept fun cause hcause => ?_
  unfold Environment.lookupSymbol at hcause
  split at hcause
  · cases hcause
  · cases hcause
    rfl

theorem lookupVariable (name : String) : P Symbol (lookupVariable name) := by
  refine h.bind (h.lookupSymbol name) fun symbol => ?_
  split
  · exact h.pure _
  · exact h.fail rfl

theorem assign (target value : Record) : P Unit (assign target value) := by
  unfold Session.assign
  split
  · refine h.bind (h.operand target _) fun destination => ?_
    refine h.bind (h.operand value _) fun source => ?_
    refine h.bind (h.emitAll _) fun _ => ?_
    exact h.bind (h.release source) fun _ => h.release destination
  · exact h.fail rfl

theorem read (target : Record) : P Unit (Session.read target) := by
  unfold Session.read
  split
  · exact h.fail rfl
  · refine h.bind (h.operand target _) fun destination => ?_
    exact h.bind (h.emitAll _) fun _ => h.release destination

theorem write (value : Record) : P Unit (write value) := by
  unfold Session.write
  split
  · exact h.emitAll _
  · refine h.bind (h.operand value _) fun source => ?_
    refine h.bind (h.emit _) fun _ => ?_
    exact h.bind (h.release source) fun _ => h.emitAll _

theorem newline : P Unit newline := h.emitAll _

/-- What comes behind the label of a branch. -/
theorem branchTo (label : String) (condition : Record) : P String (do
    let source ← Session.operand condition "condition"
    Session.emit (.lw (.t 0) source)
    Session.release source
    Session.emit (.beqz (.t 0) label)
    return label) := by
  refine h.bind (h.operand condition _) fun source => ?_
  refine h.bind (h.emit _) fun _ => ?_
  refine h.bind (h.release source) fun _ => ?_
  exact h.bind (h.emit _) fun _ => h.pure label

theorem branchAndLabel (target label : String) : P Unit (branchAndLabel target label) :=
  h.bind (h.emit _) fun _ => h.place label

theorem around : Around P P := ⟨id, h.bind, h.bind⟩

end Composed

/-! ### Rules with a new temporary -/

namespace Around

variable (h : Composed P) (hq : Around P Q) (hnew : ∀ type, Q Int (newTemporary type))

include h hq hnew

theorem scalarLiteral (type : ValueType) (value : Int) : Q Record (scalarLiteral type value) :=
  hq.before (hnew type) fun _ => h.bind (h.emitAll _) fun _ => h.pure _

theorem apply (operator : Operator) (left right : Record) :
    Q Record (Session.apply operator left right) := by
  refine hq.after (h.requireScalar left _) fun _ => ?_
  refine hq.after (h.requireScalar right _) fun _ => ?_
  refine hq.before (hnew .int) fun result => ?_
  refine h.bind (h.annotate _) fun _ => ?_
  refine h.bind (h.operand left _) fun lhs => ?_
  refine h.bind (h.operand right _) fun rhs => ?_
  refine h.bind (h.emitAll _) fun _ => ?_
  refine h.bind (h.release lhs) fun _ => ?_
  refine h.bind (h.release rhs) fun _ => ?_
  refine h.bind (h.emitAll _) fun _ => ?_
  exact h.bind (h.emit _) fun _ => h.pure _

theorem resolve (spec : String) : Q Record (resolve spec) := by
  refine hq.after (h.ofExcept fun _ => Access.isCheck_of_parse) fun access => ?_
  refine hq.after (h.lookupVariable access.name) fun symbol => ?_
  split
  · exact hq.of_part (h.pure _)
  · split
    · exact hq.of_part (h.pure _)
    · exact hq.of_part (h.fail rfl)
  · refine hq.after (h.lookupSymbol _) fun index => ?_
    refine hq.before (hnew .int) fun slot => ?_
    refine h.bind (h.annotate _) fun _ => ?_
    exact h.bind (h.emitAll _) fun _ => h.pure _

end Around

/-! ### All rules -/

namespace Composed

/-- The property holds of the steps that change names or scopes. -/
structure Naming (P : (α : Type) → Step Session α → Prop) : Prop where
  newTemporary : ∀ type, P Int (newTemporary type)
  newLabel : P String newLabel
  newStringLabel : P (SymbolId × String) (inEnvironment Environment.newStringLabel)
  enterScope : P Unit enterScope
  leaveScope : P Unit leaveScope
  declare : ∀ typeName spec, P SymbolId (declare typeName spec)

variable (h : Composed P) (hn : Naming P)

include h hn

theorem stringLiteral (text : String) : P Record (stringLiteral text) :=
  h.bind hn.newStringLabel fun _ => h.bind (h.addString _) fun _ => h.pure _

theorem branchIfZero (condition : Record) : P String (branchIfZero condition) :=
  h.bind hn.newLabel fun label => h.branchTo label condition

theorem branchThenLabel (pending : String) : P String (branchThenLabel pending) := by
  refine h.bind hn.newLabel fun label => ?_
  exact h.bind (h.emit _) fun _ => h.bind (h.place pending) fun _ => h.pure _

theorem defineLabel (name : Option String) : P String (defineLabel name) := by
  have hname : P String (name.elim Session.newLabel Pure.pure) := by
    cases name with
    | none => exact hn.newLabel
    | some given => exact h.pure given
  exact h.bind hname fun label => h.bind (h.place label) fun _ => h.pure _

theorem rule (action : Action) : P Reply action.rule := by
  have hreply : ∀ {α : Type} {step : Step Session α} (reply : α → Reply),
      P α step → P Reply (step >>= fun a => Pure.pure (reply a)) :=
    fun reply hstep => h.bind hstep fun a => h.pure (reply a)
  cases action with
  | enterScope => exact hreply (fun _ => .done) hn.enterScope
  | leaveScope => exact hreply (fun _ => .done) hn.leaveScope
  | declare typeName spec => exact hreply .symbol (hn.declare typeName spec)
  | resolve spec => exact hreply .record (h.around.resolve h hn.newTemporary spec)
  | intLiteral value =>
    exact hreply .record (h.around.scalarLiteral h hn.newTemporary .int value)
  | charLiteral value =>
    exact hreply .record (h.around.scalarLiteral h hn.newTemporary .char value.toNat)
  | stringLiteral text => exact hreply .record (h.stringLiteral hn text)
  | apply operator left right =>
    exact hreply .record (h.around.apply h hn.newTemporary operator left right)
  | assign target value => exact hreply (fun _ => .done) (h.assign target value)
  | branchIfZero condition => exact hreply .label (h.branchIfZero hn condition)
  | branchThenLabel pending => exact hreply .label (h.branchThenLabel hn pending)
  | branchAndLabel target label => exact hreply (fun _ => .done) (h.branchAndLabel target label)
  | defineLabel name => exact hreply .label (h.defineLabel hn name)
  | read target => exact hreply (fun _ => .done) (h.read target)
  | write value => exact hreply (fun _ => .done) (h.write value)
  | newline => exact hreply (fun _ => .done) h.newline

end Composed

end OnePass
