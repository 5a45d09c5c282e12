/-
  OnePass/Proofs/Failure.lean
  ===========================
  **Failing actions** — what they leave of a session, and what comes after.

  Rules check first and act then, so a rule that fails has done nothing yet.
  There is one exception: whether there is a scope to keep a symbol in is found
  out when the symbol is added, and by then its words are taken and the remark
  of a declaration is written.  `Stops` lists all that can happen.  After the
  first failure nothing happens any more, whatever is asked for.
-/
import OnePass.Proofs.Rules

namespace OnePass

open Asm Step Session

/-! ### Records that sessions answer -/

def Place.isLabel : Place → Bool
  | .label _ => true
  | _ => false

/-- Texts are found at labels, and everything else in the frame. -/
def Record.Coherent (record : Record) : Prop := record.type.isScalar = !record.place.isLabel

instance (record : Record) : Decidable record.Coherent :=
  inferInstanceAs (Decidable (record.type.isScalar = !record.place.isLabel))

/-- The records an action is given. -/
def Action.records : Action → List Record
  | .apply _ left right => [left, right]
  | .assign target value => [target, value]
  | .branchIfZero condition => [condition]
  | .read target => [target]
  | .write value => [value]
  | _ => []

def Action.Coherent (action : Action) : Prop := ∀ record ∈ action.records, record.Coherent

instance (action : Action) : Decidable action.Coherent :=
  inferInstanceAs (Decidable (∀ record ∈ action.records, record.Coherent))

/-- The record is that of a value in the frame. -/
structure Record.InFrame (record : Record) : Prop where
  isScalar : record.type.isScalar = true
  isLabel : record.place.isLabel = false

theorem Record.InFrame.coherent {record : Record} (h : record.InFrame) : record.Coherent := by
  rw [Record.Coherent, h.isScalar, h.isLabel]
  rfl

theorem Record.Coherent.ne_label {record : Record} (h : record.Coherent)
    (hscalar : record.type.isScalar = true) (name : String) : record.place ≠ .label name := by
  intro hlabel
  rw [Record.Coherent, hscalar, hlabel] at h
  cases h

namespace Session

theorem inFrame_of_resolve {spec : String} {s t : Journaled Session} {record : Record}
    (h : resolve spec s = .ok record t) : record.InFrame := by
  obtain ⟨access, u, -, h⟩ := bind_eq_ok h
  obtain ⟨symbol, v, hvariable, h⟩ := bind_eq_ok h
  obtain ⟨-, hscalar, -⟩ := ensures_lookupVariable access.name u.state hvariable
  cases hsubscript : access.subscript with
  | none =>
    simp only [hsubscript] at h
    cases h
    exact ⟨hscalar, rfl⟩
  | some subscript =>
    cases subscript with
    | literal index =>
      cases hoffset : below? symbol.offset index with
      | none =>
        simp only [hsubscript, hoffset] at h
        cases h
      | some offset =>
        simp only [hsubscript, hoffset] at h
        cases h
        exact ⟨hscalar, rfl⟩
    | named name =>
      simp only [hsubscript] at h
      obtain ⟨index, w, -, h⟩ := bind_eq_ok h
      obtain ⟨slot, x, -, h⟩ := bind_eq_ok h
      obtain ⟨-, y, -, h⟩ := bind_eq_ok h
      obtain ⟨-, z, -, h⟩ := bind_eq_ok h
      cases h
      exact ⟨hscalar, rfl⟩

theorem inFrame_of_scalarLiteral {type : ValueType} {value : Int} {s t : Journaled Session}
    {record : Record} (htype : type.isScalar = true)
    (h : scalarLiteral type value s = .ok record t) : record.InFrame := by
  obtain ⟨offset, u, -, h⟩ := bind_eq_ok h
  obtain ⟨-, v, -, h⟩ := bind_eq_ok h
  cases h
  exact ⟨htype, rfl⟩

theorem inFrame_of_apply {operator : Operator} {left right : Record} {s t : Journaled Session}
    {record : Record} (h : apply operator left right s = .ok record t) : record.InFrame := by
  unfold Session.apply at h
  -- the answer is given in the last of eleven steps
  iterate 11 obtain ⟨_, _, -, h⟩ := bind_eq_ok h
  cases h
  exact ⟨rfl, rfl⟩

theorem record_of_stringLiteral {text : String} {s t : Journaled Session} {record : Record}
    (h : stringLiteral text s = .ok record t) :
    ∃ number, record = ⟨.string, .label (generatedName .stringLabel number)⟩ := by
  obtain ⟨⟨id, label⟩, u, hlabel, h⟩ := bind_eq_ok h
  obtain ⟨-, v, -, h⟩ := bind_eq_ok h
  cases h
  by_cases hactive : s.state.environment.active = []
  · have hrefuses := refuses_inEnvironment (Environment.refuses_newStringLabel hactive)
    exact absurd hlabel hrefuses.ne_ok
  · have hyields := yields_inEnvironment (Environment.yields_newStringLabel hactive)
    obtain ⟨heq, -⟩ := hyields.eq_of_ok hlabel
    cases heq
    exact ⟨_, rfl⟩

end Session

namespace Action

/-- A record that is answered is that of a value in the frame or of a new text. -/
theorem record_of_rule {action : Action} {s t : Journaled Session} {record : Record}
    (h : action.rule s = .ok (.record record) t) : record.InFrame ∨
      ∃ number, record = ⟨.string, .label (generatedName .stringLabel number)⟩ := by
  cases action with
  | resolve spec =>
    obtain ⟨answer, u, hrule, h⟩ := bind_eq_ok h
    cases h
    exact Or.inl (inFrame_of_resolve hrule)
  | intLiteral value =>
    obtain ⟨answer, u, hrule, h⟩ := bind_eq_ok h
    cases h
    exact Or.inl (inFrame_of_scalarLiteral rfl hrule)
  | charLiteral value =>
    obtain ⟨answer, u, hrule, h⟩ := bind_eq_ok h
    cases h
    exact Or.inl (inFrame_of_scalarLiteral rfl hrule)
  | stringLiteral text =>
    obtain ⟨answer, u, hrule, h⟩ := bind_eq_ok h
    cases h
    exact Or.inr (record_of_stringLiteral hrule)
  | apply operator left right =>
    obtain ⟨answer, u, hrule, h⟩ := bind_eq_ok h
    cases h
    exact Or.inl (inFrame_of_apply hrule)
  | _ =>
    obtain ⟨answer, u, -, h⟩ := bind_eq_ok h
    cases h

/-- Whatever records a caller can have from sessions are coherent. -/
theorem coherent_of_perform {action : Action} {s : Journaled Session} {record : Record}
    (h : (action.perform s).1 = .ok (.record record)) : record.Coherent := by
  obtain ⟨journal, hrule⟩ := rule_of_answer h
  rcases record_of_rule hrule with hframe | ⟨number, rfl⟩
  · exact hframe.coherent
  · rfl

end Action

/-! ### Where rules stop -/

/-- A check failed that rules make before they do anything. -/
def Fault.isCheck : Fault → Bool
  | .noActiveScope _ => false
  | .registersExhausted => false
  | .aborted => false
  | _ => true

/-- The action keeps a value in a temporary of its own. -/
def Action.addsTemporary : Action → Bool
  | .resolve _ => true
  | .intLiteral _ => true
  | .charLiteral _ => true
  | .apply _ _ _ => true
  | _ => false

/-- How a rule fails for a cause, and the session it leaves. -/
inductive Stops : Action → Session → Fault → Session → Prop
  /-- Nothing was done before the check that failed. -/
  | refused {action : Action} {s : Session} {cause : Fault} (hcheck : cause.isCheck = true) :
      Stops action s cause s
  /-- No more than a name was drawn. -/
  | drawn {action : Action} {s : Session} {cause : Fault} (hcheck : cause.isCheck = true) :
      Stops action s cause s.drew
  | label {text : String} {s : Session} (hactive : s.environment.active = []) :
      Stops (.stringLiteral text) s
        (.noActiveScope (generatedName .stringLabel s.environment.drawn)) s.drew
  | temporary {action : Action} {s : Session} {grown : Frame} (hadds : action.addsTemporary = true)
      (hroom : s.frame.grow? 1 = some grown) (hactive : s.environment.active = []) :
      Stops action s (.noActiveScope (generatedName .temporary s.environment.drawn))
        { s.drew with frame := grown }
  | declared {typeName spec : String} {s : Session} {type : ValueType} {declarator : Declarator}
      {grown : Frame} (h : Declarable s typeName spec type declarator grown)
      (hactive : s.environment.active = []) :
      Stops (.declare typeName spec) s (.noActiveScope declarator.name)
        { s.remarked (declarationRemark type spec s.frame.cursor) with frame := grown }

theorem exists_yields_bind {α β : Type} {step : Step Session α} {next : α → Step Session β}
    {s t : Session} {a : α} (h : Yields step s a t) (hnext : ∃ b u, Yields (next a) t b u) :
    ∃ b u, Yields (step >>= next) s b u := by
  obtain ⟨b, u, hyields⟩ := hnext
  exact ⟨b, u, h.bind hyields⟩

/-- The step succeeds, or the action stops there. -/
def Settles {α : Type} (action : Action) (step : Step Session α) (s : Session) : Prop :=
  (∃ a t, Yields step s a t) ∨ ∃ cause t, Refuses step s cause t ∧ Stops action s cause t

namespace Settles

variable {α β : Type} {action : Action} {s : Session}

theorem of_yields {step : Step Session α} {a : α} {t : Session} (h : Yields step s a t) :
    Settles action step s :=
  Or.inl ⟨a, t, h⟩

theorem of_refuses {step : Step Session α} {cause : Fault} (h : Refuses step s cause s)
    (hcheck : cause.isCheck = true) : Settles action step s :=
  Or.inr ⟨cause, s, h, .refused hcheck⟩

/-- A step that leaves the session as it is goes before the others. -/
theorem after {step : Step Session α} {next : α → Step Session β} {a : α}
    (h : Yields step s a s) (hnext : Settles action (next a) s) :
    Settles action (step >>= next) s := by
  rcases hnext with ⟨b, t, hyields⟩ | ⟨cause, t, hrefuses, hstops⟩
  · exact Or.inl ⟨b, t, h.bind hyields⟩
  · exact Or.inr ⟨cause, t, h.bind_refuses hrefuses, hstops⟩

theorem ofExcept {result : Except Fault α} {next : α → Step Session β}
    (hcheck : ∀ cause, result = .error cause → cause.isCheck = true)
    (hnext : ∀ a, result = .ok a → Settles action (next a) s) :
    Settles action (Step.ofExcept result >>= next) s := by
  cases hresult : result with
  | ok a => exact Settles.after (yields_pure a s) (hnext a hresult)
  | error cause =>
    have hrefuses : Refuses (Step.ofExcept (.error cause : Except Fault α)) s cause s :=
      refuses_fail cause s
    exact Settles.of_refuses hrefuses.bind (hcheck cause hresult)

/-- What cannot fail may follow. -/
theorem then_yields {step : Step Session α} {next : α → Step Session β} (h : Settles action step s)
    (hnext : ∀ a t, Yields step s a t → ∃ b u, Yields (next a) t b u) :
    Settles action (step >>= next) s := by
  rcases h with ⟨a, t, hyields⟩ | ⟨cause, t, hrefuses, hstops⟩
  · obtain ⟨b, u, hthen⟩ := hnext a t hyields
    exact Or.inl ⟨b, u, hyields.bind hthen⟩
  · exact Or.inr ⟨cause, t, hrefuses.bind, hstops⟩

theorem then_pure {step : Step Session α} (h : Settles action step s) (f : α → β) :
    Settles action (step >>= fun a => pure (f a)) s :=
  h.then_yields fun a t _ => ⟨f a, t, yields_pure (f a) t⟩

end Settles

namespace Session

variable {α : Type} {action : Action} {s : Session}

theorem settles_newTemporary {type : ValueType} {next : Int → Step Session α}
    (hadds : action.addsTemporary = true)
    (hnext : ∀ grown, ∃ a t, Yields (next s.frame.cursor) (s.withTemporary type grown) a t) :
    Settles action (newTemporary type >>= next) s := by
  cases hroom : s.frame.grow? 1 with
  | none =>
    exact Settles.of_refuses (refuses_newTemporary_of_no_room hroom).bind rfl
  | some grown =>
    by_cases hactive : s.environment.active = []
    · have hrefuses : Refuses (newTemporary type) s _ _ :=
        refuses_newTemporary_of_no_scope hroom hactive
      exact Or.inr ⟨_, _, hrefuses.bind, .temporary hadds hroom hactive⟩
    · obtain ⟨a, t, hyields⟩ := hnext grown
      exact Settles.of_yields ((yields_newTemporary hroom hactive).bind hyields)

theorem settles_requireScalar {record : Record} {role : String} {next : Unit → Step Session α}
    (hnext : record.type.isScalar = true → Settles action (next ()) s) :
    Settles action (requireScalar record role >>= next) s := by
  cases hscalar : record.type.isScalar with
  | true => exact Settles.after (yields_requireScalar hscalar role s) (hnext hscalar)
  | false =>
    exact Settles.of_refuses (refuses_requireScalar hscalar role s).bind rfl

/-- Making a coherent operand ready fails only for its type. -/
theorem settles_operand {record : Record} {role : String} {next : Operand → Step Session α}
    (hcoherent : record.Coherent) (hfree : s.pool.isHeld s.pool.first = false)
    (hnext : record.type.isScalar = true →
      ∃ a t, Yields (next (record.place.operand s.pool.first)) (s.withOperand record.place) a t) :
    Settles action (operand record role >>= next) s := by
  cases hscalar : record.type.isScalar with
  | true =>
    obtain ⟨a, t, hyields⟩ := hnext hscalar
    have hoperand : Yields (operand record role) s _ _ :=
      yields_operand hscalar (hcoherent.ne_label hscalar) hfree
    exact Settles.of_yields (hoperand.bind hyields)
  | false =>
    exact Settles.of_refuses (refuses_requireScalar hscalar role s).bind.bind rfl

theorem settles_lookupSymbol {name : String} {next : Symbol → Step Session α}
    (hnext : ∀ symbol, Settles action (next symbol) s) :
    Settles action (lookupSymbol name >>= next) s := by
  have hsettles : Settles action (Step.ofExcept (s.environment.lookupSymbol name) >>= next) s := by
    apply Settles.ofExcept
    · intro cause hcause
      unfold Environment.lookupSymbol at hcause
      split at hcause
      · cases hcause
      · cases hcause
        rfl
    · intro symbol _
      exact hnext symbol
  rcases hsettles with ⟨a, t, hyields⟩ | ⟨cause, t, hrefuses, hstops⟩
  · exact Or.inl ⟨a, t, fun journal => hyields journal⟩
  · exact Or.inr ⟨cause, t, fun journal => hrefuses journal, hstops⟩

theorem settles_lookupVariable {name : String} {next : Symbol → Step Session α}
    (hnext : ∀ symbol, Settles action (next symbol) s) :
    Settles action (lookupVariable name >>= next) s := by
  unfold lookupVariable
  rw [bind_assoc]
  apply settles_lookupSymbol
  intro symbol
  cases hscalar : symbol.type.isScalar with
  | true => exact Settles.after (yields_pure symbol s) (hnext symbol)
  | false => exact Settles.of_refuses (refuses_fail (.undeclaredSymbol name) s).bind rfl

end Session

/-! ### Where the rules about names stop -/

theorem Declarator.isCheck_of_parse {spec : String} {cause : Fault}
    (h : Declarator.parse spec = .error cause) : cause.isCheck = true := by
  simp only [Declarator.parse, Declarator.ofTrimmed] at h
  split at h
  · split at h
    · cases h
    · cases h
      rfl
  · split at h
    · cases h
    · cases h
      rfl

theorem Access.isCheck_of_parse {spec : String} {cause : Fault}
    (h : Access.parse spec = .error cause) : cause.isCheck = true := by
  simp only [Access.parse, Access.ofTrimmed] at h
  split at h
  · cases h
  · split at h
    · split at h
      · cases h
      · cases h
        rfl
    · cases h

namespace Session

variable {action : Action} {s : Session}

theorem settles_resolve {spec : String} (hadds : action.addsTemporary = true) :
    Settles action (resolve spec) s := by
  unfold resolve
  apply Settles.ofExcept
  · intro cause hcause
    exact Access.isCheck_of_parse hcause
  intro access _
  apply settles_lookupVariable
  intro symbol
  cases access.subscript with
  | none => exact Settles.of_yields (yields_pure _ s)
  | some subscript =>
    cases subscript with
    | literal index =>
      cases hoffset : below? symbol.offset index with
      | none =>
        simp only [hoffset]
        exact Settles.of_refuses (refuses_fail _ s) rfl
      | some offset =>
        simp only [hoffset]
        exact Settles.of_yields (yields_pure _ s)
    | named name =>
      apply settles_lookupSymbol
      intro index
      apply settles_newTemporary hadds
      intro grown
      exact ⟨_, _, (yields_annotate _ _).bind ((yields_emitAll _ _).bind (yields_pure _ _))⟩

theorem isCheck_of_declaredType {typeName : String} {cause : Fault}
    (h : declaredType typeName = .error cause) : cause.isCheck = true := by
  unfold declaredType at h
  split at h
  · cases h
  · cases h
    rfl

theorem ofName?_of_declaredType {typeName : String} {type : ValueType}
    (h : declaredType typeName = .ok type) : ValueType.ofName? typeName = some type := by
  unfold declaredType at h
  split at h
  · next hsome =>
    cases h
    exact hsome
  · cases h

theorem settles_declare (typeName spec : String) :
    Settles (.declare typeName spec) (declare typeName spec) s := by
  by_cases hdeclarable : ∃ type declarator grown, Declarable s typeName spec type declarator grown
  · obtain ⟨type, declarator, grown, h⟩ := hdeclarable
    by_cases hactive : s.environment.active = []
    · exact Or.inr ⟨_, _, refuses_declare_of_no_scope h hactive, .declared h hactive⟩
    · exact Settles.of_yields (yields_declare h hactive)
  · unfold declare
    apply Settles.ofExcept
    · intro cause hcause
      exact isCheck_of_declaredType hcause
    intro type htype
    apply Settles.ofExcept
    · intro cause hcause
      exact Declarator.isCheck_of_parse hcause
    intro declarator hparse
    cases hfresh : (s.environment.findLocal? declarator.name).bind s.environment.symbol? with
    | some previous => exact Settles.of_refuses (refuses_requireFresh hfresh).bind rfl
    | none =>
      apply Settles.after (yields_requireFresh hfresh)
      cases hroom : s.frame.grow? declarator.words with
      | none => exact Settles.of_refuses (refuses_allocate hroom).bind rfl
      | some grown =>
        have hname := ofName?_of_declaredType htype
        exact absurd ⟨type, declarator, grown, hname, hparse, hfresh, hroom⟩ hdeclarable

end Session

/-! ### Where the rules about values stop -/

theorem isScalar_of_canAssign {target value : ValueType} (h : canAssign target value = true) :
    value.isScalar = target.isScalar := by
  cases target <;> cases value <;> first | rfl | cases h

namespace Session

variable {action : Action} {s : Session} {next : Fin 7}

theorem settles_scalarLiteral {type : ValueType} {value : Int}
    (hadds : action.addsTemporary = true) :
    Settles action (scalarLiteral type value) s := by
  apply settles_newTemporary hadds
  intro grown
  exact ⟨_, _, (yields_emitAll _ _).bind (yields_pure _ _)⟩

theorem settles_stringLiteral (text : String) :
    Settles (.stringLiteral text) (stringLiteral text) s := by
  by_cases hactive : s.environment.active = []
  · have hrefuses := refuses_inEnvironment (Environment.refuses_newStringLabel hactive)
    exact Or.inr ⟨_, _, hrefuses.bind, .label hactive⟩
  · have hlabel := yields_inEnvironment (Environment.yields_newStringLabel hactive)
    exact Settles.of_yields (hlabel.bind ((yields_addString _ _).bind (yields_pure _ _)))

theorem yields_release_any (target : Operand) (s : Session) :
    ∃ t, Yields (release target) s () t := by
  cases target with
  | slot offset => exact ⟨s, yields_pure () s⟩
  | through r => exact ⟨_, yields_release r s⟩

/-- Two operands can always be made ready at once. -/
theorem exists_yields_operands {α : Type} {left right : Record} {role : String}
    {use : Operand → Operand → Step Session α} (hidle : s.pool = .idle next)
    (hleft : left.Coherent) (hright : right.Coherent) (hl : left.type.isScalar = true)
    (hr : right.type.isScalar = true)
    (huse : ∀ lhs rhs t, ∃ a u, Yields (use lhs rhs) t a u) :
    ∃ a u, Yields (do
      let lhs ← operand left role
      let rhs ← operand right role
      use lhs rhs) s a u := by
  have hfirst : s.pool.isHeld s.pool.first = false := by
    rw [hidle]
    exact AddressPool.isHeld_idle next _
  have hsecond : (s.withOperand left.place).pool.isHeld (s.withOperand left.place).pool.first =
      false := by
    have hpool : (s.withOperand left.place).pool = left.place.held (.idle next) := by
      rw [← hidle]
      rfl
    rw [hpool]
    exact (Place.first_held_idle left.place next).1
  apply exists_yields_bind (yields_operand hl (hleft.ne_label hl) hfirst)
  apply exists_yields_bind (yields_operand hr (hright.ne_label hr) hsecond)
  exact huse _ _ _

theorem settles_apply {operator : Operator} {left right : Record}
    (hadds : action.addsTemporary = true)
    (hidle : s.pool = .idle next) (hleft : left.Coherent) (hright : right.Coherent) :
    Settles action (apply operator left right) s := by
  apply settles_requireScalar
  intro hl
  apply settles_requireScalar
  intro hr
  apply settles_newTemporary hadds
  intro grown
  apply exists_yields_bind (yields_annotate _ _)
  apply exists_yields_operands (by exact hidle) hleft hright hl hr
  intro lhs rhs t
  apply exists_yields_bind (yields_emitAll _ t)
  obtain ⟨u, hfirst⟩ := yields_release_any lhs _
  apply exists_yields_bind hfirst
  obtain ⟨v, hsecond⟩ := yields_release_any rhs u
  apply exists_yields_bind hsecond
  apply exists_yields_bind (yields_emitAll _ v)
  apply exists_yields_bind (yields_emit _ _)
  exact ⟨_, _, yields_pure _ _⟩

theorem settles_assign {target value : Record} (hidle : s.pool = .idle next)
    (htarget : target.Coherent) (hvalue : value.Coherent) :
    Settles action (assign target value) s := by
  unfold assign
  split
  · next hcan =>
    cases hscalar : target.type.isScalar with
    | true =>
      have hv := (isScalar_of_canAssign hcan).trans hscalar
      apply Or.inl
      apply exists_yields_operands hidle htarget hvalue hscalar hv
      intro destination source t
      apply exists_yields_bind (yields_emitAll _ t)
      obtain ⟨u, hfirst⟩ := yields_release_any source _
      apply exists_yields_bind hfirst
      obtain ⟨v, hsecond⟩ := yields_release_any destination u
      exact ⟨_, _, hsecond⟩
    | false => exact Settles.of_refuses (refuses_requireScalar hscalar _ s).bind.bind rfl
  · exact Settles.of_refuses (refuses_fail _ s) rfl

theorem settles_read {target : Record} (hidle : s.pool = .idle next) (htarget : target.Coherent) :
    Settles action (read target) s := by
  unfold Session.read
  split
  · exact Settles.of_refuses (refuses_fail _ s) rfl
  · next service _ =>
    apply settles_operand htarget
    · rw [hidle]
      exact AddressPool.isHeld_idle next _
    · intro _
      obtain ⟨t, hrelease⟩ := yields_release_any (target.place.operand s.pool.first) _
      exact ⟨_, _, (yields_emitAll _ _).bind hrelease⟩

theorem settles_write {value : Record} (hidle : s.pool = .idle next) (hvalue : value.Coherent) :
    Settles action (write value) s := by
  unfold Session.write
  split
  · exact Settles.of_yields (yields_emitAll _ s)
  · apply settles_operand hvalue
    · rw [hidle]
      exact AddressPool.isHeld_idle next _
    · intro _
      obtain ⟨t, hrelease⟩ := yields_release_any (value.place.operand s.pool.first) _
      exact ⟨_, _, (yields_emit _ _).bind (hrelease.bind (yields_emitAll _ t))⟩

/-- The label is drawn before the condition is looked at. -/
theorem settles_branchIfZero {condition : Record} (hidle : s.pool = .idle next)
    (hcondition : condition.Coherent) : Settles action (branchIfZero condition) s := by
  cases hscalar : condition.type.isScalar with
  | true =>
    have hoperand : Yields (operand condition "condition") s.drew _ _ :=
      yields_operand hscalar (hcondition.ne_label hscalar) (by
        rw [show s.drew.pool = s.pool from rfl, hidle]
        exact AddressPool.isHeld_idle next _)
    obtain ⟨t, hrelease⟩ := yields_release_any (condition.place.operand s.drew.pool.first) _
    exact Settles.of_yields ((yields_newLabel s).bind (hoperand.bind ((yields_emit _ _).bind
      (hrelease.bind ((yields_emit _ t).bind (yields_pure _ _))))))
  | false =>
    have hrefuses : Refuses (operand condition "condition") s.drew _ s.drew :=
      (refuses_requireScalar hscalar "condition" s.drew).bind
    exact Or.inr ⟨_, _, (yields_newLabel s).bind_refuses hrefuses.bind, .drawn rfl⟩

end Session

/-! ### Where actions stop -/

namespace Action

/-- Every action on a session with no register held succeeds or stops as told. -/
theorem settles_rule {s : Session} {next : Fin 7} (hidle : s.pool = .idle next) {action : Action}
    (h : action.Coherent) : Settles action action.rule s := by
  cases action with
  | enterScope =>
    exact (Settles.of_yields (yields_inEnvironment (Environment.yields_enterScope _))).then_pure _
  | leaveScope =>
    refine Settles.then_pure ?_ _
    by_cases hactive : s.environment.active = []
    · have hrefuses := refuses_inEnvironment (Environment.refuses_leaveScope hactive)
      exact Settles.of_refuses hrefuses rfl
    · exact Settles.of_yields (yields_inEnvironment (Environment.yields_leaveScope hactive))
  | declare typeName spec => exact (settles_declare typeName spec).then_pure _
  | resolve spec => exact (settles_resolve rfl).then_pure _
  | intLiteral value => exact (settles_scalarLiteral rfl).then_pure _
  | charLiteral value => exact (settles_scalarLiteral rfl).then_pure _
  | stringLiteral text => exact (settles_stringLiteral text).then_pure _
  | apply operator left right =>
    have hleft := h left List.mem_cons_self
    have hright := h right (List.mem_cons_of_mem _ List.mem_cons_self)
    exact (settles_apply rfl hidle hleft hright).then_pure _
  | assign target value =>
    have htarget := h target List.mem_cons_self
    have hvalue := h value (List.mem_cons_of_mem _ List.mem_cons_self)
    exact (settles_assign hidle htarget hvalue).then_pure _
  | branchIfZero condition =>
    exact (settles_branchIfZero hidle (h condition List.mem_cons_self)).then_pure _
  | branchThenLabel pending =>
    refine Settles.then_pure (Or.inl ?_) _
    apply exists_yields_bind (yields_newLabel s)
    apply exists_yields_bind (yields_emit _ _)
    exact ⟨_, _, (yields_place _ _).bind (yields_pure _ _)⟩
  | branchAndLabel target label =>
    exact (Settles.of_yields ((yields_emit _ s).bind (yields_place _ _))).then_pure _
  | defineLabel name =>
    refine Settles.then_pure (Or.inl ?_) _
    cases name with
    | none =>
      apply exists_yields_bind (yields_newLabel s)
      exact ⟨_, _, (yields_place _ _).bind (yields_pure _ _)⟩
    | some given =>
      apply exists_yields_bind (yields_pure given s)
      exact ⟨_, _, (yields_place _ _).bind (yields_pure _ _)⟩
  | read target => exact (settles_read hidle (h target List.mem_cons_self)).then_pure _
  | write value => exact (settles_write hidle (h value List.mem_cons_self)).then_pure _
  | newline => exact (Settles.of_yields (yields_emitAll _ s)).then_pure _

/-- An action that fails in a reachable session stops, and its fault is kept. -/
theorem stops_of_perform {s : Journaled Session} (hs : Reachable s)
    (hlive : s.state.firstFault = none) {action : Action} (h : action.Coherent) {cause : Fault}
    (hfail : (action.perform s).1 = .error cause) :
    ∃ t, Stops action s.state cause t ∧
      (action.perform s).2.state = { t with firstFault := some cause } := by
  obtain ⟨next, hidle⟩ := hs.pool_idle hlive
  rcases settles_rule hidle h with ⟨reply, t, hyields⟩ | ⟨found, t, hrefuses, hstops⟩
  · obtain ⟨journal, hok⟩ := perform_of_yields hlive hyields
    rw [hok] at hfail
    cases hfail
  · obtain ⟨journal, hfails⟩ := perform_of_refuses hlive hrefuses
    rw [hfails] at hfail ⊢
    cases hfail
    exact ⟨t, hstops, rfl⟩

end Action

/-! ### What a failing action leaves -/

/-- The words an action asks the frame for when it adds a symbol. -/
def Action.words : Action → Nat
  | .declare _ spec =>
    match Declarator.parse spec with
    | .ok declarator => declarator.words
    | .error _ => 0
  | .stringLiteral _ => 0
  | _ => 1

/-- The remark of a declaration, where remarks are written. -/
def Action.remarks (s : Session) : Action → List Line
  | .declare typeName spec =>
    match s.listing.annotated, ValueType.ofName? typeName with
    | true, some type => [.remark (declarationRemark type spec s.frame.cursor)]
    | _, _ => []
  | _ => []

/-- The session after an action that found no scope for its symbol: the words
    are taken, and the remark of a declaration is written. -/
structure Unplaced (action : Action) (s t : Session) : Prop where
  scope : s.environment.active = []
  words_pos : 0 < action.words
  cursor_eq : t.frame.cursor = s.frame.cursor - 4 * action.words
  body_eq : t.body = s.body ++ action.remarks s

namespace Stops

variable {action : Action} {s t : Session} {cause : Fault}

/-- The cause is a check of the rule's own, or the want of a scope. -/
theorem isCheck_or_unplaced (h : Stops action s cause t) :
    cause.isCheck = true ∨ ∃ name, cause = .noActiveScope name := by
  cases h with
  | refused hcheck => exact Or.inl hcheck
  | drawn hcheck => exact Or.inl hcheck
  | label => exact Or.inr ⟨_, rfl⟩
  | temporary => exact Or.inr ⟨_, rfl⟩
  | declared => exact Or.inr ⟨_, rfl⟩

theorem ne_aborted (h : Stops action s cause t) : cause ≠ .aborted := by
  rintro rfl
  rcases h.isCheck_or_unplaced with hcheck | ⟨name, hname⟩
  · cases hcheck
  · cases hname

/-- There is always a register for an operand. -/
theorem ne_registersExhausted (h : Stops action s cause t) : cause ≠ .registersExhausted := by
  rintro rfl
  rcases h.isCheck_or_unplaced with hcheck | ⟨name, hname⟩
  · cases hcheck
  · cases hname

theorem pool_eq (h : Stops action s cause t) : t.pool = s.pool := by
  cases h <;> rfl

/-- Symbols, scopes and strings stay as they were. -/
theorem keeps (h : Stops action s cause t) :
    t.environment.symbols = s.environment.symbols ∧
      t.environment.active = s.environment.active ∧
      t.environment.retired = s.environment.retired ∧
      t.listing.strings = s.listing.strings := by
  cases h with
  | refused => exact ⟨rfl, rfl, rfl, rfl⟩
  | drawn => exact ⟨rfl, rfl, rfl, rfl⟩
  | label => exact ⟨rfl, rfl, rfl, rfl⟩
  | temporary => exact ⟨rfl, rfl, rfl, rfl⟩
  | @declared typeName spec _ type declarator grown h hactive =>
    refine ⟨rfl, rfl, rfl, ?_⟩
    by_cases hannotated : s.listing.annotated = true
    · rw [remarked_of_annotated hannotated]
      rfl
    · rw [remarked_of_plain (by simpa using hannotated)]

theorem body_remarked {typeName : String} {type : ValueType}
    (htype : ValueType.ofName? typeName = some type) (spec : String) (grown : Frame) :
    { s.remarked (declarationRemark type spec s.frame.cursor) with frame := grown }.body =
      s.body ++ (Action.declare typeName spec).remarks s := by
  cases hannotated : s.listing.annotated with
  | true =>
    rw [remarked_of_annotated hannotated]
    simp only [Action.remarks, hannotated, htype]
    exact body_wrote s _
  | false =>
    rw [remarked_of_plain hannotated]
    simp only [Action.remarks, hannotated, List.append_nil]
    rfl

theorem remarks_eq (action : Action) (s : Session) :
    action.remarks s = [] ∨
      s.listing.annotated = true ∧ ∃ text, action.remarks s = [.remark text] := by
  cases action with
  | declare typeName spec =>
    simp only [Action.remarks]
    split
    · next hannotated _ => exact Or.inr ⟨hannotated, _, rfl⟩
    · exact Or.inl rfl
  | _ => exact Or.inl rfl

/-- Only the want of a scope is found out too late. -/
theorem kept_or_unplaced (h : Stops action s cause t) :
    (t.frame = s.frame ∧ t.body = s.body ∧
      ((∀ name, cause ≠ .noActiveScope name) ∨ ∃ text, action = .stringLiteral text)) ∨
    (Unplaced action s t ∧ (∃ name, cause = .noActiveScope name) ∧
      ∀ text, action ≠ .stringLiteral text) := by
  cases h with
  | refused hcheck =>
    refine Or.inl ⟨rfl, rfl, Or.inl ?_⟩
    rintro name rfl
    cases hcheck
  | drawn hcheck =>
    refine Or.inl ⟨rfl, rfl, Or.inl ?_⟩
    rintro name rfl
    cases hcheck
  | label => exact Or.inl ⟨rfl, rfl, Or.inr ⟨_, rfl⟩⟩
  | @temporary _ _ grown hadds hroom hactive =>
    have hwords : action.words = 1 := by
      cases action <;> first | rfl | cases hadds
    have hremarks : action.remarks s = [] := by
      cases action <;> first | rfl | cases hadds
    have hliteral : ∀ text, action ≠ .stringLiteral text := by
      rintro text rfl
      cases hadds
    refine Or.inr ⟨⟨hactive, ?_, ?_, ?_⟩, ⟨_, rfl⟩, hliteral⟩
    · rw [hwords]
      exact Nat.one_pos
    · rw [hwords]
      exact (Frame.grow?_eq_some_iff.mp hroom).1
    · rw [hremarks, List.append_nil]
      rfl
  | @declared typeName spec _ type declarator grown h hactive =>
    have hwords : (Action.declare typeName spec).words = declarator.words := by
      simp only [Action.words, h.parse_eq]
    refine Or.inr ⟨⟨hactive, ?_, ?_, body_remarked h.type_eq spec grown⟩, ⟨_, rfl⟩, nofun⟩
    · rw [hwords]
      exact (Declarator.parse_eq_ok h.parse_eq).2
    · rw [hwords]
      exact (Frame.grow?_eq_some_iff.mp h.room).1

theorem body_eq (h : Stops action s cause t) :
    t.body = s.body ∨ s.listing.annotated = true ∧ ∃ text, t.body = s.body ++ [.remark text] := by
  rcases h.kept_or_unplaced with ⟨-, hbody, -⟩ | ⟨hunplaced, -⟩
  · exact Or.inl hbody
  · rw [hunplaced.body_eq]
    rcases remarks_eq action s with hnone | ⟨hannotated, text, hremark⟩
    · exact Or.inl (by rw [hnone, List.append_nil])
    · exact Or.inr ⟨hannotated, text, by rw [hremark]⟩

end Stops

/-- **An action that fails leaves no trace, unless it wanted a scope.**  Symbols,
    scopes and strings stay in any case.  The frame and the body stay too, but
    for a symbol with words that found no scope: these words are lost. -/
theorem failed_leaves {s : Journaled Session} (hs : Reachable s)
    (hlive : s.state.firstFault = none) {action : Action} (haction : action.Coherent)
    {cause : Fault} (hfail : (action.perform s).1 = .error cause) :
    let t := (action.perform s).2.state
    t.environment.symbols = s.state.environment.symbols ∧
      t.environment.active = s.state.environment.active ∧
      t.environment.retired = s.state.environment.retired ∧
      t.listing.strings = s.state.listing.strings ∧
      ((∀ name, cause ≠ .noActiveScope name) ∨ (∃ text, action = .stringLiteral text) →
        t.frame = s.state.frame ∧ t.body = s.state.body) ∧
      ((∃ name, cause = .noActiveScope name) → (∀ text, action ≠ .stringLiteral text) →
        Unplaced action s.state t) := by
  intro t
  obtain ⟨u, hstops, ht⟩ := Action.stops_of_perform hs hlive haction hfail
  obtain ⟨hsymbols, hactive, hretired, hstrings⟩ := hstops.keeps
  have htu : t = { u with firstFault := some cause } := ht
  rw [htu]
  refine ⟨hsymbols, hactive, hretired, hstrings, ?_, ?_⟩
  · intro hplaced
    rcases hstops.kept_or_unplaced with ⟨hframe, hbody, -⟩ | ⟨-, ⟨name, hname⟩, hliteral⟩
    · exact ⟨hframe, hbody⟩
    · rcases hplaced with hcause | ⟨text, htext⟩
      · exact absurd hname (hcause name)
      · exact absurd htext (hliteral text)
  · rintro ⟨name, hname⟩ hliteral
    rcases hstops.kept_or_unplaced with ⟨-, -, hcause | ⟨text, htext⟩⟩ | ⟨hunplaced, -⟩
    · exact absurd hname (hcause name)
    · exact absurd htext (hliteral text)
    · exact ⟨hunplaced.scope, hunplaced.words_pos, hunplaced.cursor_eq, hunplaced.body_eq⟩

-- A second declaration of a name, behind a literal.
theorem failed_leaves_of_duplicate :
    let s := (Action.run [.enterScope, .declare "int" "x", .intLiteral 5]
      { state := Session.start {} }).2
    let t := ((Action.declare "char" "x[7]").perform s).2
    t.state.frame.cursor = -8 ∧ t.state.body = s.state.body := by
  intro s t
  have hreachable : Reachable s := ⟨_, _, _, rfl⟩
  have hlive : s.state.firstFault = none := by unfold s; decide +kernel
  have hcursor : s.state.frame.cursor = -8 := by unfold s; decide +kernel
  have hfail : ((Action.declare "char" "x[7]").perform s).1 =
      .error (.duplicateDeclaration "x" 0) := by
    unfold s
    decide +kernel
  have hcoherent : (Action.declare "char" "x[7]").Coherent := nofun
  obtain ⟨-, -, -, -, hkept, -⟩ := failed_leaves hreachable hlive hcoherent hfail
  obtain ⟨hframe, hbody⟩ := hkept (Or.inl nofun)
  constructor
  · rw [hframe]
    exact hcursor
  · exact hbody

-- Without a scope there is no place for the variable, but its word is gone.
theorem word_lost_without_scope :
    let s : Journaled Session := { state := Session.start { annotate := true } }
    let result := (Action.declare "int" "x").perform s
    result.1 = .error (.noActiveScope "x") ∧ s.state.frame.cursor = 0 ∧ s.state.body = [] ∧
      result.2.state.frame.cursor = -4 ∧ result.2.state.body = [.remark "int x at 0"] := by
  decide +kernel

/-! ### Runs up to the first fault and behind it -/

/-- Every action of the run succeeds, and the session can go on. -/
structure Completes (actions : List Action) (s : Journaled Session) : Prop where
  answers : ∃ replies : List Reply, (Action.run actions s).1 = replies.map .ok
  live : (Action.run actions s).2.state.firstFault = none

/-- The run completes up to an action that fails, and from there on the session
    stands still. -/
structure Breaks (before : List Action) (failing : Action) (behind : List Action) (cause : Fault)
    (s : Journaled Session) : Prop where
  completes : Completes before s
  cause_ne : cause ≠ .aborted
  answers : (Action.run (before ++ failing :: behind) s).1 =
    (Action.run before s).1 ++ .error cause :: List.replicate behind.length (.error .aborted)
  still : (Action.run (before ++ failing :: behind) s).2 =
    (failing.perform (Action.run before s).2).2
  kept : (failing.perform (Action.run before s).2).2.state.firstFault = some cause
  /-- The failing action writes no code, and at most one remark. -/
  body : (failing.perform (Action.run before s).2).2.state.body =
      (Action.run before s).2.state.body ∨
    (Action.run before s).2.state.listing.annotated = true ∧
      ∃ text, (failing.perform (Action.run before s).2).2.state.body =
        (Action.run before s).2.state.body ++ [.remark text]

namespace Action

variable {s : Journaled Session} {action : Action}

theorem answers_append (first second : List Action) (s : Journaled Session) :
    (run (first ++ second) s).1 = (run first s).1 ++ (run second (run first s).2).1 := by
  induction first generalizing s with
  | nil => rfl
  | cons action rest ih => exact congrArg _ (ih (action.perform s).2)

theorem live_of_ok {reply : Reply} (h : (action.perform s).1 = .ok reply) :
    s.state.firstFault = none ∧ (action.perform s).2.state.firstFault = none := by
  obtain ⟨hlive, -, hchanges⟩ := changes_of_answer h
  exact ⟨hlive, hchanges.firstFault_eq.trans hlive⟩

end Action

namespace Completes

variable {s : Journaled Session} {action : Action} {actions rest : List Action}

theorem nil (hlive : s.state.firstFault = none) : Completes [] s := ⟨⟨[], rfl⟩, hlive⟩

theorem cons {reply : Reply} (h : (action.perform s).1 = .ok reply)
    (hrest : Completes rest (action.perform s).2) : Completes (action :: rest) s := by
  obtain ⟨replies, hreplies⟩ := hrest.answers
  refine ⟨⟨reply :: replies, ?_⟩, hrest.live⟩
  simp only [Action.run, hreplies, h, List.map_cons]

theorem of_cons (h : Completes (action :: rest) s) :
    (∃ reply, (action.perform s).1 = .ok reply) ∧ Completes rest (action.perform s).2 := by
  obtain ⟨replies, hreplies⟩ := h.answers
  cases replies with
  | nil => cases hreplies
  | cons reply replies =>
    obtain ⟨hreply, hrest⟩ := List.cons.inj hreplies
    exact ⟨⟨reply, hreply⟩, ⟨replies, hrest⟩, h.live⟩

/-- A run that completes has been without a fault all along. -/
theorem start_live (h : Completes actions s) : s.state.firstFault = none := by
  cases actions with
  | nil => exact h.live
  | cons action rest =>
    obtain ⟨reply, hok⟩ := h.of_cons.1
    exact (Action.live_of_ok hok).1

theorem of_append {first second : List Action} (h : Completes (first ++ second) s) :
    Completes first s ∧ Completes second (Action.run first s).2 := by
  induction first generalizing s with
  | nil => exact ⟨nil h.start_live, h⟩
  | cons action rest ih =>
    obtain ⟨⟨reply, hok⟩, hrest⟩ := h.of_cons
    obtain ⟨hfirst, hsecond⟩ := ih hrest
    exact ⟨hfirst.cons hok, hsecond⟩

end Completes

namespace Breaks

variable {s : Journaled Session} {before behind : List Action} {action failing : Action}
  {cause : Fault}

/-- The run breaks at its first action. -/
theorem head (hs : Reachable s) (hlive : s.state.firstFault = none) (haction : failing.Coherent)
    (hfail : (failing.perform s).1 = .error cause) (behind : List Action) :
    Breaks [] failing behind cause s := by
  obtain ⟨t, hstops, ht⟩ := Action.stops_of_perform hs hlive haction hfail
  have hkept : (failing.perform s).2.state.firstFault = some cause := by rw [ht]
  have hrun := Action.run_of_aborted (by rw [hkept]; nofun) behind
  have hbody : (failing.perform s).2.state.body = t.body := by
    rw [ht]
    rfl
  constructor
  · exact Completes.nil hlive
  · exact hstops.ne_aborted
  · simp only [List.nil_append, Action.run, hfail, hrun]
  · simp only [List.nil_append, Action.run, hrun]
  · exact hkept
  · simp only [Action.run, hbody]
    exact hstops.body_eq

/-- An action that succeeds goes before. -/
theorem cons {reply : Reply} (h : (action.perform s).1 = .ok reply)
    (hrest : Breaks before failing behind cause (action.perform s).2) :
    Breaks (action :: before) failing behind cause s where
  completes := hrest.completes.cons h
  cause_ne := hrest.cause_ne
  answers := congrArg _ hrest.answers
  still := hrest.still
  kept := hrest.kept
  body := hrest.body

end Breaks

/-- A run from a session without a fault completes or breaks. -/
theorem Reachable.completes_or_breaks {s : Journaled Session} (hs : Reachable s)
    (hlive : s.state.firstFault = none) {actions : List Action}
    (hactions : ∀ action ∈ actions, action.Coherent) :
    Completes actions s ∨ ∃ before failing behind cause,
      actions = before ++ failing :: behind ∧ Breaks before failing behind cause s := by
  induction actions generalizing s with
  | nil => exact Or.inl (Completes.nil hlive)
  | cons action rest ih =>
    have haction := hactions action List.mem_cons_self
    have hrest := fun a ha => hactions a (List.mem_cons_of_mem _ ha)
    cases hanswer : (action.perform s).1 with
    | ok reply =>
      have hlive' := (Action.live_of_ok hanswer).2
      rcases ih (hs.perform action) hlive' hrest with
        hcompletes | ⟨before, failing, behind, cause, rfl, hbreaks⟩
      · exact Or.inl (hcompletes.cons hanswer)
      · exact Or.inr ⟨action :: before, failing, behind, cause, rfl, hbreaks.cons hanswer⟩
    | error cause =>
      exact Or.inr ⟨[], action, rest, cause, rfl, Breaks.head hs hlive haction hanswer rest⟩

/-- **The first fault is final.**  A run from a new session succeeds throughout
    and keeps no fault; or it succeeds up to an action that fails, is refused
    from then on, and ends with the session that action left, which keeps the
    action's fault. -/
theorem run_completes_or_breaks (options : Options) (level : Option Severity)
    {actions : List Action} (hactions : ∀ action ∈ actions, action.Coherent) :
    let s : Journaled Session := { state := Session.start options, journal := { level } }
    (Completes actions s ∧ (Action.run actions s).2.state.isAborted = false) ∨
      ∃ before failing behind cause, actions = before ++ failing :: behind ∧
        Breaks before failing behind cause s ∧ (Action.run actions s).2.state.isAborted = true := by
  intro s
  have hs : Reachable s := ⟨options, level, [], rfl⟩
  rcases hs.completes_or_breaks rfl hactions with
    hcompletes | ⟨before, failing, behind, cause, rfl, hbreaks⟩
  · refine Or.inl ⟨hcompletes, ?_⟩
    rw [isAborted, hcompletes.live]
    rfl
  · refine Or.inr ⟨before, failing, behind, cause, rfl, hbreaks, ?_⟩
    rw [isAborted, hbreaks.still, hbreaks.kept]
    rfl

-- A text is added to a number; what comes behind that is refused.
theorem run_breaks_at_text :
    let s : Journaled Session := { state := Session.start {} }
    let text : Record := ⟨.string, .label "str_0"⟩
    let number : Record := ⟨.int, .stack 0⟩
    let actions := [.enterScope, .stringLiteral "hi", .intLiteral 1, .apply .add number text,
      .newline, .leaveScope]
    (∀ action ∈ actions, action.Coherent) ∧
      (Action.run actions s).1 = [.ok .done, .ok (.record text), .ok (.record number),
        .error (.invalidOperandType .string "arithmetic"), .error .aborted, .error .aborted] ∧
      ∃ before failing behind cause, actions = before ++ failing :: behind ∧
        Breaks before failing behind cause s ∧
          (Action.run actions s).2.state.isAborted = true := by
  intro s text number actions
  have hcoherent : ∀ action ∈ actions, action.Coherent := by decide
  have hkept : (Action.run actions s).2.state.firstFault ≠ none := by decide +kernel
  refine ⟨hcoherent, by decide +kernel, ?_⟩
  -- from here on it does not matter which actions they are
  clear_value actions
  rcases run_completes_or_breaks {} none hcoherent with ⟨hcompletes, -⟩ | hbreaks
  · exact absurd hcompletes.live hkept
  · exact hbreaks

end OnePass
