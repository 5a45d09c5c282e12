/-
  OnePass/Proofs/Operands.lean
  ============================
  **Operands of the wrong type** — which faults the types of operands cause.

  Several checks of an operand overlap: a rule may ask for its type before it makes
  the operand ready, and making it ready asks again and looks at its place too.  For
  records that sessions answer only one of the checks can fail, because texts and
  nothing else are found at labels (`Action.Misuses`).  Every other step of a rule
  fails for another reason, or not at all.
-/
import OnePass.Proofs.Failure
import OnePass.Proofs.References

namespace OnePass

open Asm Step Session

/-- The type of an operand does not suit its use. -/
def Fault.isMisuse : Fault → Bool
  | .invalidOperandType _ _ => true
  | .typeMismatch _ _ => true
  | _ => false

/-- What is wrong with the types of the operands of an action.  There is nothing
    about writing: a text can be written like any other value. -/
inductive Action.Misuses : Action → Fault → Prop
  | arithmetic {operator : Operator} {left right : Record}
      (h : left.type = .string ∨ right.type = .string) :
      Misuses (.apply operator left right) (.invalidOperandType .string "arithmetic")
  | condition {condition : Record} (h : condition.type = .string) :
      Misuses (.branchIfZero condition) (.invalidOperandType .string "condition")
  | input {target : Record} (h : target.type = .string) :
      Misuses (.read target) (.invalidOperandType .string "input")
  | assignment {target value : Record} (htarget : target.type = .string)
      (hvalue : value.type = .string) :
      Misuses (.assign target value) (.invalidOperandType .string "assignment")
  | mismatch {target value : Record} (hne : target.type ≠ value.type)
      (hchar : ¬ (target.type = .char ∧ value.type = .int)) :
      Misuses (.assign target value) (.typeMismatch target.type value.type)

/-! ### Steps that fail for other reasons -/

namespace Step

variable {σ τ α β : Type}

/-- The step never fails for the type of an operand. -/
def Suited (step : Step σ α) : Prop :=
  ∀ ⦃s t : Journaled σ⦄ ⦃cause : Fault⦄, step s = .error cause t → cause.isMisuse = false

namespace Suited

theorem of_outcomes {step : Step σ α}
    (h : ∀ s, (∃ a t, Yields step s a t) ∨
      ∃ cause t, Refuses step s cause t ∧ cause.isMisuse = false) : Suited step := by
  intro s t cause hfails
  rcases h s.state with ⟨a, u, hyields⟩ | ⟨other, u, hrefuses, hother⟩
  · obtain ⟨journal, hok⟩ := hyields s.journal
    cases hok.symm.trans hfails
  · obtain ⟨journal, hrefused⟩ := hrefuses s.journal
    cases hrefused.symm.trans hfails
    exact hother

theorem of_yields {step : Step σ α} (h : ∀ s, ∃ a t, Yields step s a t) : Suited step :=
  of_outcomes fun s => Or.inl (h s)

theorem pure (a : α) : Suited (Pure.pure a : Step σ α) :=
  of_yields fun s => ⟨a, s, yields_pure a s⟩

theorem fail {cause : Fault} (h : cause.isMisuse = false) :
    Suited (Step.fail cause : Step σ α) :=
  of_outcomes fun s => Or.inr ⟨cause, s, refuses_fail cause s, h⟩

theorem ofExcept {result : Except Fault α}
    (h : ∀ cause, result = .error cause → cause.isMisuse = false) :
    Suited (Step.ofExcept result : Step σ α) := by
  cases result with
  | ok a => exact pure a
  | error cause => exact fail (h cause rfl)

theorem bind {step : Step σ α} {next : α → Step σ β} (h : Suited step)
    (hnext : ∀ a, Suited (next a)) : Suited (step >>= next) := by
  intro s t cause hfails
  rw [bind_apply] at hfails
  cases hstep : step s with
  | ok a u =>
    rw [hstep] at hfails
    exact hnext a hfails
  | error other u =>
    rw [hstep] at hfails
    cases hfails
    exact h hstep

/-- What is made of the answer does not matter. -/
theorem then_pure {step : Step σ α} (h : Suited step) (f : α → β) :
    Suited (step >>= fun a => Pure.pure (f a)) :=
  h.bind fun a => pure (f a)

end Suited

end Step

theorem Declarator.isMisuse_of_parse {spec : String} {cause : Fault}
    (h : parse spec = .error cause) : cause.isMisuse = false := by
  simp only [parse, ofTrimmed] at h
  split at h <;> split at h <;> cases h <;> rfl

theorem Access.isMisuse_of_parse {spec : String} {cause : Fault}
    (h : parse spec = .error cause) : cause.isMisuse = false := by
  simp only [parse, ofTrimmed] at h
  split at h
  · cases h
  · split at h
    · split at h <;> cases h
      rfl
    · cases h

/-! ### Steps of a session -/

namespace Session

theorem suited_emitAll (code : List Instruction) : Suited (emitAll code) :=
  Suited.of_yields fun s => ⟨_, _, yields_emitAll code s⟩

theorem suited_emit (i : Instruction) : Suited (emit i) :=
  Suited.of_yields fun s => ⟨_, _, yields_emit i s⟩

theorem suited_place (label : String) : Suited (place label) :=
  Suited.of_yields fun s => ⟨_, _, yields_place label s⟩

theorem suited_annotate (text : String) : Suited (annotate text) :=
  Suited.of_yields fun s => ⟨_, _, yields_annotate text s⟩

theorem suited_newLabel : Suited newLabel := Suited.of_yields fun s => ⟨_, _, yields_newLabel s⟩

theorem suited_release (target : Operand) : Suited (release target) := by
  refine Suited.of_yields fun s => ?_
  obtain ⟨t, hyields⟩ := yields_release_any target s
  exact ⟨(), t, hyields⟩

theorem suited_allocate (words : Nat) : Suited (inFrame (Frame.allocate words)) := by
  refine Suited.of_outcomes fun s => ?_
  cases hroom : s.frame.grow? words with
  | none => exact Or.inr ⟨_, _, refuses_allocate hroom, rfl⟩
  | some grown => exact Or.inl ⟨_, _, yields_allocate hroom⟩

theorem suited_insert (symbol : Symbol) : Suited (inEnvironment (Environment.insert symbol)) := by
  refine Suited.of_outcomes fun s => ?_
  by_cases hactive : s.environment.active = []
  · exact Or.inr ⟨_, _, refuses_inEnvironment (Environment.refuses_insert symbol hactive), rfl⟩
  · exact Or.inl ⟨_, _, yields_inEnvironment (Environment.yields_insert symbol hactive)⟩

theorem suited_newTemporary (type : ValueType) : Suited (newTemporary type) := by
  refine Suited.of_outcomes fun s => ?_
  cases hroom : s.frame.grow? 1 with
  | none => exact Or.inr ⟨_, _, refuses_newTemporary_of_no_room hroom, rfl⟩
  | some grown =>
    by_cases hactive : s.environment.active = []
    · exact Or.inr ⟨_, _, refuses_newTemporary_of_no_scope hroom hactive, rfl⟩
    · exact Or.inl ⟨_, _, yields_newTemporary hroom hactive⟩

theorem suited_leaveScope : Suited leaveScope := by
  refine Suited.of_outcomes fun s => ?_
  by_cases hactive : s.environment.active = []
  · exact Or.inr ⟨_, _, refuses_inEnvironment (Environment.refuses_leaveScope hactive), rfl⟩
  · exact Or.inl ⟨_, _, yields_inEnvironment (Environment.yields_leaveScope hactive)⟩

theorem suited_stringLiteral (text : String) : Suited (stringLiteral text) := by
  refine Suited.of_outcomes fun s => ?_
  by_cases hactive : s.environment.active = []
  · have hlabel := refuses_inEnvironment (Environment.refuses_newStringLabel hactive)
    exact Or.inr ⟨_, _, hlabel.bind, rfl⟩
  · have hlabel := yields_inEnvironment (Environment.yields_newStringLabel hactive)
    exact Or.inl ⟨_, _, hlabel.bind ((yields_addString _ _).bind (yields_pure _ _))⟩

theorem suited_requireFresh (name : String) : Suited (requireFresh name) := by
  refine Suited.of_outcomes fun s => ?_
  cases hbound : (s.environment.findLocal? name).bind s.environment.symbol? with
  | none => exact Or.inl ⟨_, _, yields_requireFresh hbound⟩
  | some previous => exact Or.inr ⟨_, _, refuses_requireFresh hbound, rfl⟩

theorem suited_requireScalar {record : Record} (h : record.type.isScalar = true) (role : String) :
    Suited (requireScalar record role) :=
  Suited.of_yields fun s => ⟨_, _, yields_requireScalar h role s⟩

/-- A record of a value in the frame is made an operand, unless all registers are in use. -/
theorem suited_operand {record : Record} (h : record.InFrame) (role : String) :
    Suited (operand record role) := by
  obtain ⟨hscalar, hlabel⟩ := h
  refine (suited_requireScalar hscalar role).bind fun _ => ?_
  split
  · exact Suited.pure _
  · refine Suited.bind (Suited.of_outcomes fun s => ?_) fun r => ?_
    · cases hfree : s.pool.acquire? with
      | none => exact Or.inr ⟨_, _, refuses_acquire hfree, rfl⟩
      | some taken => exact Or.inl ⟨_, _, yields_acquire hfree⟩
    · exact (suited_emitAll _).bind fun _ => Suited.pure _
  · next hplace =>
    rw [hplace] at hlabel
    cases hlabel

theorem suited_scalarLiteral (type : ValueType) (value : Int) :
    Suited (scalarLiteral type value) :=
  (suited_newTemporary type).bind fun _ => (suited_emitAll _).bind fun _ => Suited.pure _

theorem suited_declare (typeName spec : String) : Suited (declare typeName spec) := by
  refine (Suited.ofExcept fun cause h => ?_).bind fun type => ?_
  · unfold declaredType at h
    split at h <;> cases h
    rfl
  refine (Suited.ofExcept fun cause h => ?_).bind fun declarator => ?_
  · exact Declarator.isMisuse_of_parse h
  refine (suited_requireFresh _).bind fun _ => ?_
  refine (suited_allocate _).bind fun offset => ?_
  refine (Suited.of_yields fun s => ⟨_, _, yields_report _ s⟩).bind fun _ => ?_
  exact (suited_annotate _).bind fun _ => suited_insert _

theorem suited_resolve (spec : String) : Suited (resolve spec) := by
  refine Suited.of_outcomes fun s => ?_
  rcases s.refers spec with ⟨record, t, -, hyields⟩ | ⟨cause, t, hrefers, hrefuses⟩
  · exact Or.inl ⟨record, t, hyields⟩
  · refine Or.inr ⟨cause, t, hrefuses, ?_⟩
    cases hrefers with
    | malformed h => exact Access.isMisuse_of_parse h
    | _ => rfl

/-! ### Steps that use operands -/

section Operands

variable {left right record target value condition : Record}

theorem suited_apply (hleft : left.InFrame) (hright : right.InFrame) (operator : Operator) :
    Suited (apply operator left right) := by
  refine (suited_requireScalar hleft.isScalar _).bind fun _ => ?_
  refine (suited_requireScalar hright.isScalar _).bind fun _ => ?_
  refine (suited_newTemporary .int).bind fun result => ?_
  refine (suited_annotate _).bind fun _ => ?_
  refine (suited_operand hleft _).bind fun lhs => ?_
  refine (suited_operand hright _).bind fun rhs => ?_
  refine (suited_emitAll _).bind fun _ => ?_
  refine (suited_release lhs).bind fun _ => ?_
  refine (suited_release rhs).bind fun _ => ?_
  exact (suited_emitAll _).bind fun _ => (suited_emit _).bind fun _ => Suited.pure _

theorem suited_assign (hassign : canAssign target.type value.type = true) (htarget : target.InFrame)
    (hvalue : value.InFrame) : Suited (assign target value) := by
  unfold assign
  rw [if_pos hassign]
  refine (suited_operand htarget _).bind fun destination => ?_
  refine (suited_operand hvalue _).bind fun source => ?_
  refine (suited_emitAll _).bind fun _ => ?_
  exact (suited_release source).bind fun _ => suited_release destination

theorem suited_branchIfZero (h : condition.InFrame) : Suited (branchIfZero condition) := by
  refine suited_newLabel.bind fun label => ?_
  refine (suited_operand h _).bind fun source => ?_
  refine (suited_emit _).bind fun _ => ?_
  refine (suited_release source).bind fun _ => ?_
  exact (suited_emit _).bind fun _ => Suited.pure label

theorem readService?_eq_none_iff {type : ValueType} :
    readService? type = none ↔ type = .string := by
  cases type <;> simp [readService?]

theorem suited_read (h : target.InFrame) : Suited (read target) := by
  unfold Session.read
  split
  · next hservice =>
    exact absurd (readService?_eq_none_iff.mp hservice) (ValueType.isScalar_iff.mp h.isScalar)
  · refine (suited_operand h _).bind fun destination => ?_
    exact (suited_emitAll _).bind fun _ => suited_release destination

theorem suited_write (h : value.Coherent) : Suited (write value) := by
  unfold Session.write
  split
  · exact suited_emitAll _
  · next hplace =>
    have hlabel : value.place.isLabel = false := by
      cases hcases : value.place with
      | label name => exact absurd hcases (hplace name)
      | _ => rfl
    have hscalar : value.type.isScalar = true := by
      rw [h, hlabel]
      rfl
    refine (suited_operand ⟨hscalar, hlabel⟩ _).bind fun source => ?_
    refine (suited_emit _).bind fun _ => ?_
    exact (suited_release source).bind fun _ => suited_emitAll _

end Operands

end Session

/-! ### Actions -/

/-- Of the records that sessions answer those that are no texts are in the frame. -/
theorem Record.Coherent.inFrame {record : Record} (h : record.Coherent)
    (htype : record.type ≠ .string) : record.InFrame := by
  have hscalar := ValueType.isScalar_iff.mpr htype
  refine ⟨hscalar, ?_⟩
  rw [Coherent, hscalar] at h
  simpa using h.symm

theorem canAssign_eq_false_iff {target value : ValueType} :
    canAssign target value = false ↔ target ≠ value ∧ ¬ (target = .char ∧ value = .int) := by
  cases target <;> cases value <;> decide

theorem Session.refuses_requireScalar_of_string {record : Record} (h : record.type = .string)
    (role : String) (s : Session) :
    Refuses (requireScalar record role) s (.invalidOperandType .string role) s := by
  have hscalar : record.type.isScalar = false := by
    rw [h]
    rfl
  have hrefuses := refuses_requireScalar hscalar role s
  rwa [h] at hrefuses

namespace Action

variable {action : Action} {s : Journaled Session}

/-- An action fails for what is wrong with its operands. -/
theorem Misuses.refuses {cause : Fault} (h : action.Misuses cause) (s : Session) :
    ∃ t, Refuses action.rule s cause t := by
  cases h with
  | @arithmetic operator left right htext =>
    refine ⟨s, Refuses.bind ?_⟩
    by_cases hleft : left.type = .string
    · exact (refuses_requireScalar_of_string hleft _ s).bind
    · have hright := htext.resolve_left hleft
      exact (yields_requireScalar (ValueType.isScalar_iff.mpr hleft) _ s).bind_refuses
        (refuses_requireScalar_of_string hright _ s).bind
  | condition htext =>
    have hcheck := refuses_requireScalar_of_string htext "condition" s.drew
    exact ⟨s.drew, ((yields_newLabel s).bind_refuses hcheck.bind.bind).bind⟩
  | @input target htext =>
    refine ⟨s, Refuses.bind ?_⟩
    unfold Session.read
    rw [htext]
    exact refuses_fail _ s
  | @assignment target value htarget hvalue =>
    refine ⟨s, Refuses.bind ?_⟩
    unfold Session.assign
    rw [if_pos (by rw [htarget, hvalue]; rfl)]
    exact (refuses_requireScalar_of_string htarget _ s).bind.bind
  | @mismatch target value hne hchar =>
    refine ⟨s, Refuses.bind ?_⟩
    unfold Session.assign
    rw [if_neg (by rw [canAssign_eq_false_iff.mpr ⟨hne, hchar⟩]; nofun)]
    exact refuses_fail _ s

theorem misuses_or_suited_assign {target value : Record} (htarget : target.Coherent)
    (hvalue : value.Coherent) :
    (∃ cause, Misuses (.assign target value) cause) ∨ Suited (Session.assign target value) := by
  cases hassign : canAssign target.type value.type with
  | false =>
    obtain ⟨hne, hchar⟩ := canAssign_eq_false_iff.mp hassign
    exact Or.inl ⟨_, .mismatch hne hchar⟩
  | true =>
    -- both are scalar, or both are texts
    have hscalar := isScalar_of_canAssign hassign
    by_cases htext : value.type.isScalar = true
    · have ht := htarget.inFrame (ValueType.isScalar_iff.mp (hscalar ▸ htext))
      have hv := hvalue.inFrame (ValueType.isScalar_iff.mp htext)
      exact Or.inr (suited_assign hassign ht hv)
    · have hv : value.type = .string := by simpa [ValueType.isScalar_iff] using htext
      rw [hscalar] at htext
      have ht : target.type = .string := by simpa [ValueType.isScalar_iff] using htext
      exact Or.inl ⟨_, .assignment ht hv⟩

/-- If nothing is wrong with the types of its operands, an action can fail for other
    reasons only. -/
theorem misuses_or_suited (haction : action.Coherent) :
    (∃ cause, action.Misuses cause) ∨ Suited action.rule := by
  cases action with
  | enterScope =>
    have henter : Suited Session.enterScope := Suited.of_yields fun s =>
      ⟨_, _, yields_inEnvironment (Environment.yields_enterScope s.environment)⟩
    exact Or.inr (henter.then_pure _)
  | leaveScope => exact Or.inr (suited_leaveScope.then_pure _)
  | declare typeName spec => exact Or.inr ((suited_declare typeName spec).then_pure _)
  | resolve spec => exact Or.inr ((suited_resolve spec).then_pure _)
  | intLiteral value => exact Or.inr ((suited_scalarLiteral _ _).then_pure _)
  | charLiteral value => exact Or.inr ((suited_scalarLiteral _ _).then_pure _)
  | stringLiteral text => exact Or.inr ((suited_stringLiteral text).then_pure _)
  | apply operator left right =>
    by_cases htext : left.type = .string ∨ right.type = .string
    · exact Or.inl ⟨_, .arithmetic htext⟩
    · obtain ⟨hleft, hright⟩ := not_or.mp htext
      have hl := (haction left (by simp [records])).inFrame hleft
      have hr := (haction right (by simp [records])).inFrame hright
      exact Or.inr ((suited_apply hl hr operator).then_pure _)
  | assign target value =>
    have htarget := haction target (by simp [records])
    have hvalue := haction value (by simp [records])
    exact (misuses_or_suited_assign htarget hvalue).imp_right fun hsuited => hsuited.then_pure _
  | branchIfZero condition =>
    by_cases htext : condition.type = .string
    · exact Or.inl ⟨_, .condition htext⟩
    · have hframe := (haction condition (by simp [records])).inFrame htext
      exact Or.inr ((suited_branchIfZero hframe).then_pure _)
  | branchThenLabel pending =>
    refine Or.inr (Suited.then_pure ?_ _)
    refine suited_newLabel.bind fun label => (suited_emit _).bind fun _ => ?_
    exact (suited_place pending).bind fun _ => Suited.pure label
  | branchAndLabel target label =>
    refine Or.inr (Suited.then_pure ?_ _)
    exact (suited_emit _).bind fun _ => suited_place label
  | defineLabel name =>
    refine Or.inr (Suited.then_pure ?_ _)
    have hplace : ∀ label, Suited (place label >>= fun _ => Pure.pure label) := fun label =>
      (suited_place label).bind fun _ => Suited.pure label
    cases name with
    | none => exact suited_newLabel.bind hplace
    | some given => exact hplace given
  | read target =>
    by_cases htext : target.type = .string
    · exact Or.inl ⟨_, .input htext⟩
    · have hframe := (haction target (by simp [records])).inFrame htext
      exact Or.inr ((suited_read hframe).then_pure _)
  | write value =>
    have hcoherent := haction value (by simp [records])
    exact Or.inr ((suited_write hcoherent).then_pure _)
  | newline =>
    have hnewline : Suited Session.newline := suited_emitAll _
    exact Or.inr (hnewline.then_pure _)

/-- An action that fails was performed, and its rule failed. -/
theorem rule_of_fault {cause : Fault} (hlive : s.state.firstFault = none)
    (h : (action.perform s).1 = .error cause) : ∃ t, action.rule s = .error cause t := by
  cases hrule : action.rule s with
  | ok reply t =>
    simp only [perform, Step.perform, act, hlive, hrule] at h
    cases h
  | error other t =>
    simp only [perform, Step.perform, act, hlive, hrule] at h
    cases h
    exact ⟨t, rfl⟩

/-- The types of coherent operands are to blame just for what is wrong with them. -/
theorem error_iff_misuses (hlive : s.state.firstFault = none) (haction : action.Coherent)
    {cause : Fault} (hcause : cause.isMisuse = true) :
    (action.perform s).1 = .error cause ↔ action.Misuses cause := by
  constructor
  · intro hfails
    rcases misuses_or_suited haction with ⟨other, hmisuses⟩ | hsuited
    · obtain ⟨t, hrefuses⟩ := hmisuses.refuses s.state
      obtain ⟨journal, hanswer⟩ := perform_of_refuses hlive hrefuses
      rw [hanswer] at hfails
      cases hfails
      exact hmisuses
    · obtain ⟨t, hrule⟩ := rule_of_fault hlive hfails
      cases hcause.symm.trans (hsuited hrule)
  · intro hmisuses
    obtain ⟨t, hrefuses⟩ := hmisuses.refuses s.state
    obtain ⟨journal, hanswer⟩ := perform_of_refuses hlive hrefuses
    rw [hanswer]

end Action

end OnePass
