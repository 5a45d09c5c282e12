/-
  OnePass/Proofs/Placing.lean
  ===========================
  **Labels and branches of a body** — told by the actions and their answers.

  Four actions write labels and branches.  Which ones is told by what the caller
  gives and what it is answered; a label that is answered was either given with
  the same action, or is the next that is drawn.  So what becomes of labels is a
  matter of the transcript of a run, and the rules can be left aside.
-/
import OnePass.Proofs.ControlFlow
import OnePass.Proofs.Literals

namespace OnePass

open Asm Step Session

/-! ### Labels among lines -/

/-- The label a line places. -/
def Asm.Line.label? : Line → Option String
  | .label name => some name
  | _ => none

def labels (lines : List Line) : List String := lines.filterMap Line.label?

variable {lines more : List Line} {line : Line} {name : String}

theorem Asm.Line.label?_eq_some_iff : line.label? = some name ↔ line = .label name := by
  cases line <;> simp [Line.label?]

theorem Asm.Line.label?_of_isStraight (h : line.isStraight = true) : line.label? = none := by
  cases line with
  | label name => cases h
  | _ => rfl

theorem mem_labels : name ∈ labels lines ↔ .label name ∈ lines := by
  simp [labels, Line.label?_eq_some_iff]

@[simp] theorem labels_append : labels (lines ++ more) = labels lines ++ labels more :=
  List.filterMap_append

@[simp] theorem labels_label : labels (.label name :: lines) = name :: labels lines := rfl

@[simp] theorem labels_instruction {i : Instruction} :
    labels (.instruction i :: lines) = labels lines := rfl

@[simp] theorem labels_nil : labels [] = [] := rfl

theorem labels_eq_nil (h : ∀ line ∈ lines, line.label? = none) : labels lines = [] :=
  List.filterMap_eq_nil_iff.mpr h

theorem labels_of_straight (h : Outline.Straight lines) : labels lines = [] :=
  labels_eq_nil fun line hline => Line.label?_of_isStraight (h line hline)

/-! ### Targets among lines -/

/-- The label a line may branch to. -/
def Asm.Line.target? : Line → Option String
  | .instruction (.b name) => some name
  | .instruction (.beqz _ name) => some name
  | _ => none

def targets (lines : List Line) : List String := lines.filterMap Line.target?

theorem Asm.Line.target?_of_isStraight {line : Line} (h : line.isStraight = true) :
    line.target? = none := by
  cases line with
  | instruction i =>
    cases i with
    | b label => cases h
    | beqz r label => cases h
    | _ => rfl
  | _ => rfl

@[simp] theorem targets_append (lines more : List Line) :
    targets (lines ++ more) = targets lines ++ targets more :=
  List.filterMap_append

theorem targets_of_straight {lines : List Line} (h : Outline.Straight lines) :
    targets lines = [] :=
  List.filterMap_eq_nil_iff.mpr fun line hline => Line.target?_of_isStraight (h line hline)

/-! ### The rules of control flow -/

namespace Session

theorem yields_branchThenLabel (pending : String) (s : Session) :
    Yields (branchThenLabel pending) s (generatedName .branchLabel s.environment.drawn)
      (s.drew.wrote [.instruction (.b (generatedName .branchLabel s.environment.drawn)),
        .label pending]) := by
  refine (yields_newLabel s).bind ((yields_emit _ _).bind ((yields_place _ _).bind ?_))
  rw [wrote_wrote]
  exact yields_pure _ _

theorem yields_branchAndLabel (target label : String) (s : Session) :
    Yields (branchAndLabel target label) s ()
      (s.wrote [.instruction (.b target), .label label]) := by
  refine (yields_emit _ _).bind ?_
  exact (yields_place label _).of_eq (wrote_wrote _ _ _)

theorem yields_defineLabel (given : String) (s : Session) :
    Yields (defineLabel (some given)) s given (s.wrote [.label given]) :=
  (yields_pure given s).bind ((yields_place given s).bind (yields_pure given _))

theorem yields_defineLabel_new (s : Session) :
    Yields (defineLabel none) s (generatedName .branchLabel s.environment.drawn)
      (s.drew.wrote [.label (generatedName .branchLabel s.environment.drawn)]) :=
  (yields_newLabel s).bind ((yields_place _ _).bind (yields_pure _ _))

/-- The branch goes to a new label, and what is written before it is straight. -/
theorem branchIfZero_eq_ok {condition : Record} {label : String} {s t : Journaled Session}
    (h : branchIfZero condition s = .ok label t) :
    label = generatedName .branchLabel s.state.environment.drawn ∧
      s.state.environment.drawn < t.state.environment.drawn ∧
      ∃ test, Outline.Straight test ∧
        t.state.body = s.state.body ++ (test ++ [Outline.exit label]) := by
  obtain ⟨drawn, s₁, hdrawn, h⟩ := bind_eq_ok h
  obtain ⟨rfl, hs₁⟩ := (yields_newLabel s.state).eq_of_ok hdrawn
  obtain ⟨source, s₂, hsource, h⟩ := bind_eq_ok h
  obtain ⟨_, s₃, hload, h⟩ := bind_eq_ok h
  obtain ⟨_, s₄, hrelease, h⟩ := bind_eq_ok h
  obtain ⟨_, s₅, hbranch, h⟩ := bind_eq_ok h
  obtain ⟨rfl, ht⟩ := (yields_pure _ s₅.state).eq_of_ok h
  obtain ⟨-, hs₅⟩ := (yields_emit _ s₄.state).eq_of_ok hbranch
  have hplain : ∀ i : Instruction, i.reference? = none → (Line.instruction i).isStraight = true :=
    fun _ => Line.isStraight_of_reference?
  -- resolving the condition, loading it and giving its register back are straight
  have hstraight : Changes (fun line => line.isStraight = true) True s₁.state s₄.state :=
    ((tracked_operand hplain _ _).changes_of_ok hsource).trans
      (((tracked_emit hplain rfl).changes_of_ok hload).trans
        ((tracked_release source).changes_of_ok hrelease))
  obtain ⟨test, hbody, htest⟩ := hstraight.body_eq
  have hle := hstraight.drawn_le
  refine ⟨rfl, ?_, test, htest, ?_⟩
  · rw [ht, hs₅]
    rw [hs₁] at hle
    exact hle
  · rw [ht, hs₅, body_wrote, hbody, hs₁, List.append_assoc]
    rfl

/-- The branch is written last, and only if nothing before it fails. -/
theorem branchIfZero_ends (condition : Record) (s : Session) :
    (∃ t, Yields (branchIfZero condition) s (generatedName .branchLabel s.environment.drawn) t) ∨
      ∃ cause t, Refuses (branchIfZero condition) s cause t ∧
        Falls (fun line => line.isStraight = true) True s t := by
  have hplain : ∀ i : Instruction, i.reference? = none → (Line.instruction i).isStraight = true :=
    fun _ => Line.isStraight_of_reference?
  have hdrew : Changes (fun line => line.isStraight = true) True s s.drew := .single (.drew s)
  have hoperand : Tracked (fun line => line.isStraight = true) True
      (operand condition "condition") := tracked_operand hplain condition "condition"
  rcases hoperand s.drew with ⟨source, t, hsource, -⟩ | ⟨cause, t, hrefuses, hfalls⟩
  · have hrelease : ∃ u,
        Yields (release source) (t.wrote [.instruction (.lw (.t 0) source)]) () u := by
      cases source with
      | slot offset => exact ⟨_, yields_pure () _⟩
      | through r => exact ⟨_, yields_release r _⟩
    obtain ⟨u, hrelease⟩ := hrelease
    refine Or.inl ⟨_, (yields_newLabel s).bind (hsource.bind ((yields_emit _ _).bind
      (hrelease.bind ((yields_emit _ _).bind (yields_pure _ _)))))⟩
  · exact Or.inr ⟨cause, t, (yields_newLabel s).bind_refuses hrefuses.bind,
      hdrew.trans_falls hfalls⟩

end Session

/-! ### What is done to labels -/

namespace Action

/-- The labels an action places by the name its caller gives. -/
def placed : Action → List String
  | branchThenLabel pending => [pending]
  | branchAndLabel _ label => [label]
  | defineLabel (some name) => [name]
  | _ => []

def answered : Except Fault Reply → List String
  | .ok (.label name) => [name]
  | _ => []

/-- The labels a caller gives with an action. -/
def given : Action → List String
  | branchThenLabel pending => [pending]
  | branchAndLabel target label => [target, label]
  | defineLabel (some name) => [name]
  | _ => []

def Entry.answered (entry : Entry) : List String := Action.answered entry.2

/-- The labels that were answered for a branch forward, to be placed later. -/
def Entry.promised : Entry → List String
  | (branchIfZero _, answer) => Action.answered answer
  | (branchThenLabel _, answer) => Action.answered answer
  | _ => []

/-- The labels that were answered to a definition. -/
def Entry.defined : Entry → List String
  | (defineLabel _, answer) => Action.answered answer
  | _ => []

/-- The labels given to be placed, if they were. -/
def Entry.settled : Entry → List String
  | (action, .ok _) => action.placed
  | (_, .error _) => []

/-- The labels an answered action has placed in the body. -/
def Entry.labels : Entry → List String
  | (defineLabel _, answer) => Action.answered answer
  | entry => entry.settled

/-- The targets of the branches an answered action has written. -/
def Entry.targets : Entry → List String
  | (branchAndLabel target _, .ok _) => [target]
  | entry => entry.promised

theorem Entry.labels_of_isStraight {action : Action} (h : action.isStraight = true)
    (answer : Except Fault Reply) :
    Entry.labels (action, answer) = [] ∧ Entry.targets (action, answer) = [] := by
  cases answer <;> cases action <;> first | exact ⟨rfl, rfl⟩ | cases h

theorem Entry.labels_error (action : Action) (cause : Fault) :
    Entry.labels (action, .error cause) = [] ∧ Entry.targets (action, .error cause) = [] := by
  cases action <;> exact ⟨rfl, rfl⟩

theorem mem_given_of_placed {action : Action} {name : String} (h : name ∈ action.placed) :
    name ∈ action.given := by
  cases action with
  | branchThenLabel pending => exact h
  | branchAndLabel target label => exact List.mem_cons_of_mem _ h
  | defineLabel given =>
    cases given with
    | none => cases h
    | some name => exact h
  | _ => cases h

end Action

/-! ### Labels and targets of one action -/

namespace Action

/-- What an action adds to the labels of a body, and to the targets, is told by
    the answer to it. -/
structure Adds (s t : Session) (entry : Entry) : Prop where
  labels_eq : labels t.body = labels s.body ++ entry.labels
  targets_eq : targets t.body = targets s.body ++ entry.targets

namespace Adds

variable {s t : Session} {entry : Entry}

theorem of_lines {lines : List Line} (hbody : t.body = s.body ++ lines)
    (hlabels : labels lines = entry.labels) (htargets : targets lines = entry.targets) :
    Adds s t entry := by
  constructor
  · rw [hbody, labels_append, hlabels]
  · rw [hbody, targets_append, htargets]

theorem of_straight {lines : List Line} (hbody : t.body = s.body ++ lines)
    (hlines : Outline.Straight lines) (hentry : entry.labels = [] ∧ entry.targets = []) :
    Adds s t entry := by
  refine of_lines hbody ?_ ?_
  · rw [hentry.1, labels_of_straight hlines]
  · rw [hentry.2, targets_of_straight hlines]

end Adds

theorem adds_branchIfZero (condition : Record) {s : Journaled Session}
    (hlive : s.state.firstFault = none) :
    Adds s.state ((branchIfZero condition).perform s).2.state
      (branchIfZero condition, ((branchIfZero condition).perform s).1) := by
  rcases branchIfZero_ends condition s.state with ⟨t, hyields⟩ | ⟨cause, t, hrefuses, hfalls⟩
  · obtain ⟨after, hok⟩ := hyields {}
    obtain ⟨-, -, test, htest, hbody⟩ := branchIfZero_eq_ok hok
    have hrule : Yields (branchIfZero condition).rule s.state (.label _) t :=
      hyields.bind (yields_pure _ _)
    obtain ⟨journal, hperform⟩ := perform_of_yields hlive hrule
    rw [hperform]
    refine Adds.of_lines hbody ?_ ?_
    · rw [labels_append, labels_of_straight htest]
      rfl
    · rw [targets_append, targets_of_straight htest]
      rfl
  · have hrule : Refuses (branchIfZero condition).rule s.state cause t := hrefuses.bind
    obtain ⟨journal, hperform⟩ := perform_of_refuses hlive hrule
    rw [hperform]
    obtain ⟨lines, hbody, hlines⟩ := hfalls.body_eq
    exact Adds.of_straight hbody hlines ⟨rfl, rfl⟩

theorem adds_of_yields {action : Action} {s : Journaled Session} {reply : Reply} {t : Session}
    {lines : List Line} (hlive : s.state.firstFault = none)
    (hyields : Yields action.rule s.state reply t) (hbody : t.body = s.state.body ++ lines)
    (hlabels : labels lines = Entry.labels (action, .ok reply))
    (htargets : targets lines = Entry.targets (action, .ok reply)) :
    Adds s.state (action.perform s).2.state (action, (action.perform s).1) := by
  obtain ⟨journal, hperform⟩ := perform_of_yields hlive hyields
  rw [hperform]
  exact Adds.of_lines hbody hlabels htargets

theorem adds_of_isStraight {action : Action} (h : action.isStraight = true)
    (s : Journaled Session) :
    Adds s.state (action.perform s).2.state (action, (action.perform s).1) := by
  obtain ⟨lines, hbody, hlines⟩ := action.body_perform s
  exact Adds.of_straight hbody (fun line hline => (hlines line hline).isStraight h)
    (Entry.labels_of_isStraight h _)

theorem adds (action : Action) (s : Journaled Session) :
    Adds s.state (action.perform s).2.state (action, (action.perform s).1) := by
  by_cases hlive : s.state.firstFault = none
  · cases action with
    | branchIfZero condition => exact adds_branchIfZero condition hlive
    | branchThenLabel pending =>
      have hrule : Yields (rule (branchThenLabel pending)) s.state _ _ :=
        (yields_branchThenLabel pending s.state).bind (yields_pure _ _)
      exact adds_of_yields hlive hrule (body_wrote _ _) rfl rfl
    | branchAndLabel target label =>
      have hrule : Yields (rule (branchAndLabel target label)) s.state _ _ :=
        (yields_branchAndLabel target label s.state).bind (yields_pure _ _)
      exact adds_of_yields hlive hrule (body_wrote _ _) rfl rfl
    | defineLabel given =>
      cases given with
      | none =>
        have hrule : Yields (rule (defineLabel none)) s.state _ _ :=
          (yields_defineLabel_new s.state).bind (yields_pure _ _)
        exact adds_of_yields hlive hrule (body_wrote _ _) rfl rfl
      | some name =>
        have hrule : Yields (rule (defineLabel (some name))) s.state _ _ :=
          (yields_defineLabel name s.state).bind (yields_pure _ _)
        exact adds_of_yields hlive hrule (body_wrote _ _) rfl rfl
    | _ => exact adds_of_isStraight rfl s
  · rw [perform_of_aborted hlive]
    exact Adds.of_straight (List.append_nil _).symm (List.forall_mem_nil _)
      (Entry.labels_error action .aborted)

/-- All labels and targets of a body come from the actions and their answers. -/
theorem adds_run (actions : List Action) (s : Journaled Session) :
    labels (run actions s).2.state.body =
        labels s.state.body ++ (transcript actions s).flatMap Entry.labels ∧
      targets (run actions s).2.state.body =
        targets s.state.body ++ (transcript actions s).flatMap Entry.targets := by
  induction actions generalizing s with
  | nil => exact ⟨(List.append_nil _).symm, (List.append_nil _).symm⟩
  | cons action rest ih =>
    obtain ⟨hlabels, htargets⟩ := ih (action.perform s).2
    have hadds := action.adds s
    rw [hadds.labels_eq, List.append_assoc, ← List.flatMap_cons] at hlabels
    rw [hadds.targets_eq, List.append_assoc, ← List.flatMap_cons] at htargets
    exact ⟨hlabels, htargets⟩

/-! ### Labels that are answered -/

/-- The label an action answers when `drawn` names had been drawn before it, and
    `after` have been behind it. -/
inductive Hands (drawn after : Nat) : Action → String → Prop
  | zero (condition : Record) (hlt : drawn < after) :
      Hands drawn after (branchIfZero condition) (generatedName .branchLabel drawn)
  | forward (pending : String) (hlt : drawn < after) :
      Hands drawn after (branchThenLabel pending) (generatedName .branchLabel drawn)
  | new (hlt : drawn < after) :
      Hands drawn after (defineLabel none) (generatedName .branchLabel drawn)
  | given (name : String) : Hands drawn after (defineLabel (some name)) name

theorem hands_of_rule {action : Action} {s t : Journaled Session} {name : String}
    (h : action.rule s = .ok (.label name) t) :
    Hands s.state.environment.drawn t.state.environment.drawn action name := by
  cases action with
  | branchIfZero condition =>
    obtain ⟨label, u, hrule, h⟩ := bind_eq_ok h
    cases h
    obtain ⟨rfl, hlt, -⟩ := branchIfZero_eq_ok hrule
    exact .zero condition hlt
  | branchThenLabel pending =>
    obtain ⟨label, u, hrule, h⟩ := bind_eq_ok h
    cases h
    obtain ⟨rfl, ht⟩ := (yields_branchThenLabel pending s.state).eq_of_ok hrule
    rw [ht]
    exact .forward pending (Nat.lt_succ_self _)
  | defineLabel given =>
    obtain ⟨label, u, hrule, h⟩ := bind_eq_ok h
    cases h
    cases given with
    | none =>
      obtain ⟨rfl, ht⟩ := (yields_defineLabel_new s.state).eq_of_ok hrule
      rw [ht]
      exact .new (Nat.lt_succ_self _)
    | some given =>
      obtain ⟨rfl, -⟩ := (yields_defineLabel given s.state).eq_of_ok hrule
      exact .given _
  | _ =>
    obtain ⟨answer, u, -, h⟩ := bind_eq_ok h
    cases h

theorem mem_answered {answer : Except Fault Reply} {name : String} :
    name ∈ answered answer ↔ answer = .ok (.label name) := by
  cases answer with
  | error cause => simp [answered]
  | ok reply => cases reply <;> simp [answered, eq_comm]

theorem hands_of_answered {action : Action} {s : Journaled Session} {name : String}
    (h : name ∈ answered (action.perform s).1) :
    Hands s.state.environment.drawn (action.perform s).2.state.environment.drawn action name := by
  obtain ⟨journal, hrule⟩ := rule_of_answer (mem_answered.mp h)
  have hhands := hands_of_rule hrule
  exact hhands

/-- A label is placed because it was given, or because it is answered. -/
theorem Entry.placed_or_answered {entry : Entry} {name : String} (h : name ∈ entry.labels) :
    name ∈ entry.1.placed ∨ name ∈ entry.answered := by
  rcases entry with ⟨action, answer⟩
  cases action with
  | defineLabel given => exact Or.inr h
  | _ =>
    cases answer with
    | error cause => cases h
    | ok reply => exact Or.inl h

end Action

end OnePass
