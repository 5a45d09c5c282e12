/-
  OnePass/Proofs/Lines.lean
  =========================
  **Elements and lines** — when an element of the body is one line of the file.

  Everything a session makes up itself fits on one line: instructions, numbers,
  the labels it draws.  What it is given it repeats in two ways.  Labels go into
  branches and addresses, and the text of a declaration or of a reference goes
  into its annotation just as it was given, blanks and line feeds included.
-/
import OnePass.Proofs.Annotations
import OnePass.Proofs.Decoding
import OnePass.Proofs.Labels

namespace OnePass

open Asm Step Session

/-! ### Texts on one line -/

/-- The text has no line feed. -/
def OneLine (text : String) : Prop := '\n' ∉ text.toList

instance (text : String) : Decidable (OneLine text) :=
  inferInstanceAs (Decidable ('\n' ∉ text.toList))

namespace OneLine

@[simp] theorem append_iff {first second : String} :
    OneLine (first ++ second) ↔ OneLine first ∧ OneLine second := by
  simp [OneLine, String.toList_append]

@[simp] theorem nat (n : Nat) : OneLine n.repr := by
  intro hmem
  rw [← Nat.toString_eq_repr, Nat.toString_eq_ofList_toDigits, String.toList_ofList] at hmem
  have hdigit := Nat.isDigit_of_mem_toDigits (by decide) (by decide) hmem
  exact absurd hdigit (by decide)

@[simp] theorem int (n : Int) : OneLine n.repr := by
  rw [Int.repr_eq_if]
  split
  · exact nat n.toNat
  · exact append_iff.mpr ⟨by decide, nat (-n).toNat⟩

@[simp] theorem generatedName (kind : NameKind) (number : Nat) :
    OneLine (generatedName kind number) := by
  refine append_iff.mpr ⟨?_, nat number⟩
  cases kind <;> decide

@[simp] theorem typeName (type : ValueType) : OneLine type.name := by
  cases type <;> decide

@[simp] theorem operatorName (operator : Operator) : OneLine operator.name := by
  cases operator <;> decide

@[simp] theorem registerName (r : Register) : OneLine r.name := by
  cases r with
  | t index => exact append_iff.mpr ⟨by decide, nat index.val⟩
  | _ => decide

@[simp] theorem operandText (operand : Operand) : OneLine operand.text := by
  cases operand with
  | slot offset => exact append_iff.mpr ⟨int offset, by decide⟩
  | through r =>
    exact append_iff.mpr ⟨append_iff.mpr ⟨by decide, registerName r.register⟩, by decide⟩

@[simp] theorem immediateText (value : Immediate) : OneLine value.text := by
  cases value with
  | number n => exact int n
  | lineFeed => decide

@[simp] theorem aluName (operation : Alu) : OneLine operation.name := by
  cases operation <;> decide

@[simp] theorem wideName (operation : Wide) : OneLine operation.name := by
  cases operation <;> decide

theorem mnemonics : OneLine "lw " ∧ OneLine "sw " ∧ OneLine "li " ∧ OneLine "la " ∧
    OneLine "move " ∧ OneLine "mflo " ∧ OneLine "b " ∧ OneLine "beqz " ∧ OneLine "syscall" ∧
    OneLine ", " ∧ OneLine " " := by
  decide

/-- An instruction is on one line if the label it names is. -/
theorem instructionText_iff (i : Instruction) :
    OneLine i.text ↔ ∀ label, i.reference? = some label → OneLine label := by
  cases i <;> simp [Instruction.text, Instruction.reference?, mnemonics]

theorem instructionText {i : Instruction} {label : String} (hi : i.reference? = some label)
    (h : OneLine label) : OneLine i.text := by
  rw [instructionText_iff, hi]
  rintro _ ⟨⟩
  exact h

theorem labelText_iff (name : String) : OneLine (Line.label name).text ↔ OneLine name := by
  have hcolon : OneLine ":" := by decide
  simp [Line.text, hcolon]

theorem remarkText_iff (text : String) : OneLine (Line.remark text).text ↔ OneLine text := by
  have hsign : OneLine "# " := by decide
  simp [Line.text, hsign]

theorem declarationRemark_iff (type : ValueType) (spec : String) (offset : Int) :
    OneLine (declarationRemark type spec offset) ↔ OneLine spec := by
  have hparts : OneLine " " ∧ OneLine " at " := by decide
  simp [declarationRemark, hparts]

theorem elementRemark_iff (spec : String) (slot : Int) :
    OneLine (elementRemark spec slot) ↔ OneLine spec := by
  have hparts : OneLine "&" ∧ OneLine " -> " := by decide
  simp [elementRemark, hparts]

theorem resultRemark (operator : Operator) (offset : Int) :
    OneLine (resultRemark operator offset) := by
  have harrow : OneLine " -> " := by decide
  simp [Session.resultRemark, harrow]

end OneLine

/-! ### What an action repeats -/

def Place.label? : Place → Option String
  | .label name => some name
  | _ => none

/-- The labels an answer hands out. -/
def Reply.labels : Reply → List String
  | .label name => [name]
  | .record value => value.place.label?.toList
  | _ => []

namespace Action

/-- The labels an action is given, in records or by themselves. -/
def givenLabels : Action → List String
  | .branchThenLabel pending => [pending]
  | .branchAndLabel target label => [target, label]
  | .defineLabel name => name.toList
  | action => action.records.filterMap fun record => record.place.label?

/-- The text of a declaration or of a reference. -/
def spec? : Action → Option String
  | .declare _ spec => some spec
  | .resolve spec => some spec
  | _ => none

/-- The line is an annotation in which an action repeats the text it was given. -/
inductive Echoes : Action → String → Line → Prop
  | declared {typeName spec : String} (type : ValueType) (offset : Int) :
      Echoes (.declare typeName spec) spec (.remark (declarationRemark type spec offset))
  | element {spec : String} (slot : Int) :
      Echoes (.resolve spec) spec (.remark (elementRemark spec slot))

variable {action : Action} {spec : String} {line : Line}

theorem Echoes.oneLine_iff (h : action.Echoes spec line) : OneLine line.text ↔ OneLine spec := by
  cases h with
  | declared type offset =>
    rw [OneLine.remarkText_iff, OneLine.declarationRemark_iff]
  | element slot => rw [OneLine.remarkText_iff, OneLine.elementRemark_iff]

theorem Echoes.spec?_eq (h : action.Echoes spec line) : action.spec? = some spec := by
  cases h <;> rfl

theorem Echoes.isCode_eq (h : action.Echoes spec line) : line.isCode = false := by
  cases h <;> rfl

/-- Whatever an action writes is one line or repeats the text it was given. -/
theorem Writes.oneLine_or_echoes (h : action.Writes line)
    (hlabels : ∀ label ∈ action.givenLabels, OneLine label) :
    OneLine line.text ∨ ∃ spec, action.Echoes spec line := by
  cases h with
  | plain h => exact Or.inl ((OneLine.instructionText_iff _).mpr (by simp [h]))
  | @address type name =>
    have hname : OneLine name := hlabels name (by simp [givenLabels, records, Place.label?])
    exact Or.inl (OneLine.instructionText rfl hname)
  | zero number => exact Or.inl (OneLine.instructionText rfl (.generatedName .branchLabel number))
  | forward number =>
    exact Or.inl (OneLine.instructionText rfl (.generatedName .branchLabel number))
  | @pending name =>
    exact Or.inl ((OneLine.labelText_iff name).mpr (hlabels name List.mem_cons_self))
  | @back target label =>
    exact Or.inl (OneLine.instructionText rfl (hlabels target List.mem_cons_self))
  | @behind target label =>
    have hlabel := hlabels label (List.mem_cons_of_mem _ List.mem_cons_self)
    exact Or.inl ((OneLine.labelText_iff label).mpr hlabel)
  | drawn number =>
    exact Or.inl ((OneLine.labelText_iff _).mpr (.generatedName .branchLabel number))
  | @given name =>
    exact Or.inl ((OneLine.labelText_iff name).mpr (hlabels name List.mem_cons_self))
  | declared type offset => exact Or.inr ⟨_, .declared type offset⟩
  | element slot => exact Or.inr ⟨_, .element slot⟩
  | result offset =>
    exact Or.inl ((OneLine.remarkText_iff _).mpr (OneLine.resultRemark _ offset))

/-! ### Labels that are handed out -/

/-- The labels a caller can have from an answer are on one line, so it may give
    them to further actions. -/
theorem oneLine_of_perform {s : Journaled Session} {reply : Reply}
    (h : (action.perform s).1 = .ok reply)
    (hlabels : ∀ label ∈ action.givenLabels, OneLine label) :
    ∀ label ∈ reply.labels, OneLine label := by
  obtain ⟨journal, hrule⟩ := rule_of_answer h
  cases reply with
  | done => exact List.forall_mem_nil _
  | symbol id => exact List.forall_mem_nil _
  | label name =>
    simp only [Reply.labels, List.forall_mem_singleton]
    cases hands_of_rule hrule with
    | given => exact hlabels name List.mem_cons_self
    | _ => exact OneLine.generatedName .branchLabel _
  | record record =>
    rcases record_of_rule hrule with ⟨-, hplace⟩ | ⟨number, rfl⟩
    · rcases record with ⟨type, place⟩
      cases place with
      | label name => cases hplace
      | _ => exact List.forall_mem_nil _
    · simp [Reply.labels, Place.label?]

end Action

/-- **When an element of the body is not one line.**  If the labels a run is given
    are, an element has a line feed just if it is an annotation that repeats a
    text with one.  So without annotations, or if no declaration and no
    reference has a line feed in it, the section of the body has one line for
    each element. -/
theorem element_splits_iff (options : Options) (level : Option Severity) {actions : List Action}
    (hlabels : ∀ action ∈ actions, ∀ label ∈ action.givenLabels, OneLine label) :
    let s := (Action.run actions
      { state := Session.start options, journal := { level } }).2.state
    (∀ line ∈ s.body, ¬ OneLine line.text ↔ options.annotate = true ∧
      ∃ action ∈ actions, ∃ spec, action.Echoes spec line ∧ ¬ OneLine spec) ∧
    ((options.annotate = true → ∀ action ∈ actions, ∀ spec, action.spec? = some spec →
        OneLine spec) →
      (∀ line ∈ s.body, OneLine line.text) ∧
        linesOf s.listing.bodyText.toList = s.body.map fun line => line.text.toList) := by
  intro s
  have hsplits : ∀ line ∈ s.body, ¬ OneLine line.text ↔ options.annotate = true ∧
      ∃ action ∈ actions, ∃ spec, action.Echoes spec line ∧ ¬ OneLine spec := by
    intro line hline
    constructor
    · intro hbroken
      rcases Action.body_run hline with hstart | ⟨action, haction, hwrites⟩
      · cases hstart
      · rcases hwrites.oneLine_or_echoes (hlabels action haction) with hone | ⟨spec, hechoes⟩
        · exact absurd hone hbroken
        · refine ⟨?_, action, haction, spec, hechoes, mt hechoes.oneLine_iff.mpr hbroken⟩
          by_contra hplain
          have hcode := annotator.isCode_of_plain (by simpa using hplain) level actions line hline
          rw [hechoes.isCode_eq] at hcode
          cases hcode
    · rintro ⟨-, action, -, spec, hechoes, hspec⟩
      exact mt hechoes.oneLine_iff.mp hspec
  refine ⟨hsplits, fun hspecs => ?_⟩
  have hone : ∀ line ∈ s.body, OneLine line.text := by
    intro line hline
    by_contra hbroken
    obtain ⟨hannotate, action, haction, spec, hechoes, hspec⟩ := (hsplits line hline).mp hbroken
    exact hspec (hspecs hannotate action haction spec hechoes.spec?_eq)
  refine ⟨hone, ?_⟩
  rw [Listing.toList_bodyText]
  apply linesOf_ofLines
  simp only [List.mem_map]
  rintro _ ⟨line, hline, rfl⟩
  exact hone line hline

-- Without annotations, what a variable is called has no part in the body.
theorem element_splits_iff_of_plain :
    let actions := [.enterScope, .declare "int" "x\n", .defineLabel (some "top"),
      .branchAndLabel "top" "done"]
    let s := (Action.run actions { state := Session.start {} }).2.state
    (∀ action ∈ actions, ∀ label ∈ action.givenLabels, OneLine label) ∧
      s.body.map Line.text = ["top:", "b top", "done:"] ∧
      linesOf s.listing.bodyText.toList = s.body.map fun line => line.text.toList := by
  intro actions s
  have hlabels : ∀ action ∈ actions, ∀ label ∈ action.givenLabels, OneLine label := by
    decide +kernel
  have hbody : s.body.map Line.text = ["top:", "b top", "done:"] := by
    unfold s
    decide +kernel
  -- from here on it does not matter which actions they are
  clear_value actions
  obtain ⟨-, hlines⟩ := element_splits_iff {} none hlabels
  exact ⟨hlabels, hbody, (hlines nofun).2⟩

-- The line feed is taken for a blank behind the name, but the remark has it still.
theorem remark_splits_at_lineFeed :
    let actions := [.enterScope, .declare "int" "x\n"]
    let result := Action.run actions { state := Session.start { annotate := true } }
    (∀ action ∈ actions, action.givenLabels = []) ∧
      result.1 = [.ok .done, .ok (.symbol 0)] ∧
      result.2.state.body = [.remark "int x\n at 0"] ∧
      (∃ line ∈ result.2.state.body, ¬ OneLine line.text) ∧
      (linesOf result.2.state.listing.bodyText.toList).map String.ofList =
        ["# int x", " at 0"] := by
  decide +kernel

end OnePass
