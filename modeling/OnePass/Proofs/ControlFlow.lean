/-
  OnePass/Proofs/ControlFlow.lean
  ===============================
  **Structured control flow and its branches.**

  An `Outline` arranges straight lines by sequence, choice and loop; `Exec` is
  what it means to run one.  `Outline.Lines` writes an outline with branches and
  labels.  Where the labels of the outline are placed once in the program, a
  machine that runs the branches does exactly what the outline means: it comes
  out at the end with the same state, or does not come out.

  What a straight line does to the machine is left open.
-/
import OnePass.Proofs.Change

namespace OnePass

open Asm

/-- How lines act on the states of a machine. -/
structure Interpretation (σ : Type) where
  /-- What a line does that neither branches nor is branched to. -/
  effect : Line → σ → σ
  /-- The register holds zero. -/
  isZero : Register → σ → Bool

def Interpretation.effects {σ : Type} (I : Interpretation σ) (lines : List Line) (m : σ) : σ :=
  lines.foldl (fun m line => I.effect line m) m

/-! ### Running lines with branches -/

section Machine

variable {σ : Type} (I : Interpretation σ) (program : List Line)

/-- Where a line leads from the place `pc` and the state `m`. -/
def Leads (pc : Nat) (m : σ) (next : Nat) (m' : σ) : Line → Prop
  | .label _ => next = pc + 1 ∧ m' = m
  | .instruction (.b name) => program[next]? = some (.label name) ∧ m' = m
  | .instruction (.beqz r name) =>
    (if I.isZero r m then program[next]? = some (.label name) else next = pc + 1) ∧ m' = m
  | line => next = pc + 1 ∧ m' = I.effect line m

/-- One step of a machine, from a place and a state to a place and a state. -/
def Flow (pc : Nat) (m : σ) (next : Nat) (m' : σ) : Prop :=
  ∃ line, program[pc]? = some line ∧ Leads I program pc m next m' line

inductive Path : Nat → Nat → σ → Nat → σ → Prop
  | refl (pc : Nat) (m : σ) : Path 0 pc m pc m
  | step {n pc next last : Nat} {m m' m'' : σ} (hflow : Flow I program pc m next m')
      (hrest : Path n next m' last m'') : Path (n + 1) pc m last m''

/-- The machine comes from one line and state to another. -/
def Reaches (pc : Nat) (m : σ) (last : Nat) (m' : σ) : Prop :=
  ∃ n, Path I program n pc m last m'

end Machine

section Paths

variable {σ : Type} {I : Interpretation σ} {program : List Line}

theorem Path.trans {n k p q r : Nat} {m m' m'' : σ} (h : Path I program n p m q m')
    (h' : Path I program k q m' r m'') : Path I program (n + k) p m r m'' := by
  induction h with
  | refl pc m =>
    rw [Nat.zero_add]
    exact h'
  | step hflow _ ih =>
    rw [Nat.succ_add]
    exact .step hflow (ih h')

theorem Reaches.refl (pc : Nat) (m : σ) : Reaches I program pc m pc m := ⟨0, .refl pc m⟩

theorem Reaches.trans {p q r : Nat} {m m' m'' : σ} (h : Reaches I program p m q m')
    (h' : Reaches I program q m' r m'') : Reaches I program p m r m'' := by
  obtain ⟨n, hn⟩ := h
  obtain ⟨k, hk⟩ := h'
  exact ⟨n + k, hn.trans hk⟩

theorem Reaches.of_eq {p q r : Nat} {m m' : σ} (h : Reaches I program p m q m') (heq : q = r) :
    Reaches I program p m r m' :=
  heq ▸ h

theorem Flow.reaches {p q : Nat} {m m' : σ} (h : Flow I program p m q m') :
    Reaches I program p m q m' :=
  ⟨1, .step h (.refl q m')⟩

/-- A path to the end of the program goes on from any line. -/
theorem Path.cases_of_line {n p : Nat} {m m' : σ} {line : Line}
    (h : Path I program n p m program.length m') (hline : program[p]? = some line) :
    ∃ k next m₁, n = k + 1 ∧ Flow I program p m next m₁ ∧
      Path I program k next m₁ program.length m' := by
  cases h with
  | refl =>
    rw [List.getElem?_eq_none (Nat.le_refl _)] at hline
    cases hline
  | step hflow hrest => exact ⟨_, _, _, rfl, hflow, hrest⟩

/-- Behind the last line of the program the machine stands still. -/
theorem Path.eq_of_end {n q : Nat} {m m' : σ} (h : Path I program n program.length m q m') :
    m' = m := by
  cases h with
  | refl => rfl
  | step hflow _ =>
    obtain ⟨line, hline, -⟩ := hflow
    rw [List.getElem?_eq_none (Nat.le_refl _)] at hline
    cases hline

theorem Path.of_eq {n p q r : Nat} {m m' : σ} (h : Path I program n p m r m') (heq : p = q) :
    Path I program n q m r m' :=
  heq ▸ h

theorem flow_iff {p next : Nat} {m m' : σ} {line : Line} (hline : program[p]? = some line) :
    Flow I program p m next m' ↔ Leads I program p m next m' line := by
  simp only [Flow, hline, Option.some.injEq, exists_eq_left']

theorem leads_of_isStraight {p next : Nat} {m m' : σ} {line : Line} (h : line.isStraight = true) :
    Leads I program p m next m' line ↔ next = p + 1 ∧ m' = I.effect line m := by
  cases line with
  | instruction i => cases i <;> first | rfl | cases h
  | label name => cases h
  | remark text => rfl
  | verbatim text => rfl

end Paths

/-! ### Outlines -/

/-- Straight lines in an arrangement. -/
inductive Outline where
  | code (lines : List Line)
  | seq (first second : Outline)
  /-- The body is run unless the test leaves zero in `$t0`. -/
  | ifThen (test : List Line) (body : Outline)
  | ifElse (test : List Line) (yes no : Outline)
  | loop (test : List Line) (body : Outline)
  deriving DecidableEq

namespace Outline

variable {σ : Type}

/-- The test leaves zero in `$t0`. -/
abbrev Fails (I : Interpretation σ) (test : List Line) (m : σ) : Prop :=
  I.isZero (.t 0) (I.effects test m) = true

/-- What an outline means: from the first state it ends in the second. -/
inductive Exec (I : Interpretation σ) : Outline → σ → σ → Prop
  | code (lines : List Line) (m : σ) : Exec I (.code lines) m (I.effects lines m)
  | seq {first second : Outline} {m m₁ m₂ : σ} (hfirst : Exec I first m m₁)
      (hsecond : Exec I second m₁ m₂) : Exec I (.seq first second) m m₂
  | ifThen_zero {test : List Line} {body : Outline} {m : σ} (hzero : Fails I test m) :
      Exec I (.ifThen test body) m (I.effects test m)
  | ifThen_nonzero {test : List Line} {body : Outline} {m m' : σ} (hnonzero : ¬ Fails I test m)
      (hbody : Exec I body (I.effects test m) m') : Exec I (.ifThen test body) m m'
  | ifElse_zero {test : List Line} {yes no : Outline} {m m' : σ} (hzero : Fails I test m)
      (hno : Exec I no (I.effects test m) m') : Exec I (.ifElse test yes no) m m'
  | ifElse_nonzero {test : List Line} {yes no : Outline} {m m' : σ} (hnonzero : ¬ Fails I test m)
      (hyes : Exec I yes (I.effects test m) m') : Exec I (.ifElse test yes no) m m'
  | loop_zero {test : List Line} {body : Outline} {m : σ} (hzero : Fails I test m) :
      Exec I (.loop test body) m (I.effects test m)
  | loop_nonzero {test : List Line} {body : Outline} {m m₁ m₂ : σ} (hnonzero : ¬ Fails I test m)
      (hbody : Exec I body (I.effects test m) m₁) (hagain : Exec I (.loop test body) m₁ m₂) :
      Exec I (.loop test body) m m₂

abbrev Straight (lines : List Line) : Prop := ∀ line ∈ lines, line.isStraight = true

/-- The branch that leaves an outline if the test fails. -/
abbrev exit (label : String) : Line := .instruction (.beqz (.t 0) label)

/-- How an outline is written with branches and labels, for any choice of the
    labels. -/
inductive Lines : Outline → List Line → Prop
  | code {lines : List Line} (hlines : Straight lines) : Lines (.code lines) lines
  | seq {first second : Outline} {x y : List Line} (hfirst : Lines first x)
      (hsecond : Lines second y) : Lines (.seq first second) (x ++ y)
  | ifThen {test x : List Line} {body : Outline} (skip : String) (htest : Straight test)
      (hbody : Lines body x) :
      Lines (.ifThen test body) (test ++ exit skip :: (x ++ [.label skip]))
  | ifElse {test x y : List Line} {yes no : Outline} (other finish : String)
      (htest : Straight test) (hyes : Lines yes x) (hno : Lines no y) :
      Lines (.ifElse test yes no)
        (test ++ exit other ::
          (x ++ .instruction (.b finish) :: .label other :: (y ++ [.label finish])))
  | loop {test x : List Line} {body : Outline} (start finish : String) (htest : Straight test)
      (hbody : Lines body x) :
      Lines (.loop test body)
        (.label start :: (test ++ exit finish ::
          (x ++ [.instruction (.b start), .label finish])))

end Outline

/-! ### Lines at their place -/

/-- The lines stand in the program from the place on. -/
def At (program : List Line) (place : Nat) (lines : List Line) : Prop :=
  ∃ before after, program = before ++ (lines ++ after) ∧ before.length = place

namespace At

variable {program x y : List Line} {place : Nat} {line : Line}

theorem left (h : At program place (x ++ y)) : At program place x := by
  obtain ⟨before, after, rfl, rfl⟩ := h
  exact ⟨before, y ++ after, by rw [List.append_assoc], rfl⟩

theorem right (h : At program place (x ++ y)) : At program (place + x.length) y := by
  obtain ⟨before, after, rfl, rfl⟩ := h
  exact ⟨before ++ x, after, by simp only [List.append_assoc], List.length_append⟩

theorem head (h : At program place (line :: x)) : program[place]? = some line := by
  obtain ⟨before, after, rfl, rfl⟩ := h
  rw [List.getElem?_append_right (Nat.le_refl _), Nat.sub_self]
  rfl

theorem tail (h : At program place (line :: x)) : At program (place + 1) x :=
  right (x := [line]) h

end At

/-- A label that stands at one place only. -/
def PlacedOnce (program : List Line) (name : String) : Prop :=
  ∀ i j : Nat, program[i]? = some (.label name) → program[j]? = some (.label name) → i = j

/-- All labels among the lines stand at one place of the program only. -/
def LabelsOnce (program lines : List Line) : Prop :=
  ∀ name, .label name ∈ lines → PlacedOnce program name

namespace LabelsOnce

variable {program x y : List Line} {line : Line}

theorem left (h : LabelsOnce program (x ++ y)) : LabelsOnce program x :=
  fun name hname => h name (List.mem_append_left y hname)

theorem right (h : LabelsOnce program (x ++ y)) : LabelsOnce program y :=
  fun name hname => h name (List.mem_append_right x hname)

theorem tail (h : LabelsOnce program (line :: x)) : LabelsOnce program x :=
  fun name hname => h name (List.mem_cons_of_mem line hname)

end LabelsOnce

/-! ### Running pieces of the lines -/

section Pieces

open Outline

variable {σ : Type} {I : Interpretation σ} {program test lines rest : List Line} {p q : Nat}
  {m m' : σ} {name : String}

theorem reaches_straight (hstraight : Straight lines) (hat : At program p lines) (m : σ) :
    Reaches I program p m (p + lines.length) (I.effects lines m) := by
  induction lines generalizing p m with
  | nil => exact .refl p m
  | cons line lines ih =>
    have hline := hstraight line List.mem_cons_self
    have hflow : Flow I program p m (p + 1) (I.effect line m) :=
      (flow_iff hat.head).mpr ((leads_of_isStraight hline).mpr ⟨rfl, rfl⟩)
    have hmore := ih (fun l hl => hstraight l (List.mem_cons_of_mem _ hl)) hat.tail
      (I.effect line m)
    rw [List.length_cons, Nat.add_comm lines.length, ← Nat.add_assoc]
    exact hflow.reaches.trans hmore

theorem reaches_label (hline : program[p]? = some (.label name)) (m : σ) :
    Reaches I program p m (p + 1) m :=
  ((flow_iff hline).mpr ⟨rfl, rfl⟩).reaches

theorem reaches_branch (hline : program[p]? = some (.instruction (.b name)))
    (htarget : program[q]? = some (.label name)) (m : σ) : Reaches I program p m q m :=
  ((flow_iff hline).mpr ⟨htarget, rfl⟩).reaches

theorem reaches_zero (htest : Straight test) (hat : At program p (test ++ exit name :: rest))
    (hzero : Fails I test m) (htarget : program[q]? = some (.label name)) :
    Reaches I program p m (q + 1) (I.effects test m) := by
  refine (reaches_straight htest hat.left m).trans (.trans ?_ (reaches_label htarget _))
  refine ((flow_iff hat.right.head).mpr ⟨?_, rfl⟩).reaches
  rw [if_pos hzero]
  exact htarget

theorem reaches_nonzero (htest : Straight test) (hat : At program p (test ++ exit name :: rest))
    (hnonzero : ¬ Fails I test m) :
    Reaches I program p m (p + test.length + 1) (I.effects test m) := by
  refine (reaches_straight htest hat.left m).trans ?_
  refine ((flow_iff hat.right.head).mpr ⟨?_, rfl⟩).reaches
  rw [if_neg hnonzero]

/-! The same pieces the other way round: a path to the end of the program passes
    through them. -/

/-- From the place the machine comes to the end of the program in so many steps. -/
abbrev Ends (I : Interpretation σ) (program : List Line) (n p : Nat) (m m' : σ) : Prop :=
  Path I program n p m program.length m'

theorem ends_straight {n : Nat} (hstraight : Straight lines) (hat : At program p lines)
    (h : Ends I program n p m m') :
    ∃ k ≤ n, Ends I program k (p + lines.length) (I.effects lines m) m' := by
  induction lines generalizing p m n with
  | nil => exact ⟨n, Nat.le_refl n, h⟩
  | cons line lines ih =>
    obtain ⟨k, next, m₁, rfl, hflow, hrest⟩ := h.cases_of_line hat.head
    have hline := hstraight line List.mem_cons_self
    obtain ⟨rfl, rfl⟩ := (leads_of_isStraight hline).mp ((flow_iff hat.head).mp hflow)
    obtain ⟨j, hj, hends⟩ := ih (fun l hl => hstraight l (List.mem_cons_of_mem _ hl)) hat.tail hrest
    refine ⟨j, by omega, ?_⟩
    rw [List.length_cons, Nat.add_comm lines.length, ← Nat.add_assoc]
    exact hends

theorem ends_label {n : Nat} (hline : program[p]? = some (.label name))
    (h : Ends I program n p m m') : ∃ k < n, Ends I program k (p + 1) m m' := by
  obtain ⟨k, next, m₁, rfl, hflow, hrest⟩ := h.cases_of_line hline
  obtain ⟨rfl, rfl⟩ := (flow_iff hline).mp hflow
  exact ⟨k, by omega, hrest⟩

theorem ends_branch {n : Nat} (hline : program[p]? = some (.instruction (.b name)))
    (htarget : program[q]? = some (.label name)) (honce : PlacedOnce program name)
    (h : Ends I program n p m m') : ∃ k < n, Ends I program k q m m' := by
  obtain ⟨k, next, m₁, rfl, hflow, hrest⟩ := h.cases_of_line hline
  obtain ⟨hnext, rfl⟩ := (flow_iff hline).mp hflow
  obtain rfl := honce next q hnext htarget
  exact ⟨k, by omega, hrest⟩

theorem ends_zero {n : Nat} (htest : Straight test)
    (hat : At program p (test ++ exit name :: rest)) (hzero : Fails I test m)
    (htarget : program[q]? = some (.label name)) (honce : PlacedOnce program name)
    (h : Ends I program n p m m') : ∃ k < n, Ends I program k (q + 1) (I.effects test m) m' := by
  obtain ⟨k, hk, hexit⟩ := ends_straight htest hat.left h
  obtain ⟨j, next, m₁, rfl, hflow, hrest⟩ := hexit.cases_of_line hat.right.head
  obtain ⟨hnext, rfl⟩ := (flow_iff hat.right.head).mp hflow
  rw [if_pos hzero] at hnext
  obtain rfl := honce next q hnext htarget
  obtain ⟨i, hi, hends⟩ := ends_label htarget hrest
  exact ⟨i, by omega, hends⟩

theorem ends_nonzero {n : Nat} (htest : Straight test)
    (hat : At program p (test ++ exit name :: rest)) (hnonzero : ¬ Fails I test m)
    (h : Ends I program n p m m') :
    ∃ k < n, Ends I program k (p + test.length + 1) (I.effects test m) m' := by
  obtain ⟨k, hk, hexit⟩ := ends_straight htest hat.left h
  obtain ⟨j, next, m₁, rfl, hflow, hrest⟩ := hexit.cases_of_line hat.right.head
  obtain ⟨hnext, rfl⟩ := (flow_iff hat.right.head).mp hflow
  rw [if_neg hnonzero] at hnext
  subst hnext
  exact ⟨j, by omega, hrest⟩

end Pieces

/-! ### Outlines and their branches -/

namespace Outline

variable {σ : Type} {I : Interpretation σ} {program : List Line}

/-- What an outline means, its branches do. -/
theorem Exec.reaches {o : Outline} {m m' : σ} (h : Exec I o m m') :
    ∀ {lines : List Line} {p : Nat}, Lines o lines → At program p lines →
      Reaches I program p m (p + lines.length) m' := by
  induction h with
  | code lines m =>
    rintro lines p (hlines | _) hat
    exact reaches_straight hlines hat m
  | seq _ _ ihfirst ihsecond =>
    intro lines p hlines hat
    cases hlines with
    | seq hx hy =>
      rw [List.length_append, ← Nat.add_assoc]
      exact (ihfirst hx hat.left).trans (ihsecond hy hat.right)
  | ifThen_zero hzero =>
    intro lines p hlines hat
    cases hlines with
    | ifThen skip htest hbody =>
      have hskip := hat.right.tail.right.head
      exact (reaches_zero htest hat hzero hskip).of_eq (by simp; omega)
  | ifThen_nonzero hnonzero _ ih =>
    intro lines p hlines hat
    cases hlines with
    | ifThen skip htest hbody =>
      have hskip := hat.right.tail.right.head
      have hinto := reaches_nonzero htest hat hnonzero
      have hrun := ih hbody hat.right.tail.left
      exact ((hinto.trans hrun).trans (reaches_label hskip _)).of_eq (by simp; omega)
  | ifElse_zero hzero _ ih =>
    intro lines p hlines hat
    cases hlines with
    | ifElse other finish htest hyes hno =>
      have hother := hat.right.tail.right.tail.head
      have hfinish := hat.right.tail.right.tail.tail.right.head
      have hinto := reaches_zero htest hat hzero hother
      have hrun := ih hno hat.right.tail.right.tail.tail.left
      exact ((hinto.trans hrun).trans (reaches_label hfinish _)).of_eq (by simp; omega)
  | ifElse_nonzero hnonzero _ ih =>
    intro lines p hlines hat
    cases hlines with
    | ifElse other finish htest hyes hno =>
      have hfinish := hat.right.tail.right.tail.tail.right.head
      have hinto := reaches_nonzero htest hat hnonzero
      have hrun := ih hyes hat.right.tail.left
      have hover := hrun.trans (reaches_branch hat.right.tail.right.head hfinish _)
      exact ((hinto.trans hover).trans (reaches_label hfinish _)).of_eq (by simp; omega)
  | loop_zero hzero =>
    intro lines p hlines hat
    cases hlines with
    | loop start finish htest hbody =>
      have hfinish := hat.tail.right.tail.right.tail.head
      have hover := reaches_zero htest hat.tail hzero hfinish
      exact ((reaches_label hat.head _).trans hover).of_eq (by simp; omega)
  | loop_nonzero hnonzero _ _ ihbody ihloop =>
    intro lines p hlines hat
    cases hlines with
    | loop start finish htest hbody =>
      have hinto := (reaches_label hat.head _).trans (reaches_nonzero htest hat.tail hnonzero)
      have hrun := ihbody hbody hat.tail.right.tail.left
      have hback := hrun.trans (reaches_branch hat.tail.right.tail.right.head hat.head _)
      exact (hinto.trans hback).trans (ihloop (.loop start finish htest hbody) hat)

/-- On its way to the end of the program a machine does what the outline means. -/
theorem Lines.exec {o : Outline} {lines : List Line} (h : Lines o lines) :
    ∀ {n p : Nat} {m m' : σ}, At program p lines → LabelsOnce program lines →
      Ends I program n p m m' →
      ∃ m₁, Exec I o m m₁ ∧ ∃ k ≤ n, Ends I program k (p + lines.length) m₁ m' := by
  induction h with
  | code hlines =>
    intro n p m m' hat _ hends
    exact ⟨_, .code _ m, ends_straight hlines hat hends⟩
  | seq _ _ ihx ihy =>
    intro n p m m' hat honce hends
    obtain ⟨m₁, hexec, k, hk, hends⟩ := ihx hat.left honce.left hends
    obtain ⟨m₂, hexec', j, hj, hends⟩ := ihy hat.right honce.right hends
    refine ⟨m₂, .seq hexec hexec', j, by omega, hends.of_eq ?_⟩
    simp only [List.length_append, Nat.add_assoc]
  | @ifThen test _ _ skip htest _ ih =>
    intro n p m m' hat honce hends
    have hskip := hat.right.tail.right.head
    by_cases hzero : Fails I test m
    · obtain ⟨k, hk, hends⟩ := ends_zero htest hat hzero hskip (honce skip (by simp)) hends
      exact ⟨_, .ifThen_zero hzero, k, by omega, hends.of_eq (by simp; omega)⟩
    · obtain ⟨k, hk, hends⟩ := ends_nonzero htest hat hzero hends
      obtain ⟨m₁, hexec, j, hj, hends⟩ :=
        ih hat.right.tail.left honce.right.tail.left hends
      obtain ⟨i, hi, hends⟩ := ends_label hskip hends
      exact ⟨m₁, .ifThen_nonzero hzero hexec, i, by omega, hends.of_eq (by simp; omega)⟩
  | @ifElse test _ _ _ _ other finish htest _ _ ihyes ihno =>
    intro n p m m' hat honce hends
    have hother := hat.right.tail.right.tail.head
    have hfinish := hat.right.tail.right.tail.tail.right.head
    by_cases hzero : Fails I test m
    · obtain ⟨k, hk, hends⟩ := ends_zero htest hat hzero hother (honce other (by simp)) hends
      obtain ⟨m₁, hexec, j, hj, hends⟩ :=
        ihno hat.right.tail.right.tail.tail.left honce.right.tail.right.tail.tail.left hends
      obtain ⟨i, hi, hends⟩ := ends_label hfinish hends
      exact ⟨m₁, .ifElse_zero hzero hexec, i, by omega, hends.of_eq (by simp; omega)⟩
    · obtain ⟨k, hk, hends⟩ := ends_nonzero htest hat hzero hends
      obtain ⟨m₁, hexec, j, hj, hends⟩ :=
        ihyes hat.right.tail.left honce.right.tail.left hends
      obtain ⟨i, hi, hends⟩ :=
        ends_branch hat.right.tail.right.head hfinish (honce finish (by simp)) hends
      obtain ⟨l, hl, hends⟩ := ends_label hfinish hends
      exact ⟨m₁, .ifElse_nonzero hzero hexec, l, by omega, hends.of_eq (by simp; omega)⟩
  | @loop test _ _ start finish htest _ ih =>
    intro n
    -- Each round through the branch back leaves fewer steps to the end.
    induction n using Nat.strongRecOn with
    | ind n ihrounds =>
      intro p m m' hat honce hends
      have hfinish := hat.tail.right.tail.right.tail.head
      obtain ⟨k, hk, hends⟩ := ends_label hat.head hends
      by_cases hzero : Fails I test m
      · obtain ⟨j, hj, hends⟩ :=
          ends_zero htest hat.tail hzero hfinish (honce finish (by simp)) hends
        exact ⟨_, .loop_zero hzero, j, by omega, hends.of_eq (by simp; omega)⟩
      · obtain ⟨j, hj, hends⟩ := ends_nonzero htest hat.tail hzero hends
        obtain ⟨m₁, hexec, i, hi, hends⟩ :=
          ih hat.tail.right.tail.left honce.tail.right.tail.left hends
        obtain ⟨l, hl, hends⟩ :=
          ends_branch hat.tail.right.tail.right.head hat.head (honce start (by simp)) hends
        obtain ⟨m₂, hagain, r, hr, hends⟩ := ihrounds l (by omega) hat honce hends
        exact ⟨m₂, .loop_nonzero hzero hexec hagain, r, by omega, hends⟩

/-- Written last in a program, an outline means what its branches do. -/
theorem Lines.reaches_iff {o : Outline} {before lines : List Line} (h : Lines o lines)
    (honce : LabelsOnce (before ++ lines) lines) {m m' : σ} :
    Reaches I (before ++ lines) before.length m (before ++ lines).length m' ↔ Exec I o m m' := by
  have hat : At (before ++ lines) before.length lines := ⟨before, [], by simp, rfl⟩
  have hend : before.length + lines.length = (before ++ lines).length := List.length_append.symm
  constructor
  · rintro ⟨n, hpath⟩
    obtain ⟨m₁, hexec, k, -, hends⟩ := h.exec hat honce hpath
    rw [hend] at hends
    obtain rfl := hends.eq_of_end
    exact hexec
  · intro hexec
    exact (hexec.reaches h hat).of_eq hend

end Outline

end OnePass
