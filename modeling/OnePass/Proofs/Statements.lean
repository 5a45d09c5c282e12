/-
  OnePass/Proofs/Statements.lean
  ==============================
  **Statements compile to branches that run them.**

  A statement is put together from straight actions by sequence, scopes, choice
  and loop, each with the rules of control flow its caller is to use.  Compiling
  it appends an outline written with labels drawn on the way (`Written`).  They
  stand nowhere else in the body if the caller placed only labels it knew, so a
  machine at the first line of the statement does what the outline means.
-/
import OnePass.Proofs.Labels

namespace OnePass

open Asm Step Session

/-! ### Statements -/

/-- Actions that place no label and write no branch. -/
structure Segment where
  actions : List Action
  straight : ∀ action ∈ actions, action.isStraight = true

/-- A statement, with the records its conditions are compiled to. -/
inductive Stmt where
  | straight (segment : Segment)
  | seq (first second : Stmt)
  | block (body : Stmt)
  | ifThen (test : Segment) (condition : Record) (body : Stmt)
  | ifElse (test : Segment) (condition : Record) (yes no : Stmt)
  | loop (test : Segment) (condition : Record) (body : Stmt)

/-- Runs a step and answers the lines it has appended to the body as well. -/
def appended {α : Type} (step : Step Session α) : Step Session (α × List Line) := do
  let before := (← current).body.length
  let a ← step
  return (a, (← current).body.drop before)

def Segment.compile (segment : Segment) : Step Session Unit :=
  segment.actions.forM fun action => do let _ ← act action.rule

/-- Computes a condition and branches to a new label if it is zero. -/
def Segment.branch (test : Segment) (condition : Record) : Step Session String := do
  test.compile
  act (branchIfZero condition)

/-- Answers the label of the branch and the lines before it. -/
def branchOn (test : Segment) (condition : Record) : Step Session (String × List Line) := do
  let (label, lines) ← appended (test.branch condition)
  return (label, lines.dropLast)

/-- Where the step succeeds, the lines are what it appends to the body. -/
def Appends {α : Type} (step : Step Session α) (lines : List Line) : Prop :=
  ∃ (s t : Journaled Session) (a : α), step s = .ok a t ∧ t.state.body = s.state.body ++ lines

namespace Stmt

/-- Compiles a statement, and answers the outline of the lines it appends. -/
def compile : Stmt → Step Session Outline
  | straight segment => do
    let (_, lines) ← appended segment.compile
    return .code lines
  | seq first second => do
    let x ← first.compile
    let y ← second.compile
    return .seq x y
  | block body => do
    act enterScope
    let x ← body.compile
    act leaveScope
    return x
  | ifThen test condition body => do
    let (skip, lines) ← branchOn test condition
    let x ← body.compile
    let _ ← act (defineLabel (some skip))
    return .ifThen lines x
  | ifElse test condition yes no => do
    let (other, lines) ← branchOn test condition
    let x ← yes.compile
    let finish ← act (branchThenLabel other)
    let y ← no.compile
    let _ ← act (defineLabel (some finish))
    return .ifElse lines x y
  | loop test condition body => do
    let start ← act (defineLabel none)
    let (finish, lines) ← branchOn test condition
    let x ← body.compile
    act (branchAndLabel start finish)
    return .loop lines x

/-- The outline arranges lines as the statement arranges the actions that append
    them. -/
inductive Follows : Stmt → Outline → Prop
  | straight {segment : Segment} {lines : List Line} (hlines : Appends segment.compile lines) :
      Follows (.straight segment) (.code lines)
  | seq {first second : Stmt} {x y : Outline} (hfirst : Follows first x)
      (hsecond : Follows second y) : Follows (.seq first second) (.seq x y)
  | block {body : Stmt} {x : Outline} (hbody : Follows body x) : Follows (.block body) x
  | ifThen {test : Segment} {condition : Record} {body : Stmt} {lines : List Line} {x : Outline}
      {skip : String} (htest : Appends (test.branch condition) (lines ++ [Outline.exit skip]))
      (hbody : Follows body x) : Follows (.ifThen test condition body) (.ifThen lines x)
  | ifElse {test : Segment} {condition : Record} {yes no : Stmt} {lines : List Line}
      {x y : Outline} {other : String}
      (htest : Appends (test.branch condition) (lines ++ [Outline.exit other]))
      (hyes : Follows yes x) (hno : Follows no y) :
      Follows (.ifElse test condition yes no) (.ifElse lines x y)
  | loop {test : Segment} {condition : Record} {body : Stmt} {lines : List Line} {x : Outline}
      {finish : String} (htest : Appends (test.branch condition) (lines ++ [Outline.exit finish]))
      (hbody : Follows body x) : Follows (.loop test condition body) (.loop lines x)

end Stmt

/-! ### What the parts of a statement append -/

section Parts

variable {α : Type} {s t : Journaled Session}

theorem act_eq_ok {rule : Step Session α} {a : α} (h : act rule s = .ok a t) :
    s.state.firstFault = none ∧ rule s = .ok a t := by
  unfold act at h
  split at h
  · cases h
  · next hlive =>
    refine ⟨hlive, ?_⟩
    split at h
    · next hrule =>
      rw [hrule]
      exact h
    · cases h

theorem eq_ok_of_perform {step : Step Session α} {a : α}
    (h : (step.perform s).1.toOption = some a) : ∃ t, step s = .ok a t := by
  unfold Step.perform at h
  cases hstep : step s with
  | ok b t =>
    rw [hstep] at h
    cases h
    exact ⟨t, rfl⟩
  | error cause t =>
    rw [hstep] at h
    cases h

theorem state_of_act {rule : Step Session α} {a b : α} {u : Session} (h : act rule s = .ok a t)
    (hyields : Yields rule s.state b u) : a = b ∧ t.state = u :=
  hyields.eq_of_ok (act_eq_ok h).2

theorem appended_eq_ok {step : Step Session α} {a : α} {lines : List Line}
    (h : appended step s = .ok (a, lines) t) :
    step s = .ok a t ∧ lines = t.state.body.drop s.state.body.length := by
  obtain ⟨session, s₁, hcurrent, h⟩ := bind_eq_ok h
  cases hcurrent
  obtain ⟨b, s₂, hstep, h⟩ := bind_eq_ok h
  obtain ⟨session, s₃, hcurrent, h⟩ := bind_eq_ok h
  cases hcurrent
  cases h
  exact ⟨hstep, rfl⟩

theorem Segment.changes {segment : Segment} (h : segment.compile s = .ok () t) :
    Changes (fun line => line.isStraight = true) True s.state t.state := by
  obtain ⟨actions, hstraight⟩ := segment
  simp only [Segment.compile] at h
  induction actions generalizing s with
  | nil =>
    cases h
    exact .refl _
  | cons action actions ih =>
    obtain ⟨_, s₁, hfirst, h⟩ := bind_eq_ok h
    obtain ⟨reply, s₂, hact, hdone⟩ := bind_eq_ok hfirst
    cases hdone
    have htracked : Tracked (fun line => line.isStraight = true) True action.rule :=
      action.tracked_rule (fun _ h => h) (Or.inl (hstraight action List.mem_cons_self))
        (Or.inr trivial)
    have hchanges := htracked.changes_of_ok (act_eq_ok hact).2
    exact hchanges.trans (ih (fun a ha => hstraight a (List.mem_cons_of_mem _ ha)) h)

/-- From the first session to the second straight lines were written and behind
    them the branch to a new label. -/
structure Tested (label : String) (lines : List Line) (s t : Session) : Prop where
  straight : Outline.Straight lines
  body_eq : t.body = s.body ++ (lines ++ [Outline.exit label])
  drawn : Drawn s.environment.drawn t.environment.drawn [label]

theorem branchOn_eq_ok {test : Segment} {condition : Record} {label : String} {lines : List Line}
    (h : branchOn test condition s = .ok (label, lines) t) :
    Tested label lines s.state t.state ∧
      Appends (test.branch condition) (lines ++ [Outline.exit label]) := by
  obtain ⟨⟨drawn, written⟩, s₁, happended, h⟩ := bind_eq_ok h
  cases h
  obtain ⟨hsteps, rfl⟩ := appended_eq_ok happended
  obtain ⟨_, s₂, htest, hbranch⟩ := bind_eq_ok hsteps
  have hchanges := Segment.changes htest
  obtain ⟨first, hfirst, hfirststraight⟩ := hchanges.body_eq
  obtain ⟨hlabel, hlt, second, hsecond, hbody⟩ := branchIfZero_eq_ok (act_eq_ok hbranch).2
  have hbody : t.state.body = s.state.body ++ ((first ++ second) ++ [Outline.exit label]) := by
    rw [hbody, hfirst]
    simp only [List.append_assoc]
  have hlines : (t.state.body.drop s.state.body.length).dropLast = first ++ second := by
    rw [hbody, List.drop_left, List.dropLast_concat]
  rw [hlines]
  refine ⟨⟨fun line hline => ?_, hbody, ?_⟩, s, t, label, hsteps, hbody⟩
  · exact (List.mem_append.mp hline).elim (hfirststraight line) (hsecond line)
  · rw [hlabel]
    exact .single hchanges.drawn_le hlt

theorem enterScope_eq_ok (h : act enterScope s = .ok () t) :
    t.state.body = s.state.body ∧ t.state.environment.drawn = s.state.environment.drawn := by
  obtain ⟨-, ht⟩ := state_of_act h (yields_inEnvironment (Environment.yields_enterScope _))
  rw [ht]
  exact ⟨rfl, rfl⟩

theorem leaveScope_eq_ok (h : act leaveScope s = .ok () t) :
    t.state.body = s.state.body ∧ t.state.environment.drawn = s.state.environment.drawn := by
  by_cases hactive : s.state.environment.active = []
  · have hrefuses := refuses_inEnvironment (Environment.refuses_leaveScope hactive)
    exact absurd (act_eq_ok h).2 hrefuses.ne_ok
  · obtain ⟨-, ht⟩ := state_of_act h (yields_inEnvironment (Environment.yields_leaveScope hactive))
    rw [ht]
    exact ⟨rfl, rfl⟩

end Parts

/-! ### What a statement appends -/

/-- From the first session to the second the outline was written to the body,
    with labels drawn on the way. -/
structure Written (o : Outline) (lines : List Line) (s t : Session) : Prop where
  form : o.Lines lines
  body_eq : t.body = s.body ++ lines
  drawn : Drawn s.environment.drawn t.environment.drawn (labels lines)

namespace Written

variable {s t u v : Session} {x y : Outline} {lines inside outside : List Line} {label : String}

theorem seq (hx : Written x inside s t) (hy : Written y outside t u) :
    Written (.seq x y) (inside ++ outside) s u where
  form := .seq hx.form hy.form
  body_eq := by rw [hy.body_eq, hx.body_eq, List.append_assoc]
  drawn := by
    rw [labels_append]
    exact hx.drawn.append hy.drawn

theorem ifThen (htest : Tested label lines s t) (hx : Written x inside t u) :
    Written (.ifThen lines x) (lines ++ Outline.exit label :: (inside ++ [.label label])) s
      (u.wrote [.label label]) where
  form := .ifThen label htest.straight hx.form
  body_eq := by
    rw [body_wrote, hx.body_eq, htest.body_eq]
    simp only [List.append_assoc, List.cons_append, List.nil_append]
  drawn := by
    refine (htest.drawn.append hx.drawn).perm ?_
    simp only [labels_append, labels_instruction, labels_label, labels_nil,
      labels_of_straight htest.straight, List.nil_append]
    exact List.perm_append_singleton label _

theorem ifElse {finish : String} (hfinish : finish = generatedName .branchLabel u.environment.drawn)
    (htest : Tested label lines s t) (hx : Written x inside t u)
    (hy : Written y outside (u.drew.wrote [.instruction (.b finish), .label label]) v) :
    Written (.ifElse lines x y)
      (lines ++ Outline.exit label ::
        (inside ++ .instruction (.b finish) :: .label label :: (outside ++ [.label finish])))
      s (v.wrote [.label finish]) where
  form := .ifElse label finish htest.straight hx.form hy.form
  body_eq := by
    rw [body_wrote, hy.body_eq, body_wrote, body_drew, hx.body_eq, htest.body_eq]
    simp only [List.append_assoc, List.cons_append, List.nil_append]
  drawn := by
    have hover : Drawn u.environment.drawn (u.environment.drawn + 1) [finish] := by
      rw [hfinish]
      exact .single (Nat.le_refl _) (Nat.lt_succ_self _)
    -- in the order in which the labels are drawn
    refine (((htest.drawn.append hx.drawn).append hover).append hy.drawn).perm ?_
    simp only [labels_append, labels_instruction, labels_label, labels_nil,
      labels_of_straight htest.straight, List.nil_append, List.append_assoc, List.cons_append]
    refine List.perm_middle.trans (.cons label ?_)
    exact (List.perm_append_singleton finish _).append_left _

theorem loop {start : String} (hstart : start = generatedName .branchLabel s.environment.drawn)
    (htest : Tested label lines (s.drew.wrote [.label start]) t) (hx : Written x inside t u) :
    Written (.loop lines x)
      (.label start :: (lines ++ Outline.exit label ::
        (inside ++ [.instruction (.b start), .label label])))
      s (u.wrote [.instruction (.b start), .label label]) where
  form := .loop start label htest.straight hx.form
  body_eq := by
    rw [body_wrote, hx.body_eq, htest.body_eq, body_wrote, body_drew]
    simp only [List.append_assoc, List.cons_append, List.nil_append]
  drawn := by
    have hfirst : Drawn s.environment.drawn (s.environment.drawn + 1) [start] := by
      rw [hstart]
      exact .single (Nat.le_refl _) (Nat.lt_succ_self _)
    refine ((hfirst.append htest.drawn).append hx.drawn).perm ?_
    simp only [labels_append, labels_instruction, labels_label, labels_nil,
      labels_of_straight htest.straight, List.nil_append, List.cons_append]
    exact .cons start (List.perm_append_singleton label _)

end Written

theorem Stmt.written {stmt : Stmt} {s t : Journaled Session} {o : Outline}
    (h : stmt.compile s = .ok o t) :
    (∃ lines, Written o lines s.state t.state) ∧ stmt.Follows o := by
  induction stmt generalizing s t o with
  | straight segment =>
    obtain ⟨⟨_, lines⟩, s₁, happended, h⟩ := bind_eq_ok h
    cases h
    obtain ⟨hsegment, rfl⟩ := appended_eq_ok happended
    have hchanges := Segment.changes hsegment
    obtain ⟨lines, hbody, hstraight⟩ := hchanges.body_eq
    rw [hbody, List.drop_left]
    refine ⟨⟨lines, .code hstraight, hbody, ?_⟩, .straight ⟨s, t, _, hsegment, hbody⟩⟩
    rw [labels_of_straight hstraight]
    exact .nil hchanges.drawn_le
  | seq first second ihfirst ihsecond =>
    obtain ⟨x, s₁, hfirst, h⟩ := bind_eq_ok h
    obtain ⟨y, s₂, hsecond, h⟩ := bind_eq_ok h
    cases h
    obtain ⟨⟨inside, hx⟩, hfollows⟩ := ihfirst hfirst
    obtain ⟨⟨outside, hy⟩, hfollows'⟩ := ihsecond hsecond
    exact ⟨⟨_, hx.seq hy⟩, .seq hfollows hfollows'⟩
  | block body ih =>
    obtain ⟨_, s₁, henter, h⟩ := bind_eq_ok h
    obtain ⟨x, s₂, hbody, h⟩ := bind_eq_ok h
    obtain ⟨_, s₃, hleave, h⟩ := bind_eq_ok h
    cases h
    obtain ⟨hentered, hdrawn⟩ := enterScope_eq_ok henter
    obtain ⟨⟨lines, hx⟩, hfollows⟩ := ih hbody
    obtain ⟨hleft, hdrawn'⟩ := leaveScope_eq_ok hleave
    refine ⟨⟨lines, hx.form, by rw [hleft, hx.body_eq, hentered], ?_⟩, .block hfollows⟩
    rw [hdrawn', ← hdrawn]
    exact hx.drawn
  | ifThen test condition body ih =>
    obtain ⟨⟨skip, lines⟩, s₁, hbranch, h⟩ := bind_eq_ok h
    obtain ⟨x, s₂, hbody, h⟩ := bind_eq_ok h
    obtain ⟨_, s₃, hplace, h⟩ := bind_eq_ok h
    cases h
    obtain ⟨htest, happends⟩ := branchOn_eq_ok hbranch
    obtain ⟨⟨inside, hx⟩, hfollows⟩ := ih hbody
    obtain ⟨-, ht⟩ := state_of_act hplace (yields_defineLabel skip s₂.state)
    rw [ht]
    exact ⟨⟨_, .ifThen htest hx⟩, .ifThen happends hfollows⟩
  | ifElse test condition yes no ihyes ihno =>
    obtain ⟨⟨other, lines⟩, s₁, hbranch, h⟩ := bind_eq_ok h
    obtain ⟨x, s₂, hyes, h⟩ := bind_eq_ok h
    obtain ⟨finish, s₃, hover, h⟩ := bind_eq_ok h
    obtain ⟨y, s₄, hno, h⟩ := bind_eq_ok h
    obtain ⟨_, s₅, hplace, h⟩ := bind_eq_ok h
    cases h
    obtain ⟨htest, happends⟩ := branchOn_eq_ok hbranch
    obtain ⟨⟨inside, hx⟩, hfollows⟩ := ihyes hyes
    obtain ⟨hfinish, hs₃⟩ := state_of_act hover (yields_branchThenLabel other s₂.state)
    obtain ⟨⟨outside, hy⟩, hfollows'⟩ := ihno hno
    obtain ⟨-, ht⟩ := state_of_act hplace (yields_defineLabel finish s₄.state)
    rw [hs₃, ← hfinish] at hy
    rw [ht]
    exact ⟨⟨_, .ifElse hfinish htest hx hy⟩, .ifElse happends hfollows hfollows'⟩
  | loop test condition body ih =>
    obtain ⟨start, s₁, hstart, h⟩ := bind_eq_ok h
    obtain ⟨⟨finish, lines⟩, s₂, hbranch, h⟩ := bind_eq_ok h
    obtain ⟨x, s₃, hbody, h⟩ := bind_eq_ok h
    obtain ⟨_, s₄, hback, h⟩ := bind_eq_ok h
    cases h
    obtain ⟨hlabel, hs₁⟩ := state_of_act hstart (yields_defineLabel_new s.state)
    obtain ⟨htest, happends⟩ := branchOn_eq_ok hbranch
    obtain ⟨⟨inside, hx⟩, hfollows⟩ := ih hbody
    obtain ⟨-, ht⟩ := state_of_act hback (yields_branchAndLabel start finish s₃.state)
    rw [hs₁, ← hlabel] at htest
    rw [ht]
    exact ⟨⟨_, .loop hlabel htest hx⟩, .loop happends hfollows⟩

namespace Stmt

/-- **A compiled statement runs as it is arranged.**  It appends an outline of
    its own arrangement, and from its first line a machine that runs the whole
    body comes out behind it in a state just if the outline, with its choices
    and loops, ends in that state. -/
theorem compile_reaches_iff {known : List String} {stmt : Stmt} {s t : Journaled Session}
    {o : Outline} (hs : PlacesKnown known s) (h : stmt.compile s = .ok o t) :
    stmt.Follows o ∧ (∃ lines, t.state.body = s.state.body ++ lines ∧ o.Lines lines) ∧
      ∀ {σ : Type} (I : Interpretation σ) (m m' : σ),
        Reaches I t.state.body s.state.body.length m t.state.body.length m' ↔ o.Exec I m m' := by
  obtain ⟨⟨lines, hwritten⟩, hfollows⟩ := stmt.written h
  have honce := hwritten.drawn.labelsOnce hs.allDrawn.body
  refine ⟨hfollows, ⟨lines, hwritten.body_eq, hwritten.form⟩, fun I m m' => ?_⟩
  rw [hwritten.body_eq]
  exact hwritten.form.reaches_iff honce

-- A line feed for each number from 2 down, on a machine that only counts.
theorem compile_reaches_iff_of_countdown :
    let s := (Action.enterScope.perform { state := Session.start {} }).2
    let stmt := loop ⟨[.intLiteral 1], by decide⟩ ⟨.int, .stack 0⟩
      (block (straight ⟨[.newline], by decide⟩))
    let I : Interpretation Nat :=
      ⟨fun line m => if line = .instruction .syscall then m - 1 else m, fun _ m => m == 0⟩
    ∃ o t, stmt.compile s = .ok o t ∧ Reaches I t.state.body 0 2 t.state.body.length 0 := by
  intro s stmt I
  have hoption : (stmt.compile.perform s).1.toOption =
      some (.loop [.instruction (.li (.t 0) (.number 1)), .instruction (.sw (.t 0) (.slot 0)),
          .instruction (.lw (.t 0) (.slot 0))]
        (.code [.instruction (.li .a0 .lineFeed), .instruction (.select .printChar),
          .instruction .syscall])) := by
    unfold s stmt
    decide +kernel
  obtain ⟨t, hok⟩ := eq_ok_of_perform hoption
  have hknown : PlacesKnown _ s := .perform (.start {} none) .enterScope (List.forall_mem_nil _)
  refine ⟨_, t, hok, ((compile_reaches_iff hknown hok).2.2 I 2 0).mpr ?_⟩
  exact .loop_nonzero (by decide) (.code _ _)
    (.loop_nonzero (by decide) (.code _ _) (.loop_zero (by decide)))

end Stmt

end OnePass
