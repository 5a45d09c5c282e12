/-
  OnePass/Proofs/Reachable.lean
  =============================
  **Reachable sessions** — what runs of actions lead to, and how to reason
  about all of them at once.

  A rule is performed only while no fault is kept, so a run is a sequence of
  changes up to the first failure and stands still behind it.  `Invariant` asks
  for one property of the sessions before the first fault and a weaker one of
  those after it, and `Reachable.intact_or_aborted` is the induction over runs.
-/
import OnePass.Proofs.Change

namespace OnePass

open Asm Step Session

namespace Action

variable {s t : Journaled Session} {action : Action}

theorem run_append (first second : List Action) (s : Journaled Session) :
    (run (first ++ second) s).2 = (run second (run first s).2).2 := by
  induction first generalizing s with
  | nil => rfl
  | cons action rest ih => exact ih (action.perform s).2

/-! ### One action -/

theorem perform_of_aborted (h : s.state.firstFault ≠ none) :
    action.perform s = (.error .aborted, s) := by
  obtain ⟨cause, hcause⟩ := Option.ne_none_iff_exists'.mp h
  simp only [perform, Step.perform, act, hcause]

theorem perform_of_yields {reply : Reply} {u : Session} (hlive : s.state.firstFault = none)
    (h : Yields action.rule s.state reply u) :
    ∃ journal, action.perform s = (.ok reply, ⟨u, journal⟩) := by
  obtain ⟨journal, hrule⟩ := h s.journal
  exact ⟨journal, by simp only [perform, Step.perform, act, hlive, hrule]⟩

theorem perform_of_refuses {cause : Fault} {u : Session} (hlive : s.state.firstFault = none)
    (h : Refuses action.rule s.state cause u) :
    ∃ journal, action.perform s =
      (.error cause, ⟨{ u with firstFault := some cause }, journal⟩) := by
  obtain ⟨journal, hrule⟩ := h s.journal
  exact ⟨journal.add (.aborted cause), by simp only [perform, Step.perform, act, hlive, hrule]⟩

/-- A rule that succeeds when it is performed yields just that. -/
theorem yields_of_perform {reply : Reply} {u : Session} {answer : Reply}
    (h : Yields action.rule s.state reply u) (hperform : action.perform s = (.ok answer, t)) :
    answer = reply ∧ t.state = u := by
  by_cases hlive : s.state.firstFault = none
  · obtain ⟨journal, hyields⟩ := perform_of_yields hlive h
    rw [hyields] at hperform
    cases hperform
    exact ⟨rfl, rfl⟩
  · rw [perform_of_aborted hlive] at hperform
    cases hperform

/-- An action that succeeds makes changes to a session without a fault. -/
theorem changes_of_ok {allowed : Line → Prop} {scoping : Prop}
    (hstraight : ∀ line : Line, line.isStraight = true → allowed line)
    (hflow : action.isStraight = true ∨ ∀ line, allowed line)
    (hnames : action.isQuiet = true ∨ scoping) {reply : Reply}
    (h : action.perform s = (.ok reply, t)) :
    s.state.firstFault = none ∧ Yields action.rule s.state reply t.state ∧
      Changes allowed scoping s.state t.state := by
  by_cases hlive : s.state.firstFault = none
  · rcases tracked_rule hstraight action hflow hnames s.state with
      ⟨answer, u, hyields, hchanges⟩ | ⟨cause, u, hrefuses, -⟩
    · obtain ⟨rfl, rfl⟩ := yields_of_perform hyields h
      exact ⟨hlive, hyields, hchanges⟩
    · obtain ⟨journal, hfails⟩ := perform_of_refuses hlive hrefuses
      rw [hfails] at h
      cases h
  · rw [perform_of_aborted hlive] at h
    cases h

/-- An action that is answered was performed, and made changes. -/
theorem changes_of_answer {reply : Reply} (h : (action.perform s).1 = .ok reply) :
    s.state.firstFault = none ∧ Yields action.rule s.state reply (action.perform s).2.state ∧
      Changes (fun _ => True) True s.state (action.perform s).2.state :=
  changes_of_ok (fun _ _ => trivial) (Or.inr fun _ => trivial) (Or.inr trivial) (Prod.ext h rfl)

/-- An answer is that of the rule. -/
theorem rule_of_answer {reply : Reply} (h : (action.perform s).1 = .ok reply) :
    ∃ journal, action.rule s = .ok reply ⟨(action.perform s).2.state, journal⟩ := by
  obtain ⟨-, hyields, -⟩ := changes_of_answer h
  exact hyields s.journal

/-- If no fault is kept behind an action, the action succeeded. -/
theorem yields_of_live (h : (action.perform s).2.state.firstFault = none) :
    ∃ reply, Yields action.rule s.state reply (action.perform s).2.state := by
  by_cases hlive : s.state.firstFault = none
  · rcases action.tracked s.state with ⟨reply, u, hyields, -⟩ | ⟨cause, u, hrefuses, -⟩
    · obtain ⟨journal, hok⟩ := perform_of_yields hlive hyields
      rw [hok]
      exact ⟨reply, hyields⟩
    · obtain ⟨journal, hfails⟩ := perform_of_refuses hlive hrefuses
      rw [hfails] at h
      cases h
  · rw [perform_of_aborted hlive] at h
    exact absurd h hlive

/-- A session that keeps a fault refuses everything and does nothing. -/
theorem run_of_aborted (h : s.state.firstFault ≠ none) (actions : List Action) :
    run actions s = (List.replicate actions.length (.error .aborted), s) := by
  induction actions with
  | nil => rfl
  | cons action rest ih =>
    simp only [run, perform_of_aborted h, ih, List.length_cons, List.replicate_succ]

/-- A run that ends without a fault has been without one all along. -/
theorem live_of_run {actions : List Action} (h : (run actions s).2.state.firstFault = none) :
    s.state.firstFault = none := by
  by_cases hlive : s.state.firstFault = none
  · exact hlive
  · rw [run_of_aborted hlive] at h
    exact absurd h hlive

/-- Whatever becomes of an action, it does nothing to the session but changes,
    lost words, and a fault that is kept. -/
theorem falls_perform (action : Action) (s : Journaled Session) :
    ∃ t fault, Falls action.Writes True s.state t ∧
      (action.perform s).2.state = { t with firstFault := fault } := by
  by_cases hlive : s.state.firstFault = none
  · have htracked : Tracked action.Writes True action.rule := action.tracked_writes (Or.inr trivial)
    rcases htracked s.state with ⟨reply, t, hyields, hchanges⟩ | ⟨cause, t, hrefuses, hfalls⟩
    · obtain ⟨journal, hok⟩ := perform_of_yields hlive hyields
      rw [hok]
      exact ⟨t, t.firstFault, hchanges.falls, rfl⟩
    · obtain ⟨journal, hfails⟩ := perform_of_refuses hlive hrefuses
      rw [hfails]
      exact ⟨t, some cause, hfalls, rfl⟩
  · rw [perform_of_aborted hlive]
    exact ⟨s.state, s.state.firstFault, (Changes.refl s.state).falls, rfl⟩

/-- Lines that stand in a body stay, and an action adds only what it may write. -/
theorem body_perform (action : Action) (s : Journaled Session) :
    ∃ lines, (action.perform s).2.state.body = s.state.body ++ lines ∧
      ∀ line ∈ lines, action.Writes line := by
  obtain ⟨t, fault, hfalls, ht⟩ := action.falls_perform s
  rw [ht]
  exact hfalls.body_eq

theorem drawn_le_perform (action : Action) (s : Journaled Session) :
    s.state.environment.drawn ≤ (action.perform s).2.state.environment.drawn := by
  obtain ⟨t, fault, hfalls, ht⟩ := action.falls_perform s
  rw [ht]
  exact hfalls.drawn_le

theorem body_run {line : Line} {actions : List Action}
    (h : line ∈ (run actions s).2.state.body) :
    line ∈ s.state.body ∨ ∃ action ∈ actions, action.Writes line := by
  induction actions generalizing s with
  | nil => exact Or.inl h
  | cons action rest ih =>
    obtain ⟨lines, hbody, hlines⟩ := action.body_perform s
    have hrest : line ∈ (run rest (action.perform s).2).2.state.body := h
    rcases ih hrest with hbefore | ⟨other, hother, hwrites⟩
    · rw [hbody, List.mem_append] at hbefore
      rcases hbefore with hold | hnew
      · exact Or.inl hold
      · exact Or.inr ⟨action, List.mem_cons_self, hlines line hnew⟩
    · exact Or.inr ⟨other, List.mem_cons_of_mem _ hother, hwrites⟩

/-- No action takes a symbol away or alters it. -/
theorem symbol?_perform {id : SymbolId} {symbol : Symbol} (action : Action)
    (h : s.state.environment.symbol? id = some symbol) :
    (action.perform s).2.state.environment.symbol? id = some symbol := by
  obtain ⟨t, fault, hfalls, ht⟩ := action.falls_perform s
  rw [ht]
  exact hfalls.symbol?_eq h

theorem symbol?_run {id : SymbolId} {symbol : Symbol} (actions : List Action)
    (h : s.state.environment.symbol? id = some symbol) :
    (run actions s).2.state.environment.symbol? id = some symbol := by
  induction actions generalizing s with
  | nil => exact h
  | cons action rest ih => exact ih (symbol?_perform action h)

end Action

/-! ### Runs -/

/-- Some run of actions leads from a new session to this one. -/
def Reachable (s : Journaled Session) : Prop :=
  ∃ options level actions,
    (Action.run actions { state := Session.start options, journal := { level } }).2 = s

theorem Reachable.run {s : Journaled Session} (h : Reachable s) (actions : List Action) :
    Reachable (Action.run actions s).2 := by
  obtain ⟨options, level, before, rfl⟩ := h
  exact ⟨options, level, before ++ actions, Action.run_append before actions _⟩

theorem Reachable.perform {s : Journaled Session} (h : Reachable s) (action : Action) :
    Reachable (action.perform s).2 :=
  h.run [action]

/-- What holds of new sessions and is kept by every action holds of all
    reachable ones. -/
theorem Reachable.induction {P : Journaled Session → Prop}
    (hstart : ∀ options level, P { state := Session.start options, journal := { level } })
    (hperform : ∀ s action, P s → P (Action.perform action s).2) {s : Journaled Session}
    (h : Reachable s) : P s := by
  obtain ⟨options, level, actions, rfl⟩ := h
  have hkeep : ∀ s, P s → P (Action.run actions s).2 := by
    induction actions with
    | nil => exact fun s hs => hs
    | cons action rest ih => exact fun s hs => ih _ (hperform s action hs)
  exact hkeep _ (hstart options level)

/-- `I` holds of sessions up to the first fault, `J` of those behind it. -/
structure Invariant (I J : Session → Prop) : Prop where
  start : ∀ options, I (Session.start options)
  change : ∀ {s t}, Change (fun _ => True) True s t → I s → I t
  fault : ∀ {s} cause, I s → J { s with firstFault := some cause }
  lost : ∀ s {words grown} cause, s.frame.grow? words = some grown → I s →
    J { s with frame := grown, firstFault := some cause }

theorem Invariant.perform {I J : Session → Prop} (hinv : Invariant I J) (action : Action)
    {s : Journaled Session}
    (hs : (s.state.firstFault = none ∧ I s.state) ∨ (s.state.firstFault ≠ none ∧ J s.state)) :
    ((action.perform s).2.state.firstFault = none ∧ I (action.perform s).2.state) ∨
      ((action.perform s).2.state.firstFault ≠ none ∧ J (action.perform s).2.state) := by
  rcases hs with ⟨hlive, hs⟩ | ⟨hdead, hs⟩
  · rcases action.tracked s.state with
      ⟨reply, t, hyields, hchanges⟩ | ⟨cause, t, hrefuses, hfalls⟩
    · obtain ⟨journal, hok⟩ := Action.perform_of_yields hlive hyields
      rw [hok]
      exact Or.inl ⟨hchanges.firstFault_eq.trans hlive, hchanges.keeps hinv.change hs⟩
    · obtain ⟨journal, hfails⟩ := Action.perform_of_refuses hlive hrefuses
      rw [hfails]
      refine Or.inr ⟨nofun, ?_⟩
      obtain ⟨u, hchanges, rfl | ⟨words, grown, hgrow, rfl⟩⟩ := hfalls
      · exact hinv.fault cause (hchanges.keeps hinv.change hs)
      · exact hinv.lost u cause hgrow (hchanges.keeps hinv.change hs)
  · rw [Action.perform_of_aborted hdead]
    exact Or.inr ⟨hdead, hs⟩

theorem Reachable.intact_or_aborted {I J : Session → Prop} (hinv : Invariant I J)
    {s : Journaled Session} (h : Reachable s) :
    (s.state.firstFault = none ∧ I s.state) ∨ (s.state.firstFault ≠ none ∧ J s.state) := by
  refine Reachable.induction (P := fun s => (s.state.firstFault = none ∧ I s.state) ∨
    (s.state.firstFault ≠ none ∧ J s.state)) (fun options _ => ?_) (fun _ action hs => ?_) h
  · exact Or.inl ⟨rfl, hinv.start options⟩
  · exact hinv.perform action hs

theorem Reachable.intact {I J : Session → Prop} (hinv : Invariant I J) {s : Journaled Session}
    (h : Reachable s) (hlive : s.state.firstFault = none) : I s.state := by
  rcases h.intact_or_aborted hinv with ⟨-, hs⟩ | ⟨hdead, -⟩
  · exact hs
  · exact absurd hlive hdead

end OnePass
