/-
  OnePass/Proofs/Callers.lean
  ===========================
  **Callers** — who asks a session for actions.

  Records and labels come from answers, so what is asked for next may depend on
  the answers so far.  Whatever it is, a caller that has been answered `n` times
  has asked for `n` actions in some order.  Two sessions that answer alike are
  therefore asked for the same.
-/
import OnePass.Proofs.Lockstep

namespace OnePass

open Asm Step Session

/-- Who asks a session for actions; what comes next may depend on the answers. -/
abbrev Caller := List (Except Fault Reply) → Action

namespace Caller

/-- The first `n` answers to a caller, and the session after them. -/
def drive (caller : Caller) (s : Journaled Session) :
    Nat → List (Except Fault Reply) × Journaled Session
  | 0 => ([], s)
  | n + 1 =>
    let (answers, t) := caller.drive s n
    let (answer, u) := (caller answers).perform t
    (answers ++ [answer], u)

/-- The caller that asks for actions in order, whatever the answers are. -/
def asking (actions : List Action) : Caller :=
  fun answers => actions.getD answers.length .newline

theorem length_answers (actions : List Action) (s : Journaled Session) :
    (Action.run actions s).1.length = actions.length := by
  induction actions generalizing s with
  | nil => rfl
  | cons action rest ih => simp only [Action.run, List.length_cons, ih]

/-- Actions that are known from the start are asked for by a caller too. -/
theorem drive_asking (actions : List Action) (s : Journaled Session) {n : Nat}
    (hn : n ≤ actions.length) :
    (asking actions).drive s n = Action.run (actions.take n) s := by
  induction n with
  | zero => rfl
  | succ n ih =>
    have hlength : (Action.run (actions.take n) s).1.length = n := by
      rw [length_answers, List.length_take_of_le (Nat.le_of_succ_le hn)]
    have hnext : asking actions (Action.run (actions.take n) s).1 = actions[n] := by
      rw [asking, hlength, List.getD_eq_getElem _ _ hn]
    simp only [drive, ih (Nat.le_of_succ_le hn), hnext, List.take_succ_eq_append_getElem hn]
    apply Prod.ext
    · exact (Action.answers_append (actions.take n) [actions[n]] s).symm
    · exact (Action.run_append (actions.take n) [actions[n]] s).symm

/-- The first `n` actions a caller asks for. -/
def asked (caller : Caller) (s : Journaled Session) : Nat → List Action
  | 0 => []
  | n + 1 => caller.asked s n ++ [caller (caller.drive s n).1]

/-- What a caller leads to is a run. -/
theorem drive_eq_run (caller : Caller) (s : Journaled Session) (n : Nat) :
    caller.drive s n = Action.run (caller.asked s n) s := by
  induction n with
  | zero => rfl
  | succ n ih =>
    simp only [drive, asked, ih]
    apply Prod.ext
    · exact (Action.answers_append (caller.asked s n) [_] s).symm
    · exact (Action.run_append (caller.asked s n) [_] s).symm

end Caller

/-! ### Sessions that answer alike -/

namespace Coupling

/-- Coupled sessions give the same answers, faults included. -/
structure Exact (c : Coupling) : Prop extends c.Lawful where
  strict : c.strict
  causes_eq : c.causes = Eq
  matches_rule : ∀ action : Action, c.Matches Eq action.rule action.rule

/-- Where names mean the same, only scopes are left to look at. -/
theorem Transparent.exact {c : Coupling} (h : c.Transparent) (hstrict : c.strict)
    (hcauses : c.causes = Eq)
    (hentered : ∀ {e f}, c.environments e f →
      c.environments { e with active := ∅ :: e.active } { f with active := ∅ :: f.active })
    (hleft : ∀ {e f}, c.environments e f → c.environments e.left f.left) : c.Exact where
  toLawful := h.toLawful
  strict := hstrict
  causes_eq := hcauses
  matches_rule action := by
    by_cases henter : action = .enterScope
    · subst henter
      exact matches_enterScope hentered
    by_cases hleave : action = .leaveScope
    · subst hleave
      exact matches_leaveScope h.toLawful hleft
    exact h.matches_rule henter hleave

namespace Exact

variable {c : Coupling} (h : c.Exact) {s t : Journaled Session}

include h in
theorem faults_eq (hst : c.Together s t) : s.state.firstFault = t.state.firstFault := by
  have hfaults := hst.faults
  rw [h.causes_eq] at hfaults
  generalize s.state.firstFault = fault, t.state.firstFault = other at hfaults
  cases hfaults with
  | some heq => exact congrArg some heq
  | none => rfl

include h in
/-- One action is answered alike, and the sessions stay together. -/
theorem perform (hst : c.Together s t) (action : Action) :
    (action.perform s).1 = (action.perform t).1 ∧
      c.Together (action.perform s).2 (action.perform t).2 := by
  obtain ⟨hanswer, hafter⟩ := hst.perform h.toLawful h.strict (h.matches_rule action)
  rw [h.causes_eq] at hanswer
  exact ⟨hanswer.eq, hafter⟩

include h in
/-- So it is with all that a caller asks for. -/
theorem drive (hst : c.Together s t) (caller : Caller) (n : Nat) :
    (caller.drive s n).1 = (caller.drive t n).1 ∧
      c.Together (caller.drive s n).2 (caller.drive t n).2 := by
  induction n with
  | zero => exact ⟨rfl, hst⟩
  | succ n ih =>
    obtain ⟨hanswers, hafter⟩ := ih
    obtain ⟨hanswer, hend⟩ := h.perform hafter (caller (caller.drive s n).1)
    rw [hanswers] at hanswer hend
    simp only [Caller.drive, hanswers, hanswer]
    exact ⟨trivial, hend⟩

include h in
/-- It asks for the same actions, too. -/
theorem asked_eq (hst : c.Together s t) (caller : Caller) (n : Nat) :
    caller.asked s n = caller.asked t n := by
  induction n with
  | zero => rfl
  | succ n ih =>
    obtain ⟨hanswers, -⟩ := h.drive hst caller n
    simp only [Caller.asked, ih, hanswers]

end Exact
end Coupling
end OnePass
