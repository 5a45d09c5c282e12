/-
  OnePass/Step.lean
  =================
  **Steps** — computations on a state that may fail and keep a journal.

  A step that fails leaves the state it had reached and the events it had
  reported: what was done before a failure stays done.  `Step.within` runs a
  step of a part of a state on the whole state.
-/
import OnePass.Journal

namespace OnePass

/-- A state and the journal kept beside it. -/
structure Journaled (σ : Type) where
  state : σ
  journal : Journal := {}

/-- A computation on a state that may fail. -/
abbrev Step (σ α : Type) := EStateM Fault (Journaled σ) α

namespace Step

variable {σ τ α : Type}

def current : Step σ σ := fun s => .ok s.state s

def replace (state : σ) : Step σ Unit := fun s => .ok () { s with state := state }

def report (event : Event) : Step σ Unit :=
  fun s => .ok () { s with journal := s.journal.add event }

def fail (cause : Fault) : Step σ α := fun s => .error cause s

/-- A result that is known already, as a step. -/
def ofExcept : Except Fault α → Step σ α
  | .ok a => pure a
  | .error cause => fail cause

/-- Runs a step on a part of the state. -/
def within (part : τ → σ) (put : τ → σ → τ) (step : Step σ α) : Step τ α := fun s =>
  match step ⟨part s.state, s.journal⟩ with
  | .ok a t => .ok a ⟨put s.state t.state, t.journal⟩
  | .error cause t => .error cause ⟨put s.state t.state, t.journal⟩

/-- The answer of a step, and what it leaves. -/
def perform (step : Step σ α) (s : Journaled σ) : Except Fault α × Journaled σ :=
  match step s with
  | .ok a t => (.ok a, t)
  | .error cause t => (.error cause, t)

/-! ### What each step does -/

variable {β : Type}

@[simp] theorem pure_apply (a : α) (s : Journaled σ) : (pure a : Step σ α) s = .ok a s := rfl

@[simp] theorem current_apply (s : Journaled σ) : (current : Step σ σ) s = .ok s.state s := rfl

@[simp] theorem replace_apply (state : σ) (s : Journaled σ) :
    replace state s = .ok () { s with state := state } := rfl

@[simp] theorem report_apply (event : Event) (s : Journaled σ) :
    report event s = .ok () { s with journal := s.journal.add event } := rfl

@[simp] theorem fail_apply (cause : Fault) (s : Journaled σ) :
    (fail cause : Step σ α) s = .error cause s := rfl

/-- A step behind another runs on what the first leaves; a failure of the first
    is the failure of both. -/
theorem bind_apply (step : Step σ α) (next : α → Step σ β) (s : Journaled σ) :
    (step >>= next) s =
      match step s with
      | .ok a t => next a t
      | .error cause t => .error cause t := by
  simp only [bind, EStateM.bind]
  cases step s with
  | ok a t => rfl
  | error cause t => rfl

/-- If the first step succeeds, the second runs on what it leaves. -/
theorem bind_apply_of_ok {step : Step σ α} {next : α → Step σ β} {s t : Journaled σ} {a : α}
    (h : step s = .ok a t) : (step >>= next) s = next a t := by
  rw [bind_apply, h]

/-- If the first step fails, so do both. -/
theorem bind_apply_of_error {step : Step σ α} {next : α → Step σ β} {s t : Journaled σ}
    {cause : Fault} (h : step s = .error cause t) : (step >>= next) s = .error cause t := by
  rw [bind_apply, h]

theorem within_apply_of_ok {part : τ → σ} {put : τ → σ → τ} {step : Step σ α}
    {s : Journaled τ} {t : Journaled σ} {a : α} (h : step ⟨part s.state, s.journal⟩ = .ok a t) :
    within part put step s = .ok a ⟨put s.state t.state, t.journal⟩ := by
  unfold within
  rw [h]

theorem within_apply_of_error {part : τ → σ} {put : τ → σ → τ} {step : Step σ α}
    {s : Journaled τ} {t : Journaled σ} {cause : Fault}
    (h : step ⟨part s.state, s.journal⟩ = .error cause t) :
    within part put step s = .error cause ⟨put s.state t.state, t.journal⟩ := by
  unfold within
  rw [h]

end Step

end OnePass
