/-
  OnePass/Proofs/Annotations.lean
  ===============================
  **Annotations** — they add remarks to the body and change nothing else.

  A session that writes annotations and one that does not are two runs in
  lockstep: the environments are the same, and the body of the second is that
  of the first without the remarks.  What is asked for next may depend on the
  answers so far, since records and labels come from answers; as the answers
  are the same, so is what is asked for.
-/
import OnePass.Proofs.Callers

namespace OnePass

open Asm Step Session

/-! ### The coupling -/

/-- The second session writes annotations and the first does not. -/
structure Listing.Annotated (plain annotated : Listing) : Prop where
  plain_eq : plain.annotated = false
  annotated_eq : annotated.annotated = true
  strings_eq : annotated.strings = plain.strings
  body_eq : plain.body.toList = annotated.body.toList.filter Line.isCode

def annotator : Coupling where
  strict := True
  causes := Eq
  environments := Eq
  listings := Listing.Annotated

namespace annotator

theorem transparent : annotator.Transparent where
  wrote := by
    intro l m lines hcode h
    refine ⟨h.plain_eq, h.annotated_eq, h.strings_eq, ?_⟩
    simp only [Array.toList_append, List.filter_append, h.body_eq, List.filter_eq_self.mpr hcode]
  remarked := by
    intro s t text h
    rw [remarked_of_plain h.plain_eq, remarked_of_annotated h.annotated_eq]
    refine ⟨h.plain_eq, h.annotated_eq, h.strings_eq, ?_⟩
    simp [wrote, h.body_eq, Line.isCode]
  stored := by
    intro l m entry h
    exact ⟨h.plain_eq, h.annotated_eq, congrArg (·.push entry) h.strings_eq, h.body_eq⟩
  drawn_eq h := congrArg Environment.drawn h.symm
  size_eq h := congrArg (·.symbols.size) h.symm
  active_ne h hactive := h ▸ hactive
  active_eq h _ hactive := h ▸ hactive
  drew h := congrArg Environment.drew h
  bound := by
    rintro e _ symbol kind number - - - rfl
    rfl
  anonymous _ := rfl
  homeless _ _ := rfl
  cause _ := rfl
  twins name := by
    refine ⟨rfl, ?_⟩
    rintro e _ rfl
    rfl
  declarators declarator := by
    constructor
    · rfl
    · exact fun _ => rfl
    · rfl
    · rintro e _ rfl hfresh
      exact hfresh
    · rintro - e _ rfl
      rfl
    · rintro type offset e _ - rfl
      rfl

theorem exact : annotator.Exact := by
  apply transparent.exact trivial rfl
  · rintro e _ rfl
    rfl
  · rintro e _ rfl
    rfl

theorem together_start (options : Options) (level level' : Option Severity) :
    annotator.Together
      { state := Session.start { options with annotate := false }, journal := { level } }
      { state := Session.start { options with annotate := true },
        journal := { level := level' } } :=
  ⟨⟨rfl, ⟨rfl, rfl, rfl, rfl⟩, rfl, rfl⟩, .none⟩

/-- Without annotations no remark is written. -/
theorem isCode_of_plain {options : Options} (hplain : options.annotate = false)
    (level : Option Severity) (actions : List Action) :
    ∀ line ∈ (Action.run actions
        { state := Session.start options, journal := { level } }).2.state.body,
      line.isCode = true := by
  have hoptions : { options with annotate := false } = options := by
    rw [← hplain]
  have hstart := together_start options level level
  rw [hoptions] at hstart
  obtain ⟨-, hcouples, -⟩ := exact.drive hstart (Caller.asking actions) actions.length
  rw [Caller.drive_asking actions _ (Nat.le_refl _), List.take_length] at hcouples
  intro line hline
  rw [body, hcouples.listing.body_eq] at hline
  exact (List.mem_filter.mp hline).2

end annotator

/-- **Annotations change nothing but remarks.**  Whatever a caller makes of the
    answers, with annotations and without them it gets the same ones, and after
    each of them the sessions have the same environment, frame, registers,
    strings and fault.  Without its remarks, each of them behind a comment sign,
    the annotated body is the plain one. -/
theorem annotations_add_remarks (caller : Caller) (options : Options)
    (level level' : Option Severity) (n : Nat) :
    let plain := caller.drive
      { state := Session.start { options with annotate := false }, journal := { level } } n
    let annotated := caller.drive
      { state := Session.start { options with annotate := true },
        journal := { level := level' } } n
    annotated.1 = plain.1 ∧
      annotated.2.state.environment = plain.2.state.environment ∧
      annotated.2.state.frame = plain.2.state.frame ∧
      annotated.2.state.pool = plain.2.state.pool ∧
      annotated.2.state.listing.strings = plain.2.state.listing.strings ∧
      annotated.2.state.firstFault = plain.2.state.firstFault ∧
      annotated.2.state.body.filter Line.isCode = plain.2.state.body ∧
      ∀ line ∈ annotated.2.state.body, line.isCode = false →
        ∃ text, line = .remark text ∧ line.text = "# " ++ text := by
  intro plain annotated
  have hstart := annotator.together_start options level level'
  obtain ⟨hanswers, htogether⟩ := annotator.exact.drive hstart caller n
  have hfault : plain.2.state.firstFault = annotated.2.state.firstFault :=
    annotator.exact.faults_eq htogether
  have hcouples := htogether.couples
  obtain ⟨-, -, hstrings, hbody⟩ := hcouples.listing
  refine ⟨hanswers.symm, hcouples.environment.symm, hcouples.frame_eq, hcouples.pool_eq, hstrings,
    hfault.symm, hbody.symm, ?_⟩
  intro line _ hremark
  cases line with
  | remark text => exact ⟨text, rfl, rfl⟩
  | _ => cases hremark

end OnePass
