/-
  OnePass/Proofs/Literals.lean
  ============================
  **The data segment** — every text is stored under a label of its own.

  The data segment grows by one entry for each string literal that is answered,
  and by nothing else.  Labels are numbered from the supply all generated names
  share, so they differ, whatever was drawn, bound or left in between.
-/
import OnePass.Proofs.Endings

namespace OnePass

open Asm Step Session

namespace Action

/-! ### What was done -/

/-- An action and the answer to it. -/
abbrev Entry := Action × Except Fault Reply

/-- The actions of a run with the answers to them. -/
def transcript (actions : List Action) (s : Journaled Session) : List Entry :=
  actions.zip (run actions s).1

theorem transcript_cons (action : Action) (rest : List Action) (s : Journaled Session) :
    transcript (action :: rest) s =
      (action, (action.perform s).1) :: transcript rest (action.perform s).2 :=
  rfl

theorem transcript_append (first second : List Action) (s : Journaled Session) :
    transcript (first ++ second) s = transcript first s ++ transcript second (run first s).2 := by
  induction first generalizing s with
  | nil => rfl
  | cons action rest ih =>
    rw [List.cons_append, transcript_cons, transcript_cons, ih]
    rfl

theorem transcript_take (actions : List Action) (s : Journaled Session) (i : Nat) :
    transcript (actions.take i) s = (transcript actions s).take i := by
  induction actions generalizing s i with
  | nil => rw [List.take_nil, transcript, List.zip_nil_left, List.take_nil]
  | cons action rest ih =>
    cases i with
    | zero => rfl
    | succ i => rw [List.take_succ_cons, transcript_cons, transcript_cons, List.take_succ_cons, ih]

/-! ### Entries -/

/-- The text an answered action adds to the data segment. -/
def Entry.stored : Entry → List StringEntry
  | (stringLiteral text, .ok (.record ⟨_, .label label⟩)) => [⟨label, text⟩]
  | _ => []

theorem Entry.stored_of_isQuiet {action : Action} (h : action.isQuiet = true)
    (answer : Except Fault Reply) : Entry.stored (action, answer) = [] := by
  cases action <;> first | rfl | cases h

theorem Entry.stored_error (action : Action) (cause : Fault) :
    Entry.stored (action, .error cause) = [] := by
  cases action <;> rfl

theorem Ends.strings_eq {action : Action} {s t : Session} {answer : Except Fault Reply}
    (h : action.Ends s answer t) :
    t.listing.strings.toList = s.listing.strings.toList ++ Entry.stored (action, answer) := by
  cases h with
  | quiet hquiet _ hfalls =>
    rw [Entry.stored_of_isQuiet hquiet, List.append_nil, hfalls.strings_eq]
  | labelled => exact Array.toList_push
  | unlabelled => exact (List.append_nil _).symm
  | declared => simp [withVariable, Entry.stored]
  | homeless => simp [Entry.stored]
  | _ => exact (List.append_nil _).symm

/-- One literal that is answered is one entry more. -/
theorem strings_perform (action : Action) (s : Journaled Session) :
    (action.perform s).2.state.listing.strings.toList =
      s.state.listing.strings.toList ++ Entry.stored (action, (action.perform s).1) := by
  by_cases hlive : s.state.firstFault = none
  · obtain ⟨t, hends, hkeeps⟩ := action.ends hlive
    rw [hkeeps, listing_keeping, hends.strings_eq]
  · rw [perform_of_aborted hlive, Entry.stored_error, List.append_nil]

theorem strings_run (actions : List Action) (s : Journaled Session) :
    (run actions s).2.state.listing.strings.toList =
      s.state.listing.strings.toList ++ (transcript actions s).flatMap Entry.stored := by
  induction actions generalizing s with
  | nil => exact (List.append_nil _).symm
  | cons action rest ih =>
    rw [transcript_cons, List.flatMap_cons, ← List.append_assoc, ← strings_perform]
    exact ih (action.perform s).2

end Action

/-! ### Labels of entries -/

/-- The entries of the data segment have labels of their own, drawn before now. -/
structure Session.Labelled (s : Session) : Prop where
  nodup : (s.listing.strings.toList.map StringEntry.label).Nodup
  drawn : ∀ entry ∈ s.listing.strings.toList,
    ∃ k < s.environment.drawn, entry.label = generatedName .stringLabel k

namespace Session.Labelled

variable {s t : Session}

theorem mono (h : Labelled s) (hstrings : t.listing.strings = s.listing.strings)
    (hdrawn : s.environment.drawn ≤ t.environment.drawn) : Labelled t := by
  constructor
  · rw [hstrings]
    exact h.nodup
  · intro entry hentry
    rw [hstrings] at hentry
    obtain ⟨k, hk, heq⟩ := h.drawn entry hentry
    exact ⟨k, Nat.lt_of_lt_of_le hk hdrawn, heq⟩

/-- A label that is drawn now differs from those drawn before. -/
theorem push (h : Labelled s) {text : String}
    (hstrings : t.listing.strings =
      s.listing.strings.push ⟨generatedName .stringLabel s.environment.drawn, text⟩)
    (hdrawn : t.environment.drawn = s.environment.drawn + 1) : Labelled t := by
  constructor
  · rw [hstrings, Array.toList_push, List.map_append, List.nodup_append]
    refine ⟨h.nodup, List.pairwise_singleton _ _, ?_⟩
    intro label hlabel other hother heq
    obtain ⟨entry, hentry, rfl⟩ := List.mem_map.mp hlabel
    obtain ⟨k, hk, hname⟩ := h.drawn entry hentry
    rw [List.map_singleton, List.mem_singleton] at hother
    rw [hname, hother] at heq
    have hnumber := generatedName_number heq
    omega
  · intro entry hentry
    rw [hstrings, Array.toList_push, List.mem_append, List.mem_singleton] at hentry
    rw [hdrawn]
    rcases hentry with hold | rfl
    · obtain ⟨k, hk, heq⟩ := h.drawn entry hold
      exact ⟨k, by omega, heq⟩
    · exact ⟨s.environment.drawn, Nat.lt_succ_self _, rfl⟩

theorem of_ends {action : Action} {answer : Except Fault Reply} (h : Labelled s)
    (hends : action.Ends s answer t) : Labelled t := by
  cases hends with
  | quiet _ _ hfalls => exact h.mono hfalls.strings_eq hfalls.drawn_le
  | labelled => exact h.push rfl rfl
  | unlabelled => exact h.mono rfl (Nat.le_succ _)
  | declared => exact h.mono (strings_remarked _ _) (Nat.le_refl _)
  | homeless => exact h.mono (strings_remarked _ _) (Nat.le_refl _)
  | _ => exact h.mono rfl (Nat.le_refl _)

end Session.Labelled

theorem Reachable.labelled {s : Journaled Session} (hs : Reachable s) : Labelled s.state := by
  refine Reachable.induction (P := fun s => Labelled s.state) ?_ ?_ hs
  · exact fun options level => ⟨List.nodup_nil, nofun⟩
  · intro s action h
    by_cases hlive : s.state.firstFault = none
    · obtain ⟨t, hends, hkeeps⟩ := action.ends hlive
      rw [hkeeps]
      refine (h.of_ends hends).mono ?_ (Nat.le_of_eq ?_)
      · rw [listing_keeping]
      · rw [environment_keeping]
    · rw [Action.perform_of_aborted hlive]
      exact h

end OnePass
