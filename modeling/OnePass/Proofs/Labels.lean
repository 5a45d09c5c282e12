/-
  OnePass/Proofs/Labels.lean
  ==========================
  **Labels are drawn once.**

  A new label has a number no label had before.  If a caller places only labels
  it was answered, every label of the body has a number below the next one, so
  the labels a statement draws stand nowhere else.  `Drawn low high names` says
  that labels differ and were drawn within a stretch of numbers; stretches that
  follow each other are put together by `Drawn.append`.
-/
import OnePass.Proofs.Placing

namespace OnePass

open Asm Step Session

variable {lines : List Line} {name : String}

/-- A label that is placed once among some lines, and not before them, is
    placed once. -/
theorem placedOnce_append {before : List Line} (hnodup : (labels lines).Nodup)
    (hbefore : name ∉ labels before) : PlacedOnce (before ++ lines) name := by
  have hbehind : ∀ i : Nat, (before ++ lines)[i]? = some (.label name) →
      before.length ≤ i ∧ lines[i - before.length]? = some (.label name) := by
    intro i hi
    by_cases hlt : i < before.length
    · rw [List.getElem?_append_left hlt] at hi
      exact absurd (mem_labels.mpr (List.mem_of_getElem? hi)) hbefore
    · rw [List.getElem?_append_right (by omega)] at hi
      exact ⟨by omega, hi⟩
  have hapart : ∀ i j : Nat, i < j → lines[i]? = some (.label name) →
      lines[j]? ≠ some (.label name) := by
    intro i j hij hi hj
    obtain ⟨hilt, hi⟩ := List.getElem?_eq_some_iff.mp hi
    obtain ⟨hjlt, hj⟩ := List.getElem?_eq_some_iff.mp hj
    have hpairs := List.pairwise_iff_getElem.mp (List.pairwise_filterMap.mp hnodup)
    exact hpairs i j hilt hjlt hij name (by rw [hi]; rfl) name (by rw [hj]; rfl) rfl
  intro i j hi hj
  obtain ⟨hile, hi⟩ := hbehind i hi
  obtain ⟨hjle, hj⟩ := hbehind j hj
  rcases Nat.lt_trichotomy (i - before.length) (j - before.length) with hlt | heq | hgt
  · exact absurd hj (hapart _ _ hlt hi)
  · omega
  · exact absurd hi (hapart _ _ hgt hj)

/-! ### Stretches of numbers -/

/-- The name is that of a branch label with a number below `high`. -/
def DrawnBelow (high : Nat) (name : String) : Prop :=
  ∃ k < high, name = generatedName .branchLabel k

theorem DrawnBelow.mono {low high : Nat} (h : DrawnBelow low name) (hle : low ≤ high) :
    DrawnBelow high name := by
  obtain ⟨k, hk, rfl⟩ := h
  exact ⟨k, by omega, rfl⟩

/-- The next label differs from those drawn so far. -/
theorem not_drawnBelow_next (n : Nat) : ¬ DrawnBelow n (generatedName .branchLabel n) := by
  rintro ⟨k, hk, heq⟩
  have hnumber := generatedName_number heq
  omega

/-- The names differ, and are those of branch labels with numbers from `low` up
    to `high`. -/
structure Drawn (low high : Nat) (names : List String) : Prop where
  le : low ≤ high
  nodup : names.Nodup
  number : ∀ name ∈ names, ∃ k, low ≤ k ∧ k < high ∧ name = generatedName .branchLabel k

namespace Drawn

variable {low middle high : Nat} {names others : List String}

theorem nil (h : low ≤ high) : Drawn low high [] :=
  ⟨h, List.nodup_nil, List.forall_mem_nil _⟩

theorem single {k : Nat} (hlow : low ≤ k) (hhigh : k < high) :
    Drawn low high [generatedName .branchLabel k] where
  le := by omega
  nodup := List.pairwise_singleton _ _
  number := by
    intro name hname
    exact ⟨k, hlow, hhigh, List.mem_singleton.mp hname⟩

theorem not_drawnBelow (h : Drawn low high names) (hname : name ∈ names) :
    ¬ DrawnBelow low name := by
  rintro ⟨k, hk, rfl⟩
  obtain ⟨k', hlow, -, heq⟩ := h.number _ hname
  have hnumber := generatedName_number heq
  omega

theorem drawnBelow (h : Drawn low high names) (hname : name ∈ names) : DrawnBelow high name := by
  obtain ⟨k, -, hhigh, rfl⟩ := h.number name hname
  exact ⟨k, hhigh, rfl⟩

theorem append (h : Drawn low middle names) (h' : Drawn middle high others) :
    Drawn low high (names ++ others) where
  le := Nat.le_trans h.le h'.le
  nodup := by
    refine List.nodup_append.mpr ⟨h.nodup, h'.nodup, fun name hname other hother heq => ?_⟩
    subst heq
    exact h'.not_drawnBelow hother (h.drawnBelow hname)
  number := by
    have hle := h.le
    have hle' := h'.le
    intro name hname
    rcases List.mem_append.mp hname with hname | hname
    · obtain ⟨k, hlow, hhigh, heq⟩ := h.number name hname
      exact ⟨k, hlow, by omega, heq⟩
    · obtain ⟨k, hlow, hhigh, heq⟩ := h'.number name hname
      exact ⟨k, by omega, hhigh, heq⟩

theorem perm (h : Drawn low high names) (hperm : others.Perm names) : Drawn low high others where
  le := h.le
  nodup := hperm.nodup_iff.mpr h.nodup
  number := fun name hname => h.number name (hperm.mem_iff.mp hname)

/-- Labels drawn behind all those of a body stand once in it. -/
theorem labelsOnce {before : List Line} (h : Drawn low high (labels lines))
    (hbefore : ∀ name ∈ labels before, DrawnBelow low name) :
    LabelsOnce (before ++ lines) lines := by
  intro name hname
  refine placedOnce_append h.nodup fun hmem => ?_
  exact h.not_drawnBelow (mem_labels.mpr hname) (hbefore name hmem)

end Drawn

/-! ### Callers that place no labels of their own -/

/-- Some run leads to the session in which the caller was answered the labels
    known, and placed none but these. -/
inductive PlacesKnown : List String → Journaled Session → Prop
  | start (options : Options) (level : Option Severity) :
      PlacesKnown [] { state := Session.start options, journal := { level } }
  | perform {known : List String} {s : Journaled Session} (h : PlacesKnown known s)
      (action : Action) (hplaced : ∀ name ∈ action.placed, name ∈ known) :
      PlacesKnown (known ++ Action.answered (action.perform s).1) (action.perform s).2

/-- All labels of the body, and those known, were drawn. -/
structure AllDrawn (known : List String) (s : Session) : Prop where
  body : ∀ name ∈ labels s.body, DrawnBelow s.environment.drawn name
  known : ∀ name ∈ known, DrawnBelow s.environment.drawn name

/-- An action that places only labels its caller knows places only drawn ones. -/
theorem AllDrawn.perform {known : List String} {s : Journaled Session} (h : AllDrawn known s.state)
    (action : Action) (hplaced : ∀ name ∈ action.placed, name ∈ known) :
    AllDrawn (known ++ Action.answered (action.perform s).1) (action.perform s).2.state := by
  have hle := action.drawn_le_perform s
  have hanswered : ∀ name ∈ Action.answered (action.perform s).1,
      DrawnBelow (action.perform s).2.state.environment.drawn name := by
    intro name hname
    cases Action.hands_of_answered hname with
    | zero condition hlt => exact ⟨_, hlt, rfl⟩
    | forward pending hlt => exact ⟨_, hlt, rfl⟩
    | new hlt => exact ⟨_, hlt, rfl⟩
    | given => exact (h.known name (hplaced name List.mem_cons_self)).mono hle
  constructor
  · intro name hname
    rw [(action.adds s).labels_eq, List.mem_append] at hname
    rcases hname with hold | hnew
    · exact (h.body name hold).mono hle
    · rcases Action.Entry.placed_or_answered hnew with hgiven | hanswer
      · exact (h.known name (hplaced name hgiven)).mono hle
      · exact hanswered name hanswer
  · intro name hname
    rcases List.mem_append.mp hname with hold | hnew
    · exact (h.known name hold).mono hle
    · exact hanswered name hnew

theorem PlacesKnown.allDrawn {known : List String} {s : Journaled Session}
    (h : PlacesKnown known s) : AllDrawn known s.state := by
  induction h with
  | start options level => exact ⟨List.forall_mem_nil _, List.forall_mem_nil _⟩
  | perform _ action hplaced ih => exact ih.perform action hplaced

theorem PlacesKnown.reachable {known : List String} {s : Journaled Session}
    (h : PlacesKnown known s) : Reachable s := by
  induction h with
  | start options level => exact ⟨options, level, [], rfl⟩
  | perform _ action _ ih => exact ih.perform action

end OnePass
