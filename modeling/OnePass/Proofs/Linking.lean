/-
  OnePass/Proofs/Linking.lean
  ===========================
  **Linking** — every branch has one destination.

  Callers give labels back that they were answered: some to branch to them, some
  to have them placed.  A caller who places each forward label once, and none
  that is placed already, gets a program whose labels differ and whose branches
  lead to them, apart from labels that have yet to be placed.  `Linked` says so
  of a transcript, and is kept by one action more.
-/
import OnePass.Proofs.Labels
import Mathlib.Data.List.Induction

namespace OnePass

open Asm Step Session

namespace Action

variable {action : Action} {s : Journaled Session} {name : String}

/-! ### What is placed and what is branched to -/

theorem Entry.answered_of_promised {entry : Entry} (h : name ∈ entry.promised) :
    name ∈ entry.answered := by
  rcases entry with ⟨action, answer⟩
  cases action <;> first | exact h | cases h

theorem Entry.placed_of_settled {entry : Entry} (h : name ∈ entry.settled) :
    name ∈ entry.1.placed := by
  rcases entry with ⟨action, answer⟩
  cases answer with
  | error cause => cases h
  | ok reply => exact h

theorem Entry.nodup_labels (entry : Entry) : entry.labels.Nodup := by
  rcases entry with ⟨action, answer⟩
  cases answer with
  | error cause =>
    rw [(labels_error action cause).1]
    exact List.nodup_nil
  | ok reply =>
    cases action with
    | defineLabel given => cases reply <;> simp [labels, Action.answered]
    | _ => simp [labels, settled, placed]

theorem Entry.labels_of_defined {entry : Entry} (h : name ∈ entry.defined) :
    name ∈ entry.labels := by
  rcases entry with ⟨action, answer⟩
  cases action <;> first | exact h | cases h

/-- A branch goes to a label that is new, or given. -/
theorem Entry.answered_or_given {entry : Entry} (h : name ∈ entry.targets) :
    name ∈ entry.answered ∨ name ∈ entry.1.given := by
  rcases entry with ⟨action, answer⟩
  cases action with
  | branchAndLabel target label =>
    cases answer with
    | error cause => cases h
    | ok reply =>
      rw [List.mem_singleton.mp h]
      exact Or.inr List.mem_cons_self
  | _ => exact Or.inl (answered_of_promised h)

/-- A label that is promised is new. -/
theorem eq_of_promised (h : name ∈ Entry.promised (action, (action.perform s).1)) :
    name = generatedName .branchLabel s.state.environment.drawn ∧ action ≠ .defineLabel none := by
  have hhands := hands_of_answered (Entry.answered_of_promised h)
  cases hhands with
  | zero => exact ⟨rfl, nofun⟩
  | forward => exact ⟨rfl, nofun⟩
  | new => cases h
  | given => cases h

theorem promised_or_defined (h : name ∈ Entry.answered (action, (action.perform s).1)) :
    name ∈ Entry.promised (action, (action.perform s).1) ∨
      name ∈ Entry.defined (action, (action.perform s).1) := by
  cases hands_of_answered h with
  | zero => exact Or.inl h
  | forward => exact Or.inl h
  | new => exact Or.inr h
  | given => exact Or.inr h

/-- A label is placed because it was given, or it is new. -/
theorem settled_or_new (h : name ∈ Entry.labels (action, (action.perform s).1)) :
    name ∈ Entry.settled (action, (action.perform s).1) ∨
      action = .defineLabel none ∧
        name = generatedName .branchLabel s.state.environment.drawn := by
  cases action with
  | defineLabel given =>
    have hhands := hands_of_answered h
    have hanswer := mem_answered.mp h
    cases hhands with
    | new => exact Or.inr ⟨rfl, rfl⟩
    | given =>
      rw [hanswer]
      exact Or.inl List.mem_cons_self
  | _ => exact Or.inl h

theorem labels_of_settled (h : name ∈ Entry.settled (action, (action.perform s).1)) :
    name ∈ Entry.labels (action, (action.perform s).1) := by
  cases action with
  | defineLabel given =>
    cases hanswer : ((defineLabel given).perform s).1 with
    | error cause =>
      rw [hanswer] at h
      cases h
    | ok reply =>
      rw [hanswer] at h
      cases given with
      | none => cases h
      | some given =>
        obtain ⟨-, hyields, -⟩ := changes_of_answer hanswer
        have hrule : Yields (rule (defineLabel (some given))) s.state (.label _) _ :=
          (yields_defineLabel given s.state).bind (yields_pure _ _)
        cases (hyields.unique hrule).1
        exact h
  | _ => exact h

/-! ### Callers that place each label once -/

/-- The caller gives only labels it was answered, places a label of a forward
    branch once at most, and places none that a definition answered. -/
structure Disciplined (actions : List Action) (s : Journaled Session) : Prop where
  known : ∀ i : Fin actions.length, ∀ name ∈ actions[i].given,
    name ∈ (transcript (actions.take i) s).flatMap Entry.answered
  once : ∀ name ∈ (transcript actions s).flatMap Entry.promised,
    (actions.flatMap placed).count name ≤ 1
  undefined : ∀ i : Fin actions.length, ∀ name ∈ actions[i].placed,
    name ∉ (transcript (actions.take i) s).flatMap Entry.defined

theorem Disciplined.of_append {before : List Action} (h : Disciplined (before ++ [action]) s) :
    Disciplined before s where
  known i := by
    have hle : i.val ≤ before.length := Nat.le_of_lt i.isLt
    have hknown := h.known ⟨i, by rw [List.length_append]; omega⟩
    simpa [List.getElem_append_left, List.take_append_of_le_length hle] using hknown
  once name hname := by
    have hcount := h.once name (by
      rw [transcript_append, List.flatMap_append]
      exact List.mem_append_left _ hname)
    rw [List.flatMap_append, List.count_append] at hcount
    omega
  undefined i := by
    have hle : i.val ≤ before.length := Nat.le_of_lt i.isLt
    have hundefined := h.undefined ⟨i, by rw [List.length_append]; omega⟩
    simpa [List.getElem_append_left, List.take_append_of_le_length hle] using hundefined

theorem Disciplined.known_last {before : List Action} (h : Disciplined (before ++ [action]) s) :
    ∀ name ∈ action.given, name ∈ (transcript before s).flatMap Entry.answered := by
  simpa using h.known ⟨before.length, by simp⟩

theorem Disciplined.undefined_last {before : List Action}
    (h : Disciplined (before ++ [action]) s) :
    ∀ name ∈ action.placed, name ∉ (transcript before s).flatMap Entry.defined := by
  simpa using h.undefined ⟨before.length, by simp⟩

/-- The labels a disciplined caller has placed are known to it. -/
theorem Disciplined.placesKnown {options : Options} {level : Option Severity}
    {actions : List Action}
    (h : Disciplined actions { state := Session.start options, journal := { level } }) :
    PlacesKnown
      ((transcript actions { state := Session.start options, journal := { level } }).flatMap
        Entry.answered)
      (run actions { state := Session.start options, journal := { level } }).2 := by
  induction actions using List.reverseRecOn with
  | nil => exact .start options level
  | append_singleton before action ih =>
    have hbefore := ih h.of_append
    have hplaced := fun name hname =>
      h.known_last name (mem_given_of_placed hname)
    have hnext := hbefore.perform action hplaced
    rw [transcript_append, List.flatMap_append, run_append]
    simpa [transcript, run, Entry.answered] using hnext

/-- What becomes of the labels of a disciplined caller. -/
structure Linked (entries : List Entry) : Prop where
  nodup : (entries.flatMap Entry.labels).Nodup
  settled : ∀ name ∈ entries.flatMap Entry.promised, name ∈ entries.flatMap Entry.labels →
    name ∈ entries.flatMap Entry.settled
  known : ∀ name ∈ entries.flatMap Entry.answered,
    name ∈ entries.flatMap Entry.promised ∨ name ∈ entries.flatMap Entry.defined
  targets : ∀ name ∈ entries.flatMap Entry.targets, name ∈ entries.flatMap Entry.answered

theorem Linked.nil : Linked [] :=
  ⟨List.nodup_nil, nofun, nofun, nofun⟩

section Snoc

variable {entries : List Entry} (h : Linked entries)
  (hdrawn : AllDrawn (entries.flatMap Entry.answered) s.state)
  (hbody : labels s.state.body = entries.flatMap Entry.labels)
  (hgiven : ∀ name ∈ action.given, name ∈ entries.flatMap Entry.answered)
  (hplaced : ∀ name ∈ action.placed, name ∈ entries.flatMap Entry.promised ∧
    name ∉ entries.flatMap Entry.settled)

include h hdrawn hbody hplaced in
/-- What an action places is not in the body yet. -/
theorem Linked.not_mem_labels (hname : name ∈ Entry.labels (action, (action.perform s).1)) :
    name ∉ entries.flatMap Entry.labels := by
  intro hmem
  rcases settled_or_new hname with hsettled | ⟨-, rfl⟩
  · obtain ⟨hpromised, hopen⟩ := hplaced name (Entry.placed_of_settled hsettled)
    exact hopen (h.settled name hpromised hmem)
  · rw [← hbody] at hmem
    exact not_drawnBelow_next _ (hdrawn.body _ hmem)

include h hdrawn hbody hgiven hplaced in
/-- One action more of a disciplined caller. -/
theorem Linked.snoc : Linked (entries ++ [(action, (action.perform s).1)]) := by
  have hknown : ∀ name ∈ entries.flatMap Entry.promised, name ∈ entries.flatMap Entry.answered := by
    intro name hname
    obtain ⟨entry, hentry, hname⟩ := List.mem_flatMap.mp hname
    exact List.mem_flatMap.mpr ⟨entry, hentry, Entry.answered_of_promised hname⟩
  have hnew : generatedName .branchLabel s.state.environment.drawn ∉
      entries.flatMap Entry.answered :=
    fun hmem => not_drawnBelow_next _ (hdrawn.known _ hmem)
  constructor
  · rw [List.flatMap_append, List.flatMap_singleton, List.nodup_append]
    refine ⟨h.nodup, Entry.nodup_labels _, fun name hname other hother heq => ?_⟩
    subst heq
    exact h.not_mem_labels hdrawn hbody hplaced hother hname
  · intro name hpromised hlabel
    rw [List.flatMap_append, List.flatMap_singleton, List.mem_append] at hpromised hlabel ⊢
    rcases hlabel with hlabel | hlabel
    · rcases hpromised with hpromised | hpromised
      · exact Or.inl (h.settled name hpromised hlabel)
      · -- a label that is promised now is not in the body
        rw [(eq_of_promised hpromised).1, ← hbody] at hlabel
        exact absurd (hdrawn.body _ hlabel) (not_drawnBelow_next _)
    · rcases settled_or_new hlabel with hsettled | ⟨haction, rfl⟩
      · exact Or.inr hsettled
      · rcases hpromised with hpromised | hpromised
        · exact absurd (hknown _ hpromised) hnew
        · exact absurd haction (eq_of_promised hpromised).2
  · intro name hname
    rw [List.flatMap_append, List.flatMap_singleton, List.mem_append] at hname
    simp only [List.flatMap_append, List.flatMap_singleton, List.mem_append]
    rcases hname with hname | hname
    · exact (h.known name hname).imp Or.inl Or.inl
    · exact (promised_or_defined hname).imp Or.inr Or.inr
  · intro name hname
    rw [List.flatMap_append, List.flatMap_singleton, List.mem_append] at hname ⊢
    rcases hname with hname | hname
    · exact Or.inl (h.targets name hname)
    · exact (Entry.answered_or_given hname).symm.imp (hgiven name) id

end Snoc

theorem placed_of_settled_transcript {actions : List Action}
    (h : name ∈ (transcript actions s).flatMap Entry.settled) : name ∈ actions.flatMap placed := by
  obtain ⟨entry, hentry, hname⟩ := List.mem_flatMap.mp h
  exact List.mem_flatMap.mpr
    ⟨entry.1, (List.of_mem_zip hentry).1, Entry.placed_of_settled hname⟩

theorem Disciplined.linked {options : Options} {level : Option Severity} {actions : List Action}
    (h : Disciplined actions { state := Session.start options, journal := { level } }) :
    Linked (transcript actions { state := Session.start options, journal := { level } }) := by
  induction actions using List.reverseRecOn with
  | nil => exact Linked.nil
  | append_singleton before action ih =>
    have hbefore := ih h.of_append
    have hdrawn := h.of_append.placesKnown.allDrawn
    have hbody := (adds_run before { state := Session.start options, journal := { level } }).1
    have hgiven := h.known_last
    rw [transcript_append]
    refine hbefore.snoc hdrawn hbody hgiven fun name hname => ?_
    have hpromised := (hbefore.known name (hgiven name (mem_given_of_placed hname))).resolve_right
      (h.undefined_last name hname)
    refine ⟨hpromised, fun hsettled => ?_⟩
    -- the label would be given to be placed a second time
    have honce := h.once name (by
      rw [transcript_append, List.flatMap_append]
      exact List.mem_append_left _ hpromised)
    rw [List.flatMap_append, List.flatMap_singleton, List.count_append] at honce
    have hfirst := List.count_pos_iff.mpr (placed_of_settled_transcript hsettled)
    have hsecond := List.count_pos_iff.mpr hname
    omega

/-- The labels that were promised and are still to be placed. -/
def waiting (entries : List Entry) : List String :=
  (entries.flatMap Entry.promised).filter fun name => name ∉ entries.flatMap Entry.settled

theorem Linked.mem_labels_or_waiting {entries : List Entry} (h : Linked entries)
    (hsettled : ∀ name ∈ entries.flatMap Entry.settled, name ∈ entries.flatMap Entry.labels)
    (hname : name ∈ entries.flatMap Entry.targets) :
    (name ∈ entries.flatMap Entry.labels ∧ name ∉ waiting entries) ∨
      (name ∉ entries.flatMap Entry.labels ∧ name ∈ waiting entries) := by
  have hwaiting : name ∈ waiting entries ↔
      name ∈ entries.flatMap Entry.promised ∧ name ∉ entries.flatMap Entry.settled := by
    simp [waiting]
  rw [hwaiting]
  by_cases hlabel : name ∈ entries.flatMap Entry.labels
  · exact Or.inl ⟨hlabel, fun ⟨hpromised, hopen⟩ => hopen (h.settled name hpromised hlabel)⟩
  · rcases h.known name (h.targets name hname) with hpromised | hdefined
    · exact Or.inr ⟨hlabel, hpromised, fun hmem => hlabel (hsettled name hmem)⟩
    · obtain ⟨entry, hentry, hdefined⟩ := List.mem_flatMap.mp hdefined
      exact absurd (List.mem_flatMap.mpr ⟨entry, hentry, Entry.labels_of_defined hdefined⟩) hlabel

theorem labels_of_settled_transcript {actions : List Action}
    (h : name ∈ (transcript actions s).flatMap Entry.settled) :
    name ∈ (transcript actions s).flatMap Entry.labels := by
  induction actions generalizing s with
  | nil => cases h
  | cons action rest ih =>
    rw [transcript_cons, List.flatMap_cons, List.mem_append] at h ⊢
    exact h.imp labels_of_settled ih

end Action

/-- No branch label has a name that the opening or the ending takes. -/
theorem branchLabel_not_reserved (number : Nat) :
    generatedName .branchLabel number ∉ ["main", "ProgStart", "ProgEnd"] := by
  intro hmem
  have hhead : (generatedName .branchLabel number).toList.head? = some 'l' := by
    simp [generatedName, NameKind.stem]
  have hreserved : ∀ name ∈ ["main", "ProgStart", "ProgEnd"], name.toList.head? ≠ some 'l' := by
    decide
  exact hreserved _ hmem hhead

/-- **The program is well linked.**  A disciplined caller gets a body in which no
    label stands twice, and none has the name of a label of the opening, the
    ending or the data segment.  What a branch goes to stands in the body just
    once, or is still to be placed; so when nothing is, every branch has one
    destination. -/
theorem run_well_linked {options : Options} {level : Option Severity} {actions : List Action}
    (h : Action.Disciplined actions { state := Session.start options, journal := { level } }) :
    let start : Journaled Session := { state := Session.start options, journal := { level } }
    let s := (Action.run actions start).2.state
    let waiting := Action.waiting (Action.transcript actions start)
    (labels s.body).Nodup ∧
    (∀ name ∈ labels s.body, name ∉ ["main", "ProgStart", "ProgEnd"] ∧
      ∀ entry ∈ s.listing.strings.toList, entry.label ≠ name) ∧
    (∀ name ∈ targets s.body, ((labels s.body).count name = 1 ∧ name ∉ waiting) ∨
      ((labels s.body).count name = 0 ∧ name ∈ waiting)) ∧
    (waiting = [] → ∀ name ∈ targets s.body,
      ∃! place : Nat, s.body[place]? = some (.label name)) := by
  intro start s waiting
  have hlinked : Action.Linked (Action.transcript actions start) := h.linked
  have hlabels : labels s.body = (Action.transcript actions start).flatMap Action.Entry.labels :=
    (Action.adds_run actions start).1
  have htargets : targets s.body = (Action.transcript actions start).flatMap Action.Entry.targets :=
    (Action.adds_run actions start).2
  have hnodup : (labels s.body).Nodup := by
    rw [hlabels]
    exact hlinked.nodup
  have hends : ∀ name ∈ targets s.body, ((labels s.body).count name = 1 ∧ name ∉ waiting) ∨
      ((labels s.body).count name = 0 ∧ name ∈ waiting) := by
    intro name hname
    rw [htargets] at hname
    rw [hlabels]
    rcases hlinked.mem_labels_or_waiting (fun _ => Action.labels_of_settled_transcript) hname with
      ⟨hlabel, hplaced⟩ | ⟨hlabel, hwaiting⟩
    · refine Or.inl ⟨?_, hplaced⟩
      rw [hlinked.nodup.count, if_pos hlabel]
    · exact Or.inr ⟨List.count_eq_zero.mpr hlabel, hwaiting⟩
  refine ⟨hnodup, ?_, hends, ?_⟩
  · intro name hname
    obtain ⟨number, -, rfl⟩ := h.placesKnown.allDrawn.body name hname
    constructor
    · exact branchLabel_not_reserved number
    · intro entry hentry heq
      obtain ⟨k, -, hlabel⟩ := h.placesKnown.reachable.labelled.drawn entry hentry
      cases generatedName_kind (hlabel.symm.trans heq)
  · intro hnone name hname
    rcases hends name hname with ⟨hcount, -⟩ | ⟨-, hwaiting⟩
    · have hmem : name ∈ labels s.body := List.count_pos_iff.mp (by omega)
      obtain ⟨place, hplace⟩ := List.mem_iff_getElem?.mp (mem_labels.mp hmem)
      have honce : PlacedOnce ([] ++ s.body) name := placedOnce_append hnodup List.not_mem_nil
      exact ⟨place, hplace, fun other hother => honce other place hother hplace⟩
    · rw [hnone] at hwaiting
      cases hwaiting

-- A loop in one branch of a choice.
theorem run_well_linked_of_choice :
    let x : Record := ⟨.int, .stack 0⟩
    let actions := [.enterScope, .declare "int" "x", .branchIfZero x, .defineLabel none,
      .branchIfZero x, .read x, .branchAndLabel "label1" "label2", .branchThenLabel "label0",
      .newline, .defineLabel (some "label3")]
    let start : Journaled Session := { state := Session.start {} }
    let s := (Action.run actions start).2.state
    labels s.body = ["label1", "label2", "label0", "label3"] ∧
    targets s.body = ["label0", "label2", "label1", "label3"] ∧
    ∀ name ∈ targets s.body, ∃! place : Nat, s.body[place]? = some (.label name) := by
  intro x actions start s
  have hdisciplined : Action.Disciplined actions start := by
    unfold actions start
    exact ⟨by decide +kernel, by decide +kernel, by decide +kernel⟩
  have hnone : Action.waiting (Action.transcript actions start) = [] := by
    unfold actions start
    decide +kernel
  have hlabels : labels s.body = ["label1", "label2", "label0", "label3"] := by
    unfold s actions start
    decide +kernel
  have htargets : targets s.body = ["label0", "label2", "label1", "label3"] := by
    unfold s actions start
    decide +kernel
  clear_value actions
  obtain ⟨-, -, -, hlead⟩ := run_well_linked hdisciplined
  exact ⟨hlabels, htargets, hlead hnone⟩

end OnePass
