/-
  OnePass/Proofs/Texts.lean
  =========================
  **Texts that are written** — each is found in the data segment, once.

  A string literal is answered by a record that names the label of its text, and
  a write that is given the record loads that label.  Between the two the program
  may leave the scope of the literal, or declare a name of the same spelling; the
  record does not go by names, and the data segment only grows.
-/
import OnePass.Proofs.Failure
import OnePass.Proofs.Literals

namespace OnePass

open Asm Step Session

/-! ### Labels that are loaded -/

/-- The label whose address the line loads. -/
def Asm.Line.address? : Line → Option String
  | .instruction (.la _ name) => some name
  | _ => none

def addresses (lines : List Line) : List String := lines.filterMap Line.address?

theorem Asm.Line.address?_of_reference? {i : Instruction} (h : i.reference? = none) :
    (Line.instruction i).address? = none := by
  cases i <;> first | rfl | cases h

/-! ### Entries of the data segment -/

/-- The text of an entry of the data segment, and the answer that goes with it. -/
def StringEntry.literal (entry : StringEntry) : String × Reply :=
  (entry.text, .record ⟨.string, .label entry.label⟩)

/-- If labels differ, an entry is the only one with its label. -/
theorem StringEntry.filter_label {entries : List StringEntry}
    (hnodup : (entries.map StringEntry.label).Nodup) {entry : StringEntry}
    (hentry : entry ∈ entries) :
    entries.filter (fun other => other.label == entry.label) = [entry] := by
  induction entries with
  | nil => cases hentry
  | cons first rest ih =>
    rw [List.map_cons, List.nodup_cons] at hnodup
    obtain ⟨hfirst, hrest⟩ := hnodup
    rcases List.mem_cons.mp hentry with rfl | hmem
    · have hnone : rest.filter (fun other => other.label == entry.label) = [] := by
        apply List.filter_eq_nil_iff.mpr
        intro other hother heq
        exact hfirst (List.mem_map.mpr ⟨other, hother, eq_of_beq heq⟩)
      simp only [List.filter_cons, beq_self_eq_true, if_true, hnone]
    · have hne : (first.label == entry.label) = false := by
        apply beq_false_of_ne
        intro heq
        rw [heq] at hfirst
        exact hfirst (List.mem_map.mpr ⟨entry, hmem, rfl⟩)
      simp only [List.filter_cons, hne, ih hrest hmem]
      rfl

namespace Action

/-! ### Texts that are written -/

/-- The label of the text that is written, for a write of a text. -/
def texts : Action → List String
  | write ⟨_, .label label⟩ => [label]
  | _ => []

/-- The label an answered write has loaded. -/
def Entry.loaded : Entry → List String
  | (action, .ok _) => action.texts
  | (_, .error _) => []

theorem Entry.texts_of_loaded {action : Action} {answer : Except Fault Reply} {label : String}
    (h : label ∈ Entry.loaded (action, answer)) : label ∈ action.texts := by
  cases answer with
  | ok reply => exact h
  | error cause => cases h

theorem texts_eq_nil_or (action : Action) :
    action.texts = [] ∨ ∃ type label, action = .write ⟨type, .label label⟩ := by
  cases action with
  | write value =>
    obtain ⟨type, place⟩ := value
    cases place with
    | label label => exact Or.inr ⟨type, label, rfl⟩
    | _ => exact Or.inl rfl
  | _ => exact Or.inl rfl

theorem Writes.address?_eq_none {action : Action} {line : Line} (h : action.Writes line)
    (htexts : action.texts = []) : line.address? = none := by
  cases h with
  | plain h => exact Line.address?_of_reference? h
  | address => cases htexts
  | _ => rfl

theorem yields_write_label (type : ValueType) (label : String) (s : Session) :
    Yields (rule (write ⟨type, .label label⟩)) s .done
      (s.wrote [.instruction (.la .a0 label), .instruction (.select .printString),
        .instruction .syscall]) :=
  (yields_emitAll [.la .a0 label, .select .printString, .syscall] s).bind (yields_pure _ _)

/-- Only a write of a text loads an address. -/
theorem addresses_perform (action : Action) (s : Journaled Session) :
    addresses (action.perform s).2.state.body =
      addresses s.state.body ++ Entry.loaded (action, (action.perform s).1) := by
  by_cases hlive : s.state.firstFault = none
  · rcases action.texts_eq_nil_or with htexts | ⟨type, label, rfl⟩
    · obtain ⟨lines, hbody, hlines⟩ := action.body_perform s
      have hnone : addresses lines = [] := by
        apply List.filterMap_eq_nil_iff.mpr
        intro line hline
        exact (hlines line hline).address?_eq_none htexts
      have hloaded : Entry.loaded (action, (action.perform s).1) = [] := by
        cases (action.perform s).1 with
        | ok reply => exact htexts
        | error cause => rfl
      rw [hbody, hloaded, addresses, List.filterMap_append, ← addresses, ← addresses, hnone]
    · obtain ⟨journal, hok⟩ := perform_of_yields hlive (yields_write_label type label s.state)
      rw [hok]
      simp only [body_wrote, addresses, List.filterMap_append]
      rfl
  · rw [perform_of_aborted hlive, Entry.loaded, List.append_nil]

theorem addresses_run (actions : List Action) (s : Journaled Session) :
    addresses (run actions s).2.state.body =
      addresses s.state.body ++ (transcript actions s).flatMap Entry.loaded := by
  induction actions generalizing s with
  | nil => exact (List.append_nil _).symm
  | cons action rest ih =>
    rw [transcript_cons, List.flatMap_cons, ← List.append_assoc, ← addresses_perform]
    exact ih (action.perform s).2

/-! ### Literals and their records -/

/-- The text of a string literal and the answer to it, if it was answered. -/
def Entry.literal? : Entry → Option (String × Reply)
  | (stringLiteral text, .ok reply) => some (text, reply)
  | _ => none

theorem Entry.literal?_of_isQuiet {action : Action} (h : action.isQuiet = true)
    (answer : Except Fault Reply) : Entry.literal? (action, answer) = none := by
  cases action <;> first | rfl | cases h

/-- A literal is stored with the label that is answered. -/
theorem Ends.literal?_eq {action : Action} {s t : Session} {answer : Except Fault Reply}
    (h : action.Ends s answer t) :
    (Entry.literal? (action, answer)).toList =
      (Entry.stored (action, answer)).map StringEntry.literal := by
  cases h with
  | quiet hquiet => rw [Entry.literal?_of_isQuiet hquiet, Entry.stored_of_isQuiet hquiet]; rfl
  | _ => rfl

theorem literals_run (actions : List Action) (s : Journaled Session) :
    (transcript actions s).filterMap Entry.literal? =
      ((transcript actions s).flatMap Entry.stored).map StringEntry.literal := by
  induction actions generalizing s with
  | nil => rfl
  | cons action rest ih =>
    have hfirst : (Entry.literal? (action, (action.perform s).1)).toList =
        (Entry.stored (action, (action.perform s).1)).map StringEntry.literal := by
      by_cases hlive : s.state.firstFault = none
      · obtain ⟨t, hends, -⟩ := action.ends hlive
        exact hends.literal?_eq
      · rw [perform_of_aborted hlive, Entry.stored_error]
        cases action <;> rfl
    rw [transcript_cons, List.flatMap_cons, List.map_append, ← hfirst, ← ih,
      List.filterMap_cons]
    cases Entry.literal? (action, (action.perform s).1) <;> rfl

/-- Records of texts are answers to string literals. -/
theorem literal_of_answer {action : Action} {s : Journaled Session} {label : String}
    (h : (action.perform s).1 = .ok (.record ⟨.string, .label label⟩)) :
    ∃ text, action = .stringLiteral text := by
  obtain ⟨journal, hrule⟩ := rule_of_answer h
  have hno : ¬ Record.InFrame ⟨.string, .label label⟩ := by
    rintro ⟨hscalar, -⟩
    cases hscalar
  cases action with
  | stringLiteral text => exact ⟨text, rfl⟩
  | resolve spec =>
    obtain ⟨answer, u, hresolve, hrule⟩ := bind_eq_ok hrule
    cases hrule
    exact absurd (inFrame_of_resolve hresolve) hno
  | intLiteral value =>
    obtain ⟨answer, u, hliteral, hrule⟩ := bind_eq_ok hrule
    cases hrule
    exact absurd (inFrame_of_scalarLiteral rfl hliteral) hno
  | charLiteral value =>
    obtain ⟨answer, u, hliteral, hrule⟩ := bind_eq_ok hrule
    cases hrule
    exact absurd (inFrame_of_scalarLiteral rfl hliteral) hno
  | apply operator left right =>
    obtain ⟨answer, u, happly, hrule⟩ := bind_eq_ok hrule
    cases hrule
    exact absurd (inFrame_of_apply happly) hno
  | _ =>
    obtain ⟨answer, u, -, hrule⟩ := bind_eq_ok hrule
    cases hrule

theorem literal_of_mem_answers {actions : List Action} {s : Journaled Session} {label : String}
    (h : .ok (.record ⟨.string, .label label⟩) ∈ (run actions s).1) :
    ∃ text,
      (.stringLiteral text, .ok (.record ⟨.string, .label label⟩)) ∈ transcript actions s := by
  induction actions generalizing s with
  | nil => cases h
  | cons action rest ih =>
    rw [transcript_cons]
    rcases List.mem_cons.mp h with hfirst | hrest
    · obtain ⟨text, rfl⟩ := literal_of_answer hfirst.symm
      rw [hfirst]
      exact ⟨text, List.mem_cons_self⟩
    · obtain ⟨text, htext⟩ := ih hrest
      exact ⟨text, List.mem_cons_of_mem _ htext⟩

/-! ### Callers that write the texts they have -/

/-- Texts are written by records that were answered before. -/
def TextsKnown (actions : List Action) (s : Journaled Session) : Prop :=
  ∀ i : Fin actions.length, ∀ label ∈ (actions.get i).texts,
    .ok (.record ⟨.string, .label label⟩) ∈ (run (actions.take i) s).1

end Action

/-- **Every text is written from an entry of its own.**  The entries of the data
    segment have different labels; there is one for each string literal that was
    answered, in that order, with its text under the label that was answered.
    Addresses are loaded by writes of texts and by nothing else.  If texts are
    written only by records that were answered, then the label of each is that
    of an earlier literal and stands in the data segment just once, with the text
    of that literal.  All this holds however the run goes on. -/
theorem texts_under_own_labels {options : Options} {level : Option Severity}
    {actions : List Action}
    (hknown : Action.TextsKnown actions
      { state := Session.start options, journal := { level } }) :
    let start : Journaled Session := { state := Session.start options, journal := { level } }
    let s := (Action.run actions start).2.state
    let entries := s.listing.strings.toList
    let done := Action.transcript actions start
    (entries.map StringEntry.label).Nodup ∧
      entries.map StringEntry.literal = done.filterMap Action.Entry.literal? ∧
      addresses s.body = done.flatMap Action.Entry.loaded ∧
      (∀ label ∈ addresses s.body, ∃ text,
        (.stringLiteral text, .ok (.record ⟨.string, .label label⟩)) ∈ done ∧
          entries.filter (fun entry => entry.label == label) = [⟨label, text⟩]) ∧
      ∀ i : Fin actions.length, ∀ label ∈ (actions.get i).texts, ∃ text,
        (.stringLiteral text, .ok (.record ⟨.string, .label label⟩)) ∈
          Action.transcript (actions.take i) start ∧
        entries.filter (fun entry => entry.label == label) = [⟨label, text⟩] := by
  intro start s entries done
  have hnodup : (entries.map StringEntry.label).Nodup :=
    Reachable.labelled ⟨options, level, actions, rfl⟩ |>.nodup
  have hentries : entries = done.flatMap Action.Entry.stored := Action.strings_run actions start
  have hliterals : entries.map StringEntry.literal = done.filterMap Action.Entry.literal? := by
    rw [hentries, Action.literals_run]
  have hloaded : addresses s.body = done.flatMap Action.Entry.loaded :=
    Action.addresses_run actions start
  have hunique : ∀ {text label : String},
      (.stringLiteral text, .ok (.record ⟨.string, .label label⟩)) ∈ done →
        entries.filter (fun entry => entry.label == label) = [⟨label, text⟩] := by
    intro text label hliteral
    have hentry : ⟨label, text⟩ ∈ entries := by
      rw [hentries]
      exact List.mem_flatMap.mpr ⟨_, hliteral, List.mem_singleton.mpr rfl⟩
    exact StringEntry.filter_label hnodup hentry
  have hearlier : ∀ i : Fin actions.length, ∀ label ∈ (actions.get i).texts, ∃ text,
      (.stringLiteral text, .ok (.record ⟨.string, .label label⟩)) ∈
        Action.transcript (actions.take i) start :=
    fun i label hlabel => Action.literal_of_mem_answers (hknown i label hlabel)
  have hlater : ∀ {i : Nat} {entry : Action.Entry},
      entry ∈ Action.transcript (actions.take i) start → entry ∈ done := by
    intro i entry hentry
    rw [Action.transcript_take] at hentry
    exact List.mem_of_mem_take hentry
  refine ⟨hnodup, hliterals, hloaded, ?_, ?_⟩
  · intro label hlabel
    rw [hloaded] at hlabel
    obtain ⟨⟨action, answer⟩, hentry, hlabel⟩ := List.mem_flatMap.mp hlabel
    obtain ⟨i, hi, rfl⟩ := List.getElem_of_mem (List.of_mem_zip hentry).1
    obtain ⟨text, hliteral⟩ := hearlier ⟨i, hi⟩ label (Action.Entry.texts_of_loaded hlabel)
    exact ⟨text, hlater hliteral, hunique (hlater hliteral)⟩
  · intro i label hlabel
    obtain ⟨text, hliteral⟩ := hearlier i label hlabel
    exact ⟨text, hliteral, hunique (hlater hliteral)⟩

-- A variable takes the spelling of the first label, the scope is left before the
-- texts are written, and the run ends with a fault.
theorem texts_under_own_labels_of_left_scope :
    let actions := [.enterScope, .stringLiteral "hi", .declare "char" "str_1", .stringLiteral "ho",
      .leaveScope, .write ⟨.string, .label "str_1"⟩, .write ⟨.string, .label "str_0"⟩,
      .resolve "str_1", .newline]
    let start : Journaled Session := { state := Session.start {} }
    let s := (Action.run actions start).2.state
    s.firstFault = some (.undeclaredSymbol "str_1") ∧
    addresses s.body = ["str_1", "str_0"] ∧
    ∀ label ∈ addresses s.body, ∃ text,
      (.stringLiteral text, .ok (.record ⟨.string, .label label⟩)) ∈
        Action.transcript actions start ∧
      s.listing.strings.toList.filter (fun entry => entry.label == label) = [⟨label, text⟩] := by
  intro actions start s
  have hknown : Action.TextsKnown actions start := by
    unfold actions start
    unfold Action.TextsKnown
    decide +kernel
  have hfault : s.firstFault = some (.undeclaredSymbol "str_1") := by
    unfold s actions start
    decide +kernel
  have haddresses : addresses s.body = ["str_1", "str_0"] := by
    unfold s actions start
    decide +kernel
  clear_value actions
  obtain ⟨-, -, -, hloaded, -⟩ := texts_under_own_labels hknown
  exact ⟨hfault, haddresses, hloaded⟩

end OnePass
