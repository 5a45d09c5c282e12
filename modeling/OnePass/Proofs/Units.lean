/-
  OnePass/Proofs/Units.lean
  =========================
  **Sessions side by side** — records that are passed from one to another.

  Sessions share nothing, but whoever runs several of them may give a record that
  one has answered to any other.  A record says where a value is found and not in
  which session, so nothing keeps a caller from that; and nothing has to, as far as
  faults are concerned: whether a session blames the type of an operand is told by
  the record alone, and all sessions answer records of the same few forms.
-/
import OnePass.Proofs.Effects
import OnePass.Proofs.History
import OnePass.Proofs.Operands

namespace OnePass

open Asm Step Session

/-! ### Places that a session answers -/

/-- Where a session finds values: at labels, at words of its frame, and at the
    offsets that its own integer temporaries hold. -/
inductive Session.Provides (s : Session) : Place → Prop
  | text (name : String) : Provides s (.label name)
  | word {offset : Int} (hle : offset ≤ 0) (hdvd : 4 ∣ offset) : Provides s (.stack offset)
  | slot {offset : Int} {id : SymbolId} {number : Nat} (hle : offset ≤ 0) (hdvd : 4 ∣ offset)
      (hsymbol : s.environment.symbol? id =
        some ⟨generatedName .temporary number, .int, offset, 1⟩) :
      Provides s (.indirect offset)

theorem Session.record_of_scalarLiteral {type : ValueType} {value : Int} {s t : Journaled Session}
    {record : Record} (h : scalarLiteral type value s = .ok record t) :
    record = ⟨type, .stack s.state.frame.cursor⟩ := by
  obtain ⟨offset, u, htemporary, h⟩ := bind_eq_ok h
  obtain ⟨-, v, -, h⟩ := bind_eq_ok h
  cases h
  obtain ⟨rfl, -⟩ := ensures_newTemporary type s.state htemporary
  rfl

namespace Reachable

variable {s : Journaled Session} (hs : Reachable s)

include hs in
theorem provides_of_refers {spec : String} {record : Record} {t : Session}
    (h : s.state.Refers spec (.ok record) t) : t.Provides record.place := by
  cases h with
  | whole _ hbase =>
    obtain ⟨-, -, hle, hdvd⟩ := (laid hs).offset_of_scalar? hbase
    exact .word hle hdvd
  | element _ hbase hoffset =>
    obtain ⟨-, -, hle, hdvd⟩ := (laid hs).offset_of_scalar? hbase
    obtain ⟨rfl, -, -⟩ := below?_eq_some_iff.mp hoffset
    exact .word (by omega) (by omega)
  | @computed _ _ _ _ grown =>
    have hsymbol := symbol?_withTemporary s.state .int grown
    exact .slot (laid hs).cursor_nonpos (laid hs).cursor_dvd hsymbol

include hs in
/-- What is put into the next word of the frame is found there. -/
theorem provides_cursor (t : Session) : t.Provides (.stack s.state.frame.cursor) :=
  .word (laid hs).cursor_nonpos (laid hs).cursor_dvd

include hs in
/-- Every record that is answered is found where the session finds values. -/
theorem provides_of_answer {action : Action} {record : Record}
    (h : (action.perform s).1 = .ok (.record record)) :
    (action.perform s).2.state.Provides record.place := by
  obtain ⟨hlive, -, -⟩ := Action.changes_of_answer h
  obtain ⟨journal, hrule⟩ := Action.rule_of_answer h
  cases action with
  | resolve spec =>
    obtain ⟨answer, t, hrefers, hanswer, hleaves⟩ := Action.refers hlive spec
    rw [h] at hanswer
    cases answer with
    | error cause => cases hanswer
    | ok found =>
      cases hanswer
      rw [hleaves]
      exact hs.provides_of_refers hrefers
  | intLiteral value =>
    obtain ⟨found, u, hliteral, heq⟩ := bind_eq_ok hrule
    cases heq
    obtain rfl := record_of_scalarLiteral hliteral
    exact hs.provides_cursor _
  | charLiteral value =>
    obtain ⟨found, u, hliteral, heq⟩ := bind_eq_ok hrule
    cases heq
    obtain rfl := record_of_scalarLiteral hliteral
    exact hs.provides_cursor _
  | stringLiteral text =>
    obtain ⟨found, u, hliteral, heq⟩ := bind_eq_ok hrule
    cases heq
    obtain ⟨number, rfl⟩ := record_of_stringLiteral hliteral
    exact .text _
  | apply operator left right =>
    obtain ⟨found, u, happly, heq⟩ := bind_eq_ok hrule
    cases heq
    obtain ⟨rfl, -, -⟩ := Action.apply_eq_ok happly
    exact hs.provides_cursor _
  | _ =>
    obtain ⟨answer, u, -, heq⟩ := bind_eq_ok hrule
    cases heq

end Reachable

/-- No action takes a temporary away. -/
theorem Session.Provides.perform {s : Journaled Session} {place : Place}
    (h : s.state.Provides place) (action : Action) :
    (action.perform s).2.state.Provides place := by
  cases h with
  | text name => exact .text name
  | word hle hdvd => exact .word hle hdvd
  | slot hle hdvd hsymbol => exact .slot hle hdvd (Action.symbol?_perform action hsymbol)

/-- Among records that sessions answer, texts are those at labels. -/
theorem Record.Coherent.type_eq_string_iff {record : Record} (h : record.Coherent) :
    record.type = .string ↔ ∃ name, record.place = .label name := by
  rcases record with ⟨type, place⟩
  cases type <;> cases place <;> simp_all [Coherent, ValueType.isScalar, Place.isLabel]

/-! ### Any number of sessions -/

/-- Sessions side by side, each with a journal of its own. -/
abbrev Units (ι : Type) := ι → Journaled Session

namespace Units

variable {ι : Type}

def start (options : ι → Options) (level : ι → Option Severity) : Units ι := fun i =>
  { state := Session.start (options i), journal := { level := level i } }

variable [DecidableEq ι]

/-- One of the sessions performs an action; the others notice nothing. -/
def perform (i : ι) (action : Action) (units : Units ι) : Except Fault Reply × Units ι :=
  ((action.perform (units i)).1, Function.update units i (action.perform (units i)).2)

/-- The answers to actions in order, each with the session that gave it, and the
    sessions after them. -/
def run : List (ι × Action) → Units ι → List (ι × Except Fault Reply) × Units ι
  | [], units => ([], units)
  | (i, action) :: rest, units =>
    let (answer, after) := perform i action units
    let (answers, last) := run rest after
    ((i, answer) :: answers, last)

theorem perform_self (i : ι) (action : Action) (units : Units ι) :
    (perform i action units).2 i = (action.perform (units i)).2 :=
  Function.update_self i _ units

theorem perform_of_ne {i j : ι} (h : j ≠ i) (action : Action) (units : Units ι) :
    (perform i action units).2 j = units j :=
  Function.update_of_ne h _ units

section Keeps

variable {P : Journaled Session → Prop} (hkeep : ∀ s action, P s → P (Action.perform action s).2)

include hkeep in
/-- What an action keeps of the session that performs it, it keeps of all. -/
theorem keeps_perform {units : Units ι} (i : ι) (action : Action) {j : ι} (h : P (units j)) :
    P ((perform i action units).2 j) := by
  rcases eq_or_ne j i with rfl | hne
  · rw [perform_self]
    exact hkeep _ action h
  · rw [perform_of_ne hne]
    exact h

include hkeep in
theorem keeps_run (orders : List (ι × Action)) {units : Units ι} {j : ι} (h : P (units j)) :
    P ((run orders units).2 j) := by
  induction orders generalizing units with
  | nil => exact h
  | cons order rest ih => exact ih (keeps_perform hkeep order.1 order.2 h)

end Keeps

/-- Whatever record was answered in a run, the session that answered it still finds
    the value. -/
theorem provides_of_mem_run {orders : List (ι × Action)} {units : Units ι}
    (hunits : ∀ i, Reachable (units i)) {i : ι} {record : Record}
    (h : (i, .ok (.record record)) ∈ (run orders units).1) :
    record.Coherent ∧ ((run orders units).2 i).state.Provides record.place := by
  induction orders generalizing units with
  | nil => cases h
  | cons order rest ih =>
    obtain ⟨j, action⟩ := order
    rcases List.mem_cons.mp h with hfirst | hlater
    · obtain ⟨rfl, hanswer⟩ := Prod.mk.inj hfirst
      have hprovides : ((perform i action units).2 i).state.Provides record.place := by
        rw [perform_self]
        exact (hunits i).provides_of_answer hanswer.symm
      have hkept := keeps_run (P := fun s => s.state.Provides record.place)
        (fun _ action hs => hs.perform action) rest hprovides
      exact ⟨Action.coherent_of_perform hanswer.symm, hkept⟩
    · have hnext : ∀ k, Reachable ((perform j action units).2 k) := fun k =>
        keeps_perform (fun _ action hs => hs.perform action) j action (hunits k)
      exact ih hnext hlater

end Units

/-- **Records say what they are, and texts are all that is wrong with operands.**
    Whatever is asked of any number of sessions, and whatever records they are given,
    what they answer is a text just if it is found at a label, and lies at a word of
    the frame otherwise; where that word holds an offset, it is an integer temporary
    of the session that answered.  So if a session without a fault is given records
    that any of them have answered, it blames their types just for texts among
    operands, or for an assignment between types that do not agree. -/
theorem records_between_units {ι : Type} [DecidableEq ι] (options : ι → Options)
    (level : ι → Option Severity) (orders : List (ι × Action)) :
    let ran := Units.run orders (Units.start options level)
    (∀ i record, (i, .ok (.record record)) ∈ ran.1 →
      (record.type = .string ↔ ∃ name, record.place = .label name) ∧
      (∀ offset, record.place = .stack offset ∨ record.place = .indirect offset →
        offset ≤ 0 ∧ 4 ∣ offset) ∧
      ∀ slot, record.place = .indirect slot →
        ∃ id number, (ran.2 i).state.environment.symbol? id =
          some ⟨generatedName .temporary number, .int, slot, 1⟩) ∧
    ∀ i (action : Action), (ran.2 i).state.firstFault = none →
      (∀ record ∈ action.records, ∃ j, (j, .ok (.record record)) ∈ ran.1) →
      ∀ cause : Fault, cause.isMisuse = true →
        ((action.perform (ran.2 i)).1 = .error cause ↔ action.Misuses cause) := by
  intro ran
  have hstart : ∀ i, Reachable (Units.start options level i) := fun i =>
    ⟨options i, level i, [], rfl⟩
  refine ⟨fun i record hrecord => ?_, fun i action hlive hrecords cause hcause => ?_⟩
  · obtain ⟨hcoherent, hprovides⟩ := Units.provides_of_mem_run hstart hrecord
    refine ⟨hcoherent.type_eq_string_iff, ?_, ?_⟩
    · rintro offset (hplace | hplace) <;> rw [hplace] at hprovides
      · cases hprovides with
        | word hle hdvd => exact ⟨hle, hdvd⟩
      · cases hprovides with
        | slot hle hdvd => exact ⟨hle, hdvd⟩
    · intro slot hplace
      rw [hplace] at hprovides
      cases hprovides with
      | slot _ _ hsymbol => exact ⟨_, _, hsymbol⟩
  · have hcoherent : action.Coherent := by
      intro record hrecord
      obtain ⟨j, hanswered⟩ := hrecords record hrecord
      exact (Units.provides_of_mem_run hstart hanswered).1
    exact Action.error_iff_misuses hlive hcoherent hcause

-- A text that one session has answered, as an operand in another one.
set_option maxRecDepth 4000 in
theorem records_between_units_of_text :
    let orders : List (Bool × Action) :=
      [(false, .enterScope), (false, .stringLiteral "hi"), (true, .enterScope),
        (true, .intLiteral 5)]
    let ran := Units.run orders (Units.start (fun _ => {}) fun _ => none)
    let text : Record := ⟨.string, .label "str_0"⟩
    ((Action.apply .add ⟨.int, .stack 0⟩ text).perform (ran.2 true)).1 =
        .error (.invalidOperandType .string "arithmetic") ∧
      ((Action.assign ⟨.int, .stack 0⟩ text).perform (ran.2 true)).1 =
        .error (.typeMismatch .int .string) ∧
      ∀ type role, ((Action.write text).perform (ran.2 true)).1 ≠
        .error (.invalidOperandType type role) := by
  intro orders ran text
  have hanswers : ran.1 = [(false, .ok .done), (false, .ok (.record text)), (true, .ok .done),
      (true, .ok (.record ⟨.int, .stack 0⟩))] := by
    unfold ran orders text
    decide +kernel
  have hlive : (ran.2 true).state.firstFault = none := by
    unfold ran orders
    decide +kernel
  have hran : Units.run orders (Units.start (fun _ => {}) fun _ => none) = ran := rfl
  obtain ⟨-, hblames⟩ := records_between_units (fun _ : Bool => {}) (fun _ => none) orders
  rw [hran] at hblames
  clear_value ran
  have htext : ∃ j, (j, .ok (.record text)) ∈ ran.1 := ⟨false, by simp [hanswers]⟩
  have hnumber : ∃ j, (j, .ok (.record ⟨.int, .stack 0⟩)) ∈ ran.1 := ⟨true, by simp [hanswers]⟩
  have hboth : ∀ record ∈ [⟨.int, .stack 0⟩, text], ∃ j, (j, .ok (.record record)) ∈ ran.1 :=
    List.forall_mem_cons.mpr ⟨hnumber, List.forall_mem_singleton.mpr htext⟩
  refine ⟨?_, ?_, fun type role hfails => ?_⟩
  · exact (hblames true (.apply .add _ text) hlive hboth _ rfl).mpr (.arithmetic (Or.inr rfl))
  · exact (hblames true (.assign _ text) hlive hboth _ rfl).mpr (.mismatch nofun nofun)
  · cases (hblames true (.write text) hlive (List.forall_mem_singleton.mpr htext) _ rfl).mp hfails

end OnePass
