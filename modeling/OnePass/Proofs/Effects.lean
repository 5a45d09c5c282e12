/-
  OnePass/Proofs/Effects.lean
  ===========================
  **What actions do to the machine** — everything that uses a record finds its
  cell in the same way.

  A record designates the cell at its offset, or the cell at the offset that is
  kept at its offset (`Place.locate?`).  Whatever registers are in use, an answered
  action has first put the addresses of its operands where nothing else of its code
  gets at them, and then loads before it stores.  So it does not matter whether
  operands are the same cell, or whether one holds the offset of the other.
-/
import OnePass.Proofs.Elements
import OnePass.Proofs.Placing
import OnePass.Proofs.Texts

namespace OnePass

open Asm Step Session

/-! ### Lines and the code among them -/

namespace Asm

theorem run_cons (line : Line) (rest : List Line) (m : Machine) :
    run (line :: rest) m = (run [line] m).bind (run rest) := by
  cases line with
  | instruction i => cases h : i.exec m <;> simp [run, h]
  | _ => rfl

/-- Remarks are skipped. -/
theorem run_filter_isCode (lines : List Line) (m : Machine) :
    run (lines.filter Line.isCode) m = run lines m := by
  induction lines generalizing m with
  | nil => rfl
  | cons line rest ih =>
    cases line with
    | instruction i =>
      simp only [List.filter_cons, Line.isCode, if_true, run]
      congr 1
      exact funext ih
    | label name => exact ih m
    | remark text => exact ih m
    | verbatim text => rfl

namespace Machine

/-- Lines with branches act on the machine as those without do when they are run. -/
def interpretation : Interpretation Machine where
  effect line m := (run [line] m).getD m
  isZero r m := m.reg r == 0

theorem effects_of_run {lines : List Line} {m n : Machine} (h : run lines m = some n) :
    interpretation.effects lines m = n := by
  induction lines generalizing m with
  | nil => exact Option.some.inj h
  | cons line rest ih =>
    rw [run_cons] at h
    obtain ⟨middle, hline, hrest⟩ := Option.bind_eq_some_iff.mp h
    have heffect : interpretation.effect line m = middle := by
      simp [interpretation, hline]
    rw [Interpretation.effects, List.foldl_cons, heffect]
    exact ih hrest

/-! ### Code that uses operands -/

/-- The address of an operand depends on the stack pointer and the address
    registers only. -/
theorem address_congr {m n : Machine} (hsp : n.reg .sp = m.reg .sp)
    (hregs : ∀ r : AddressRegister, n.reg r.register = m.reg r.register) (operand : Operand) :
    n.address operand = m.address operand := by
  cases operand with
  | slot offset => simp only [address, slot, hsp]
  | through r => exact hregs r

/-- The value is loaded before it is stored. -/
theorem run_transfer (source target : Operand) (m : Machine) :
    ∃ n, runCode [.lw (.t 1) source, .sw (.t 1) target] m = some n ∧
      (m.store (m.address target) (m.mem (m.address source))).Alike n := by
  have htarget := address_congr (m := m) (n := m.set (.t 1) (m.mem (m.address source)))
    (m.reg_set_of_ne _ _ _ nofun)
    (fun r => m.reg_set_of_ne _ _ _ (r.register_ne_t (by decide))) target
  refine ⟨_, rfl, ?_⟩
  rw [reg_set_t, htarget]
  exact (Alike.set m 1 _).store _ _

/-- What the console answers is stored. -/
theorem run_input (service : Service) (target : Operand) (m : Machine) :
    ∃ n, runCode [.select service, .syscall, .sw .v0 target] m = some n ∧
      n.reg .sp = m.reg .sp ∧
      n.mem = Function.update m.mem (m.address target) (m.answers m.calls.length) ∧
      n.calls = m.calls ++ [(BitVec.ofInt 32 service.code, m.reg .a0)] := by
  have htarget := address_congr (m := m) (n := (m.set .v0 (BitVec.ofInt 32 service.code)).call)
    (by simp [call, set, reg]) (fun r => by simp [call, set, reg, AddressRegister.register]) target
  refine ⟨_, rfl, ?_, ?_, ?_⟩
  · simp [store, call, set, reg]
  · simp only [store, Immediate.word, htarget]
    simp [call, set, reg]
  · simp [store, call, set, reg, Immediate.word]

/-- The value in `$a0` is passed to the console. -/
theorem run_output {i : Instruction} {m : Machine} {v : Word}
    (hload : i.exec m = some (m.set .a0 v)) (service : Service) :
    ∃ n, runCode [i, .select service, .syscall] m = some n ∧ n.reg .sp = m.reg .sp ∧
      n.mem = m.mem ∧ n.calls = m.calls ++ [(BitVec.ofInt 32 service.code, v)] := by
  refine ⟨((m.set .a0 v).set .v0 (BitVec.ofInt 32 service.code)).call, ?_, ?_, rfl, ?_⟩
  · simp only [runCode, hload, Option.bind_some]
    rfl
  · simp [call, set, reg]
  · simp [call, set, reg]

end Machine

end Asm

/-! ### Operands of answered actions -/

/-- What is made an operand is a word, and its record designates a cell. -/
theorem Session.operand_eq_ok {record : Record} {role : String} {s t : Journaled Session}
    {source : Operand} (h : operand record role s = .ok source t) :
    record.type.isScalar = true ∧ ∀ m, ∃ a, record.place.locate? m = some a := by
  constructor
  · by_contra hscalar
    have hrefuses := refuses_requireScalar (Bool.eq_false_of_not_eq_true hscalar) role s.state
    exact hrefuses.bind.ne_ok h
  · intro m
    obtain ⟨type, place⟩ := record
    cases place with
    | stack offset => exact ⟨_, rfl⟩
    | indirect offset => exact ⟨_, rfl⟩
    | label name => exact absurd h (refuses_operand_of_label s.state).ne_ok

namespace Action

variable {action : Action} {s : Journaled Session}

/-- The code of an action makes its operands ready, and then uses them. -/
theorem run_operandCode (action : Action) (s : Session) (k : Nat) (m : Machine) :
    ∃ n, Place.Ready (Place.inTurn k action.operands) m n ∧
      runCode (action.operandCode s k) m = runCode (action.use s
        ((Place.inTurn k action.operands).map fun (place, r) => place.operand r)) n := by
  obtain ⟨n, hrun, hready⟩ := action.run_operands k m
  refine ⟨n, hready, ?_⟩
  rw [operandCode, runCode_append, hrun, Option.bind_some]

/-- The lines behind an answered action do what its code does. -/
theorem runs_code {code : List Instruction}
    (h : (action.perform s).2.state.code = s.state.code ++ code.map .instruction) :
    ∃ lines, (action.perform s).2.state.body = s.state.body ++ lines ∧
      ∀ m, Asm.run lines m = runCode code m := by
  obtain ⟨lines, hbody, -⟩ := action.body_perform s
  have hcode : lines.filter Line.isCode = code.map .instruction := by
    rw [Session.code, Session.code, hbody, List.filter_append] at h
    exact List.append_cancel_left h
  refine ⟨lines, hbody, ?_⟩
  intro m
  rw [← run_filter_isCode, hcode, run_instructions]

/-- The lines an action has appended lead from every state of the machine to one
    that is related to it, and keep the stack pointer. -/
def Does (action : Action) (s : Journaled Session) (effect : Machine → Machine → Prop) : Prop :=
  ∃ lines, (action.perform s).2.state.body = s.state.body ++ lines ∧
    ∀ m, ∃ n, Asm.run lines m = some n ∧ n.reg .sp = m.reg .sp ∧ effect m n

/-- It is enough to look at the code that uses the operands, once they are ready. -/
theorem does_of_use (hs : Reachable s) {reply : Reply} (hok : (action.perform s).1 = .ok reply)
    (hoperands : action.operands ≠ []) {effect : Machine → Machine → Prop}
    (h : ∀ k m n, Place.Ready (Place.inTurn k action.operands) m n →
      ∃ o, runCode (action.use s.state
          ((Place.inTurn k action.operands).map fun (place, r) => place.operand r)) n = some o ∧
        o.reg .sp = m.reg .sp ∧ effect m o) : action.Does s effect := by
  obtain ⟨k, hcode⟩ := hs.operands_ready hok hoperands
  obtain ⟨lines, hbody, hlines⟩ := runs_code hcode
  refine ⟨lines, hbody, ?_⟩
  intro m
  obtain ⟨n, hready, huse⟩ := action.run_operandCode s.state k m
  rw [hlines, huse]
  exact h k m n hready

/-! ### Operators -/

/-- The result is the next temporary. -/
theorem apply_eq_ok {operator : Operator} {left right record : Record} {s t : Journaled Session}
    (h : Session.apply operator left right s = .ok record t) :
    record = ⟨.int, .stack s.state.frame.cursor⟩ ∧
      (∀ m, ∃ a, left.place.locate? m = some a) ∧ ∀ m, ∃ a, right.place.locate? m = some a := by
  obtain ⟨_, s₁, hleft, h⟩ := bind_eq_ok h
  obtain ⟨_, s₂, hright, h⟩ := bind_eq_ok h
  obtain ⟨result, s₃, htemporary, h⟩ := bind_eq_ok h
  obtain ⟨_, s₄, -, h⟩ := bind_eq_ok h
  obtain ⟨lhs, s₅, hlhs, h⟩ := bind_eq_ok h
  obtain ⟨rhs, s₆, hrhs, h⟩ := bind_eq_ok h
  -- what is left is written for these operands, and answers the temporary
  iterate 5 obtain ⟨_, _, -, h⟩ := bind_eq_ok h
  cases h
  have hs₁ := ensures_requireScalar left _ s.state hleft
  have hs₂ := ensures_requireScalar right _ s₁.state hright
  obtain ⟨hresult, -⟩ := ensures_newTemporary .int s₂.state htemporary
  rw [hs₂, hs₁] at hresult
  exact ⟨by rw [hresult], (operand_eq_ok hlhs).2, (operand_eq_ok hrhs).2⟩

theorem operandCode_apply (operator : Operator) (left right : Record) (s : Session) (k : Nat) :
    (apply operator left right).operandCode s k =
      applyCode operator left.place right.place (.turn k) (.turn (k + left.place.turns))
        s.frame.cursor := by
  simp [operandCode, applyCode, use, operands, Place.inTurn]

end Action

theorem Place.turn_ne_of_isIndirect {place : Place} (h : place.isIndirect = true) (k : Nat) :
    AddressRegister.turn k ≠ .turn (k + place.turns) := by
  intro heq
  have hturns : place.turns = 1 := by simp [turns, h]
  rw [hturns] at heq
  cases AddressRegister.turn_inj (i := 0) (by decide) (by decide) heq

namespace Operator

/-- Only a division can lack a value. -/
theorem exists_value? {operator : Operator} {a b : Word} (h : operator = .div → b ≠ 0) :
    ∃ v, operator.value? a b = some v := by
  cases operator with
  | div => exact ⟨_, if_neg (h rfl)⟩
  | _ => exact ⟨_, rfl⟩

theorem value?_or_ne_zero {a b v : Word} (h : value? .or a b = some v) :
    v ≠ 0 ↔ a ≠ 0 ∨ b ≠ 0 := by
  cases h
  exact (not_congr BitVec.or_eq_zero_iff).trans not_and_or

end Operator

/-- The next temporary lies apart from the words of all symbols. -/
theorem Reachable.slot_ne_cursor {s : Journaled Session} (hs : Reachable s)
    (hlive : s.state.firstFault = none) {id : SymbolId} {symbol : Symbol} {j : Nat}
    (hsymbol : s.state.environment.symbol? id = some symbol) (hj : j < symbol.words)
    (m : Machine) : m.slot (symbol.offset - 4 * (j : Int)) ≠ m.slot s.state.frame.cursor := by
  have htiled := hs.intact invariant_layout hlive
  rw [symbol?_eq] at hsymbol
  obtain ⟨-, hzero, habove, hfits⟩ := htiled.symbol_inside hsymbol (by omega)
  have hcursor := htiled.cursor_fits
  refine m.slot_ne ?_ hcursor ?_
  · simp only [FitsWord] at *
    omega
  · omega

/-- **Operators compute.**  If an operator is applied the answer is the next
    temporary, which lies apart from every symbol there is.  The lines put into it
    the value of the operator for the values both records designate before, unless
    they divide by zero.  They change no other word and keep the stack pointer. -/
theorem apply_computes {s : Journaled Session} (hs : Reachable s) {operator : Operator}
    {left right : Record} {reply : Reply}
    (hok : ((Action.apply operator left right).perform s).1 = .ok reply) :
    let slot := s.state.frame.cursor
    reply = .record ⟨.int, .stack slot⟩ ∧
      (∀ id symbol (j : Nat) (m : Machine), s.state.environment.symbol? id = some symbol →
        j < symbol.words → m.slot (symbol.offset - 4 * (j : Int)) ≠ m.slot slot) ∧
      ∃ lines, ((Action.apply operator left right).perform s).2.state.body =
          s.state.body ++ lines ∧
        ∀ m : Machine, (operator = .div → right.place.load? m ≠ some 0) →
          ∃ a b v n, left.place.load? m = some a ∧ right.place.load? m = some b ∧
            operator.value? a b = some v ∧ (operator = .or → (v ≠ 0 ↔ a ≠ 0 ∨ b ≠ 0)) ∧
            run lines m = some n ∧ n.cell slot = v ∧ n.reg .sp = m.reg .sp ∧
            ∀ address, address ≠ m.slot slot → n.mem address = m.mem address := by
  intro slot
  obtain ⟨hlive, -, -⟩ := Action.changes_of_answer hok
  obtain ⟨journal, hrule⟩ := Action.rule_of_answer hok
  obtain ⟨record, t, happly, hreply⟩ := bind_eq_ok hrule
  cases hreply
  obtain ⟨rfl, hleft, hright⟩ := Action.apply_eq_ok happly
  refine ⟨rfl, fun _ _ _ m hsymbol hj => hs.slot_ne_cursor hlive hsymbol hj m, ?_⟩
  obtain ⟨k, hcode⟩ := hs.operands_ready hok nofun
  obtain ⟨lines, hbody, hlines⟩ := Action.runs_code hcode
  refine ⟨lines, hbody, ?_⟩
  intro m hdivisor
  obtain ⟨x, hx⟩ := hleft m
  obtain ⟨y, hy⟩ := hright m
  have ha := Place.load?_of_locate? hx
  have hb := Place.load?_of_locate? hy
  have hnonzero : operator = .div → m.mem y ≠ 0 := by
    intro hdiv hzero
    rw [hzero] at hb
    exact hdivisor hdiv hb
  obtain ⟨v, hv⟩ := Operator.exists_value? (a := m.mem x) hnonzero
  obtain ⟨n, hrun, halike⟩ :=
    run_applyCode (fun h => Place.turn_ne_of_isIndirect h k) ha hb hv slot
  refine ⟨_, _, v, n, ha, hb, hv, ?_, ?_, halike.cell_of_store, halike.sp_eq, ?_⟩
  · rintro rfl
    exact Operator.value?_or_ne_zero hv
  · rw [hlines, Action.operandCode_apply, hrun]
  · intro address hother
    rw [halike.mem_eq]
    exact m.mem_store_of_ne _ _ hother

-- The third of three elements less the index.
set_option maxRecDepth 4000 in
theorem apply_computes_of_element :
    let s := (Action.run [.enterScope, .declare "int" "a[3]", .declare "int" "i", .resolve "a[i]"]
      { state := Session.start {} }).2
    let action := Action.apply .sub ⟨.int, .indirect (-16)⟩ ⟨.int, .stack (-12)⟩
    (action.perform s).1 = .ok (.record ⟨.int, .stack (-20)⟩) ∧
    ∃ lines, (action.perform s).2.state.body = s.state.body ++ lines ∧
      ∀ m : Machine, m.cell (-16) = BitVec.ofInt 32 (-8) → m.cell (-8) = 7 → m.cell (-12) = 2 →
        ∃ n, run lines m = some n ∧ n.cell (-20) = 5 := by
  intro s action
  have hreachable : Reachable s := ⟨_, _, _, rfl⟩
  have hok : (action.perform s).1 = .ok (.record ⟨.int, .stack (-20)⟩) := by
    unfold s action
    decide +kernel
  have hcursor : s.state.frame.cursor = -20 := by
    unfold s
    decide +kernel
  clear_value s
  obtain ⟨-, -, lines, hbody, hlines⟩ := apply_computes hreachable hok
  refine ⟨hok, lines, hbody, fun m hoffset helement hindex => ?_⟩
  obtain ⟨a, b, v, n, ha, hb, hv, -, hrun, hcell, -⟩ := hlines m nofun
  have ha' : Place.load? m (.indirect (-16)) = some 7 := by
    simp only [Place.load?, Place.locate?, hoffset]
    exact congrArg some helement
  have hb' : Place.load? m (.stack (-12)) = some 2 := congrArg some hindex
  cases ha.symm.trans ha'
  cases hb.symm.trans hb'
  cases hv
  rw [hcursor] at hcell
  exact ⟨n, hrun, hcell⟩

/-! ### Assignment, input and output -/

namespace Action

variable {s : Journaled Session} {reply : Reply}

theorem assign_eq_ok {target value : Record} {s t : Journaled Session}
    (h : Session.assign target value s = .ok () t) :
    (∀ m, ∃ a, target.place.locate? m = some a) ∧ ∀ m, ∃ a, value.place.locate? m = some a := by
  unfold Session.assign at h
  split at h
  · obtain ⟨_, s₁, htarget, h⟩ := bind_eq_ok h
    obtain ⟨_, s₂, hvalue, h⟩ := bind_eq_ok h
    exact ⟨(operand_eq_ok htarget).2, (operand_eq_ok hvalue).2⟩
  · cases h

theorem does_assign (hs : Reachable s) {target value : Record}
    (hok : ((assign target value).perform s).1 = .ok reply) :
    (assign target value).Does s fun m n => ∃ a v, target.place.locate? m = some a ∧
      value.place.load? m = some v ∧ n.mem = Function.update m.mem a v ∧
      n.calls = m.calls := by
  obtain ⟨journal, hrule⟩ := rule_of_answer hok
  obtain ⟨_, t, hassign, -⟩ := bind_eq_ok hrule
  obtain ⟨htarget, hvalue⟩ := assign_eq_ok hassign
  apply does_of_use hs hok nofun
  intro k m n hready
  obtain ⟨a, ha⟩ := htarget m
  obtain ⟨b, hb⟩ := hvalue m
  have hto := hready.address_eq List.mem_cons_self ha
  have hfrom := hready.address_eq (List.mem_cons_of_mem _ List.mem_cons_self) hb
  obtain ⟨o, hrun, hstored⟩ := Machine.run_transfer
    (value.place.operand (.turn (k + target.place.turns))) (target.place.operand (.turn k)) n
  rw [hto, hfrom] at hstored
  refine ⟨o, hrun, hstored.sp_eq.trans hready.alike.sp_eq, a, m.mem b, ha,
    Place.load?_of_locate? hb, ?_, ?_⟩
  · rw [hstored.mem_eq, Machine.store, hready.alike.mem_eq]
  · exact hstored.calls_eq.trans hready.alike.calls_eq

theorem read_eq_ok {target : Record} {s t : Journaled Session}
    (h : Session.read target s = .ok () t) :
    (∃ service, readService? target.type = some service) ∧
      ∀ m, ∃ a, target.place.locate? m = some a := by
  cases hservice : readService? target.type with
  | none =>
    simp only [Session.read, hservice] at h
    cases h
  | some service =>
    simp only [Session.read, hservice] at h
    obtain ⟨_, s₁, htarget, h⟩ := bind_eq_ok h
    exact ⟨⟨service, rfl⟩, (operand_eq_ok htarget).2⟩

/-- Numbers are read by the fifth service, characters by the twelfth. -/
theorem code_of_readService? {type : ValueType} {service : Service}
    (h : readService? type = some service) :
    (type = .int ∧ service.code = 5) ∨ (type = .char ∧ service.code = 12) := by
  cases type with
  | int =>
    cases h
    exact Or.inl ⟨rfl, rfl⟩
  | char =>
    cases h
    exact Or.inr ⟨rfl, rfl⟩
  | string => cases h

theorem does_read (hs : Reachable s) {target : Record}
    (hok : ((read target).perform s).1 = .ok reply) :
    (read target).Does s fun m n => ∃ a service argument, target.place.locate? m = some a ∧
      ((target.type = .int ∧ service = 5) ∨ (target.type = .char ∧ service = 12)) ∧
      n.mem = Function.update m.mem a (m.answers m.calls.length) ∧
      n.calls = m.calls ++ [(BitVec.ofNat 32 service, argument)] := by
  obtain ⟨journal, hrule⟩ := rule_of_answer hok
  obtain ⟨_, t, hread, -⟩ := bind_eq_ok hrule
  obtain ⟨⟨service, hservice⟩, htarget⟩ := read_eq_ok hread
  apply does_of_use hs hok nofun
  intro k m n hready
  obtain ⟨a, ha⟩ := htarget m
  have hto := hready.address_eq List.mem_cons_self ha
  obtain ⟨o, hrun, hsp, hmem, hcalls⟩ :=
    Machine.run_input service (target.place.operand (.turn k)) n
  rw [hto, hready.alike.mem_eq, hready.alike.answers_eq, hready.alike.calls_eq] at hmem
  rw [hready.alike.calls_eq, BitVec.ofInt_natCast] at hcalls
  refine ⟨o, ?_, hsp.trans hready.alike.sp_eq, a, service.code, _, ha,
    code_of_readService? hservice, hmem, hcalls⟩
  simpa [use, operands, Place.inTurn, hservice] using hrun

theorem write_eq_ok {value : Record} {s t : Journaled Session}
    (hvalue : ∀ label, value.place ≠ .label label) (h : Session.write value s = .ok () t) :
    value.type.isScalar = true ∧ ∀ m, ∃ a, value.place.locate? m = some a := by
  obtain ⟨type, place⟩ := value
  cases place with
  | label label => exact absurd rfl (hvalue label)
  | _ =>
    obtain ⟨_, s₁, hsource, h⟩ := bind_eq_ok h
    exact operand_eq_ok hsource

/-- Numbers are printed by the first service, characters by the eleventh. -/
theorem code_of_printService {type : ValueType} (h : type.isScalar = true) :
    (type = .int ∧ (printService type).code = 1) ∨
      (type = .char ∧ (printService type).code = 11) := by
  cases type with
  | int => exact Or.inl ⟨rfl, rfl⟩
  | char => exact Or.inr ⟨rfl, rfl⟩
  | string => cases h

theorem operands_write {value : Record} (hvalue : ∀ label, value.place ≠ .label label) :
    (write value).operands = [value.place] := by
  obtain ⟨type, place⟩ := value
  cases place with
  | label label => exact absurd rfl (hvalue label)
  | _ => rfl

theorem does_write (hs : Reachable s) {value : Record}
    (hvalue : ∀ label, value.place ≠ .label label)
    (hok : ((write value).perform s).1 = .ok reply) :
    (write value).Does s fun m n => ∃ v service, value.place.load? m = some v ∧
      ((value.type = .int ∧ service = 1) ∨ (value.type = .char ∧ service = 11)) ∧
      n.mem = m.mem ∧ n.calls = m.calls ++ [(BitVec.ofNat 32 service, v)] := by
  obtain ⟨journal, hrule⟩ := rule_of_answer hok
  obtain ⟨_, t, hwrite, -⟩ := bind_eq_ok hrule
  obtain ⟨hscalar, hdesignates⟩ := write_eq_ok hvalue hwrite
  have hoperands := operands_write hvalue
  have hne : (write value).operands ≠ [] := by
    rw [hoperands]
    nofun
  apply does_of_use hs hok hne
  intro k m n hready
  rw [hoperands] at hready ⊢
  obtain ⟨a, ha⟩ := hdesignates m
  have hfrom := hready.address_eq List.mem_cons_self ha
  obtain ⟨o, hrun, hsp, hmem, hcalls⟩ := Machine.run_output
    (i := .lw .a0 (value.place.operand (.turn k))) (m := n) rfl (printService value.type)
  rw [hfrom, hready.alike.mem_eq, hready.alike.calls_eq, BitVec.ofInt_natCast] at hcalls
  exact ⟨o, hrun, hsp.trans hready.alike.sp_eq, m.mem a, (printService value.type).code,
    Place.load?_of_locate? ha, code_of_printService hscalar, hmem.trans hready.alike.mem_eq,
    hcalls⟩

theorem does_write_label {type : ValueType} {label : String}
    (hok : ((write ⟨type, .label label⟩).perform s).1 = .ok reply) :
    (write ⟨type, .label label⟩).Does s fun m n =>
      n.mem = m.mem ∧ n.calls = m.calls ++ [(4, m.labels label)] := by
  obtain ⟨-, hyields, -⟩ := changes_of_answer hok
  obtain ⟨-, hafter⟩ := hyields.unique (yields_write_label type label s.state)
  refine ⟨_, by rw [hafter, body_wrote], ?_⟩
  intro m
  obtain ⟨n, hrun, hsp, hmem, hcalls⟩ :=
    Machine.run_output (i := .la .a0 label) (m := m) rfl .printString
  exact ⟨n, (run_instructions [.la .a0 label, .select .printString, .syscall] m).trans hrun, hsp,
    hmem, hcalls⟩

/-! ### Branches -/

theorem operandCode_branchIfZero (condition : Record) (s : Session) (k : Nat) :
    (branchIfZero condition).operandCode s k =
      (condition.place.code (.turn k) ++ [.lw (.t 0) (condition.place.operand (.turn k))]) ++
        [.beqz (.t 0) (generatedName .branchLabel s.environment.drawn)] := by
  simp [operandCode, use, operands, Place.inTurn]

theorem locate?_of_branchIfZero {condition : Record} {label : String} {s t : Journaled Session}
    (h : Session.branchIfZero condition s = .ok label t) (m : Machine) :
    ∃ a, condition.place.locate? m = some a := by
  obtain ⟨_, s₁, -, h⟩ := bind_eq_ok h
  obtain ⟨_, s₂, hsource, h⟩ := bind_eq_ok h
  exact (operand_eq_ok hsource).2 m

/-- The lines in front of the branch load the value of the condition. -/
theorem tests_branchIfZero (hs : Reachable s) {condition : Record}
    (hok : ((branchIfZero condition).perform s).1 = .ok reply) :
    ∃ name test, reply = .label name ∧ Outline.Straight test ∧
      ((branchIfZero condition).perform s).2.state.body =
        s.state.body ++ (test ++ [Outline.exit name]) ∧
      ∀ m : Machine, ∃ n, Asm.run test m = some n ∧ m.Alike n ∧
        condition.place.load? m = some (n.reg (.t 0)) := by
  obtain ⟨journal, hrule⟩ := rule_of_answer hok
  obtain ⟨name, t, hbranch, hreply⟩ := bind_eq_ok hrule
  cases hreply
  obtain ⟨rfl, -, test, htest, hbody⟩ := branchIfZero_eq_ok hbranch
  obtain ⟨k, hcode⟩ := hs.operands_ready hok nofun
  rw [operandCode_branchIfZero, Session.code, Session.code, hbody, List.filter_append,
    List.filter_append, List.map_append] at hcode
  have hload := List.append_cancel_right (List.append_cancel_left hcode)
  refine ⟨_, test, rfl, htest, hbody, ?_⟩
  intro m
  obtain ⟨a, ha⟩ := locate?_of_branchIfZero hbranch m
  obtain ⟨n, hrun, halike, haddress, -⟩ := Place.run_code ha (.turn k)
  refine ⟨n.set (.t 0) (n.mem a), ?_, halike.then_set 0 _, ?_⟩
  · rw [← run_filter_isCode, hload, run_instructions, runCode_append, hrun]
    simp [runCode, Instruction.exec, haddress]
  · rw [Place.load?_of_locate? ha, halike.mem_eq, Machine.reg_set_t]

/-- Where the lines stand in a program, the branch goes by the word in `$t0`. -/
theorem flow_exit {test program : List Line} {name : String} {m n : Machine} {p : Nat}
    (htest : Outline.Straight test) (hrun : Asm.run test m = some n)
    (hat : At program p (test ++ [Outline.exit name])) :
    Reaches Machine.interpretation program p m (p + test.length) n ∧
      ∀ next after, Flow Machine.interpretation program (p + test.length) n next after ↔
        (if n.reg (.t 0) = 0 then program[next]? = some (.label name)
          else next = p + test.length + 1) ∧ after = n := by
  constructor
  · have hreaches := reaches_straight (I := Machine.interpretation) htest hat.left m
    rw [Machine.effects_of_run hrun] at hreaches
    exact hreaches
  · intro next after
    rw [flow_iff hat.right.head]
    simp [Leads, Machine.interpretation]

end Action

/-- **Everything that uses a record finds its cell in the same way.**  The cell is
    that at the offset of the record, or that at the offset kept there.  Assignment
    stores the value designated before into the target and changes no other cell;
    input stores what the console answers; output passes the value, or the address
    of a text, to the console and changes no cell; a branch goes to its label just
    when the value is zero, and changes no cell either. -/
theorem records_designate_cells {s : Journaled Session} (hs : Reachable s) :
    (∀ target value reply, ((Action.assign target value).perform s).1 = .ok reply →
      (Action.assign target value).Does s fun m n => ∃ a v,
        target.place.locate? m = some a ∧ value.place.load? m = some v ∧
        n.mem = Function.update m.mem a v ∧ n.calls = m.calls) ∧
    (∀ target reply, ((Action.read target).perform s).1 = .ok reply →
      (Action.read target).Does s fun m n => ∃ a service argument,
        target.place.locate? m = some a ∧
        ((target.type = .int ∧ service = 5) ∨ (target.type = .char ∧ service = 12)) ∧
        n.mem = Function.update m.mem a (m.answers m.calls.length) ∧
        n.calls = m.calls ++ [(BitVec.ofNat 32 service, argument)]) ∧
    (∀ value reply, (∀ label, value.place ≠ .label label) →
      ((Action.write value).perform s).1 = .ok reply →
      (Action.write value).Does s fun m n => ∃ v service,
        value.place.load? m = some v ∧
        ((value.type = .int ∧ service = 1) ∨ (value.type = .char ∧ service = 11)) ∧
        n.mem = m.mem ∧ n.calls = m.calls ++ [(BitVec.ofNat 32 service, v)]) ∧
    (∀ type label reply, ((Action.write ⟨type, .label label⟩).perform s).1 = .ok reply →
      (Action.write ⟨type, .label label⟩).Does s fun m n =>
        n.mem = m.mem ∧ n.calls = m.calls ++ [(4, m.labels label)]) ∧
    ∀ condition reply, ((Action.branchIfZero condition).perform s).1 = .ok reply →
      ∃ name test, reply = .label name ∧ Outline.Straight test ∧
        ((Action.branchIfZero condition).perform s).2.state.body =
          s.state.body ++ (test ++ [Outline.exit name]) ∧
        ∀ m : Machine, ∃ v n, condition.place.load? m = some v ∧ run test m = some n ∧
          n.reg .sp = m.reg .sp ∧ n.mem = m.mem ∧ n.calls = m.calls ∧
          ∀ program p, At program p (test ++ [Outline.exit name]) →
            Reaches Machine.interpretation program p m (p + test.length) n ∧
            ∀ next after, Flow Machine.interpretation program (p + test.length) n next after ↔
              (if v = 0 then program[next]? = some (.label name)
                else next = p + test.length + 1) ∧ after = n := by
  refine ⟨fun _ _ _ => Action.does_assign hs, fun _ _ => Action.does_read hs,
    fun _ _ => Action.does_write hs, fun _ _ _ => Action.does_write_label, ?_⟩
  intro condition reply hok
  obtain ⟨name, test, hreply, htest, hbody, htests⟩ := Action.tests_branchIfZero hs hok
  refine ⟨name, test, hreply, htest, hbody, ?_⟩
  intro m
  obtain ⟨n, hrun, halike, hvalue⟩ := htests m
  exact ⟨_, n, hvalue, hrun, halike.sp_eq, halike.mem_eq, halike.calls_eq,
    fun program p hat => Action.flow_exit htest hrun hat⟩

-- The index is assigned to the third of three elements.
set_option maxRecDepth 4000 in
theorem records_designate_cells_of_element :
    let s := (Action.run [.enterScope, .declare "int" "a[3]", .declare "int" "i", .resolve "a[i]"]
      { state := Session.start {} }).2
    let action := Action.assign ⟨.int, .indirect (-16)⟩ ⟨.int, .stack (-12)⟩
    (action.perform s).1 = .ok .done ∧
    ∃ lines, (action.perform s).2.state.body = s.state.body ++ lines ∧
      ∀ m : Machine, m.cell (-16) = BitVec.ofInt 32 (-8) → ∃ n, run lines m = some n ∧
        n.cell (-8) = m.cell (-12) ∧ n.cell (-12) = m.cell (-12) := by
  intro s action
  have hreachable : Reachable s := ⟨_, _, _, rfl⟩
  have hok : (action.perform s).1 = .ok .done := by
    unfold s action
    decide +kernel
  clear_value s
  obtain ⟨lines, hbody, hlines⟩ := (records_designate_cells hreachable).1 _ _ _ hok
  refine ⟨hok, lines, hbody, fun m hoffset => ?_⟩
  obtain ⟨n, hrun, hsp, a, v, ha, hv, hmem, -⟩ := hlines m
  have hcell : Place.locate? m (.indirect (-16)) = some (m.slot (-8)) := by
    simp only [Place.locate?, hoffset]
    rfl
  have htarget : a = m.slot (-8) := Option.some.inj (ha.symm.trans hcell)
  have hindex : v = m.cell (-12) := (Option.some.inj hv).symm
  have hslot : ∀ offset, n.slot offset = m.slot offset := fun offset => by
    simp only [Machine.slot, hsp]
  refine ⟨n, hrun, ?_, ?_⟩
  · rw [Machine.cell, hslot, hmem, htarget, Function.update_self, hindex]
  · have hne := m.slot_ne (x := -12) (y := -8) (by decide) (by decide) (by decide)
    rw [Machine.cell, hslot, hmem, htarget, Function.update_of_ne hne]
    rfl

end OnePass
