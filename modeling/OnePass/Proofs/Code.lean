/-
  OnePass/Proofs/Code.lean
  ========================
  **What pieces of code compute** — addresses of operands, operators, offsets of
  array elements and literals.

  Each piece works in scratch registers and leaves everything else of the
  machine as it was, but for the one slot it writes.  Whatever goes through an
  address register keeps its address while the code of another operand runs.
-/
import OnePass.Proofs.Machine
import OnePass.Record

namespace OnePass

open Asm Session

/-! ### Scratch registers -/

/-- The machines differ in registers only, and agree on the stack pointer. -/
structure Asm.Machine.Alike (m n : Machine) : Prop where
  mem_eq : n.mem = m.mem
  sp_eq : n.reg .sp = m.reg .sp
  labels_eq : n.labels = m.labels
  answers_eq : n.answers = m.answers
  calls_eq : n.calls = m.calls

namespace Asm.Machine.Alike

variable {m n o : Machine}

theorem refl (m : Machine) : Alike m m := ⟨rfl, rfl, rfl, rfl, rfl⟩

theorem trans (h : Alike m n) (h' : Alike n o) : Alike m o where
  mem_eq := h'.mem_eq.trans h.mem_eq
  sp_eq := h'.sp_eq.trans h.sp_eq
  labels_eq := h'.labels_eq.trans h.labels_eq
  answers_eq := h'.answers_eq.trans h.answers_eq
  calls_eq := h'.calls_eq.trans h.calls_eq

theorem set (m : Machine) (i : Fin 10) (value : Word) : Alike m (m.set (.t i) value) :=
  ⟨rfl, m.reg_set_of_ne (.t i) .sp value nofun, rfl, rfl, rfl⟩

theorem then_set (h : Alike m n) (i : Fin 10) (value : Word) : Alike m (n.set (.t i) value) :=
  h.trans (.set n i value)

theorem store (h : Alike m n) (a value : Word) : Alike (m.store a value) (n.store a value) where
  mem_eq := by simp only [Machine.store, h.mem_eq]
  sp_eq := h.sp_eq
  labels_eq := h.labels_eq
  answers_eq := h.answers_eq
  calls_eq := h.calls_eq

theorem slot_eq (h : Alike m n) (offset : Int) : n.slot offset = m.slot offset := by
  simp only [slot, h.sp_eq]

theorem cell_eq (h : Alike m n) (offset : Int) : n.cell offset = m.cell offset := by
  simp only [cell, h.slot_eq, h.mem_eq]

end Asm.Machine.Alike

namespace Asm.AddressRegister

theorem register_ne_zero (r : AddressRegister) : r.register ≠ .zero := nofun

/-- The first three temporaries hold no addresses. -/
theorem register_ne_t (r : AddressRegister) {i : Fin 10} (h : i.val < 3) : r.register ≠ .t i := by
  intro heq
  simp only [register, Register.t.injEq] at heq
  subst heq
  have : r.index.val + 3 < 3 := h
  omega

theorem register_ne {r q : AddressRegister} (h : r ≠ q) : r.register ≠ q.register :=
  fun heq => h (register_injective heq)

end Asm.AddressRegister

/-! ### Operands -/

namespace Place

/-- The operand for a place; `r` is the address register to use. -/
def operand (r : AddressRegister) : Place → Operand
  | stack offset => .slot offset
  | indirect _ => .through r
  | label _ => .slot 0

/-- The code that makes the operand ready. -/
def code (r : AddressRegister) : Place → List Instruction
  | stack _ => []
  | indirect offset => addressCode offset r
  | label _ => []

def isIndirect : Place → Bool
  | indirect _ => true
  | _ => false

/-- The address of the cell a place designates. -/
def locate? (m : Machine) : Place → Option Word
  | stack offset => some (m.slot offset)
  | indirect offset => some (m.reg .sp + m.cell offset)
  | label _ => none

/-- The value in the cell a place designates. -/
def load? (m : Machine) (place : Place) : Option Word := (place.locate? m).map m.mem

theorem load?_of_locate? {m : Machine} {place : Place} {a : Word}
    (h : place.locate? m = some a) : place.load? m = some (m.mem a) := by
  rw [load?, h]
  rfl

theorem locate?_of_alike {m n : Machine} (h : m.Alike n) (place : Place) :
    place.locate? n = place.locate? m := by
  cases place <;> simp only [locate?, h.slot_eq, h.sp_eq, h.cell_eq]

theorem address_operand_eq {place : Place} {r : AddressRegister} {m n : Machine} (h : m.Alike n)
    (hreg : place.isIndirect = true → n.reg r.register = m.reg r.register) :
    n.address (place.operand r) = m.address (place.operand r) := by
  cases place with
  | stack offset => exact h.slot_eq offset
  | indirect offset => exact hreg rfl
  | label name => exact h.slot_eq 0

/-- The operand of a place has its address, and the other address registers keep
    theirs. -/
theorem run_code {place : Place} {m : Machine} {a : Word} (h : place.locate? m = some a)
    (r : AddressRegister) :
    ∃ n, runCode (place.code r) m = some n ∧ m.Alike n ∧ n.address (place.operand r) = a ∧
      ∀ q, q ≠ r → n.reg q.register = m.reg q.register := by
  cases place with
  | label name => cases h
  | stack offset =>
    cases h
    exact ⟨m, rfl, .refl m, rfl, fun _ _ => rfl⟩
  | indirect offset =>
    cases h
    have hfar := (Machine.Alike.set m 0 (m.reg .sp)).then_set 1 (m.cell offset)
    refine ⟨_, rfl, hfar.then_set _ _, ?_, fun q hq => ?_⟩
    · simp only [operand, Machine.address]
      rw [Machine.reg_set_self _ _ _ r.register_ne_zero]
      simp [Alu.apply, Machine.cell]
    · rw [Machine.reg_set_of_ne _ _ _ _ (AddressRegister.register_ne hq),
        Machine.reg_set_of_ne _ _ _ _ (q.register_ne_t (by decide)),
        Machine.reg_set_of_ne _ _ _ _ (q.register_ne_t (by decide))]

end Place

/-! ### Operators -/

namespace Operator

/-- What an operator means: comparisons are signed and give 0 or 1, sums,
    differences and products are taken modulo the word size, quotients are
    rounded toward zero, disjunction works bit by bit. -/
def value? : Operator → Word → Word → Option Word
  | less, a, b => some (if a.toInt < b.toInt then 1 else 0)
  | greater, a, b => some (if b.toInt < a.toInt then 1 else 0)
  | add, a, b => some (BitVec.ofInt 32 (a.toInt + b.toInt))
  | sub, a, b => some (BitVec.ofInt 32 (a.toInt - b.toInt))
  | mul, a, b => some (BitVec.ofInt 32 (a.toInt * b.toInt))
  | div, a, b => if b = 0 then none else some (BitVec.ofInt 32 (a.toInt.tdiv b.toInt))
  | equal, a, b => some (if a = b then 1 else 0)
  | or, a, b => some (a ||| b)
  | and, a, b => some (if a ≠ 0 ∧ b ≠ 0 then 1 else 0)

theorem run_alu (operation : Alu) (m : Machine) :
    ∃ n, runCode [.alu operation (.t 0) (.t 1) (.t 2)] m = some n ∧
      n.reg (.t 0) = operation.apply (m.reg (.t 1)) (m.reg (.t 2)) ∧ m.Alike n :=
  ⟨_, rfl, Machine.reg_set_t _ _ _, .set m _ _⟩

theorem run_wide {operation : Wide} {m : Machine} {v : Word}
    (h : operation.lo? (m.reg (.t 1)) (m.reg (.t 2)) = some v) :
    ∃ n, runCode [.wide operation (.t 1) (.t 2), .mflo (.t 0)] m = some n ∧
      n.reg (.t 0) = v ∧ m.Alike n := by
  have hlo : m.Alike { m with lo := v } := ⟨rfl, rfl, rfl, rfl, rfl⟩
  refine ⟨_, ?_, Machine.reg_set_t _ _ _, hlo.then_set 0 v⟩
  simp only [runCode, Instruction.exec, h, Option.map_some, Option.bind_some]

/-- The operands are first turned into 0 or 1. -/
theorem run_and (m : Machine) :
    ∃ n, runCode (code .and) m = some n ∧
      n.reg (.t 0) = (if m.reg (.t 1) ≠ 0 ∧ m.reg (.t 2) ≠ 0 then 1 else 0) ∧ m.Alike n := by
  have hfirst := Machine.Alike.set m 3 (Alu.apply .sne (m.reg (.t 1)) 0)
  have hboth := hfirst.then_set 4 (Alu.apply .sne (m.reg (.t 2)) 0)
  refine ⟨_, rfl, ?_, hboth.then_set 0 _⟩
  rw [Machine.reg_set_t]
  by_cases hleft : m.reg (.t 1) = 0#32 <;> by_cases hright : m.reg (.t 2) = 0#32 <;>
    simp [Alu.apply, hleft, hright]

theorem run_code {operator : Operator} {m : Machine} {v : Word}
    (h : operator.value? (m.reg (.t 1)) (m.reg (.t 2)) = some v) :
    ∃ n, runCode operator.code m = some n ∧ n.reg (.t 0) = v ∧ m.Alike n := by
  cases operator with
  | less =>
    cases h
    obtain ⟨n, hrun, hreg, halike⟩ := run_alu .slt m
    refine ⟨n, hrun, hreg.trans ?_, halike⟩
    simp only [Alu.apply, BitVec.slt_eq_decide, decide_eq_true_eq]
  | greater =>
    cases h
    obtain ⟨n, hrun, hreg, halike⟩ := run_alu .sgt m
    refine ⟨n, hrun, hreg.trans ?_, halike⟩
    simp only [Alu.apply, BitVec.slt_eq_decide, decide_eq_true_eq]
  | add =>
    cases h
    obtain ⟨n, hrun, hreg, halike⟩ := run_alu .add m
    refine ⟨n, hrun, hreg.trans ?_, halike⟩
    rw [Alu.apply, BitVec.ofInt_add, BitVec.ofInt_toInt, BitVec.ofInt_toInt]
  | sub =>
    cases h
    obtain ⟨n, hrun, hreg, halike⟩ := run_alu .sub m
    refine ⟨n, hrun, hreg.trans ?_, halike⟩
    rw [Alu.apply, Int.sub_eq_add_neg, BitVec.ofInt_add, BitVec.ofInt_neg, BitVec.ofInt_toInt,
      BitVec.ofInt_toInt, BitVec.sub_eq_add_neg]
  | mul =>
    cases h
    refine run_wide ?_
    rw [Wide.lo?, BitVec.ofInt_mul, BitVec.ofInt_toInt, BitVec.ofInt_toInt]
  | div =>
    refine run_wide ?_
    simp only [value?, Wide.lo?] at h ⊢
    split at h
    · cases h
    · next hne =>
      rw [if_neg hne, ← h]
      congr 1
      rw [← BitVec.toInt_inj, BitVec.toInt_sdiv, BitVec.toInt_ofInt]
  | equal =>
    cases h
    exact run_alu .seq m
  | or =>
    cases h
    exact run_alu .or m
  | and =>
    cases h
    exact run_and m

end Operator

/-! ### Code that writes a slot -/

theorem run_literal (value offset : Int) (m : Machine) :
    ∃ n, runCode [.li (.t 0) (.number value), .sw (.t 0) (.slot offset)] m = some n ∧
      (m.store (m.slot offset) (BitVec.ofInt 32 value)).Alike n := by
  refine ⟨_, rfl, ?_⟩
  have halike := (Machine.Alike.set m 0 (BitVec.ofInt 32 value)).store (m.slot offset)
    (BitVec.ofInt 32 value)
  simpa [Machine.address, Immediate.word] using halike

/-- Four times a word, as the machine computes it, from a base. -/
theorem ofInt_sub_double_double (base : Int) (c : Word) :
    BitVec.ofInt 32 base - (c + c + (c + c)) = BitVec.ofInt 32 (base - 4 * c.toInt) := by
  have hfour : base - 4 * c.toInt = base + -(c.toInt + c.toInt + (c.toInt + c.toInt)) := by omega
  rw [hfour, BitVec.ofInt_add, BitVec.ofInt_neg, BitVec.ofInt_add, BitVec.ofInt_add,
    BitVec.ofInt_toInt, BitVec.sub_eq_add_neg]

/-- The slot gets the offset of the element that the index selects. -/
theorem run_elementCode (base index slot : Int) (m : Machine) :
    ∃ n, runCode (elementCode base index slot) m = some n ∧
      (m.store (m.slot slot) (BitVec.ofInt 32 (base - 4 * (m.cell index).toInt))).Alike n := by
  refine ⟨_, rfl, ?_⟩
  rw [← ofInt_sub_double_double]
  generalize hc : m.cell index = c
  have hindex := ((Machine.Alike.set m 0 c).then_set 0 (c + c)).then_set 0 (c + c + (c + c))
  have hoffset := (hindex.then_set 1 (BitVec.ofInt 32 base)).then_set 0
    (BitVec.ofInt 32 base - (c + c + (c + c)))
  have hdone := hoffset.store (m.slot slot) (BitVec.ofInt 32 base - (c + c + (c + c)))
  have hload : m.mem (m.slot index) = c := hc
  simpa [Machine.address, Alu.apply, Immediate.word, hload] using hdone

/-- The code that applies an operator to the values at two places. -/
def applyCode (operator : Operator) (left right : Place) (r q : AddressRegister) (result : Int) :
    List Instruction :=
  left.code r ++ right.code q ++ [.lw (.t 1) (left.operand r), .lw (.t 2) (right.operand q)] ++
    operator.code ++ [.sw (.t 0) (.slot result)]

/-- The result slot gets the value of the operator; both operands are read
    before it is written. -/
theorem run_applyCode {operator : Operator} {left right : Place} {r q : AddressRegister}
    {m : Machine} {a b v : Word} (hrq : left.isIndirect = true → r ≠ q)
    (hleft : left.load? m = some a) (hright : right.load? m = some b)
    (hvalue : operator.value? a b = some v) (result : Int) :
    ∃ n, runCode (applyCode operator left right r q result) m = some n ∧
      (m.store (m.slot result) v).Alike n := by
  obtain ⟨x, hx, rfl⟩ := Option.map_eq_some_iff.mp hleft
  obtain ⟨y, hy, rfl⟩ := Option.map_eq_some_iff.mp hright
  obtain ⟨m₁, hrun₁, halike₁, haddress₁, -⟩ := Place.run_code hx r
  have hy₁ : right.locate? m₁ = some y := (Place.locate?_of_alike halike₁ right).trans hy
  obtain ⟨m₂, hrun₂, halike₂, haddress₂, hkept⟩ := Place.run_code hy₁ q
  have hlhs : m₂.address (left.operand r) = x :=
    (Place.address_operand_eq halike₂ fun hleft => hkept r (hrq hleft)).trans haddress₁
  have hloaded := halike₂.then_set 1 (m₂.mem x)
  have hrhs : (m₂.set (.t 1) (m₂.mem x)).address (right.operand q) = y := by
    refine (Place.address_operand_eq (.set m₂ 1 _) fun _ => ?_).trans haddress₂
    exact Machine.reg_set_of_ne _ _ _ _ (q.register_ne_t (by decide))
  obtain ⟨n, hrun, hreg, halike⟩ := Operator.run_code
    (m := (m₂.set (.t 1) (m₂.mem x)).set (.t 2) (m₂.mem y))
    (show operator.value? _ _ = some v by simpa [halike₂.mem_eq, halike₁.mem_eq] using hvalue)
  have hall := (halike₁.trans hloaded).then_set 2 (m₂.mem y) |>.trans halike
  refine ⟨n.store (n.slot result) (n.reg (.t 0)), ?_, ?_⟩
  · simp only [applyCode, runCode_append, hrun₁, hrun₂, Option.bind_some]
    simp only [runCode, Instruction.exec, Option.bind_some, hlhs, hrhs, Machine.mem_set, hrun]
    rfl
  · rw [hreg, hall.slot_eq]
    exact hall.store (m.slot result) v

end OnePass
