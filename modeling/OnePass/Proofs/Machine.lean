/-
  OnePass/Proofs/Machine.lean
  ===========================
  **The machine** — what the emitted lines do when they are run.

  A machine has registers, the `LO` register and a memory of words.  Arithmetic
  is that of 32-bit words and wraps around.  `run` executes straight code: a
  branch has no place to go to here, and a division by zero no result.  All
  words the code of a session touches lie a multiple of four bytes from the
  stack pointer, so words at different addresses never overlap.
-/
import OnePass.Session.Console
import OnePass.Session.Flow
import OnePass.Session.Naming
import OnePass.Session.Values
import Mathlib.Logic.Function.Basic

namespace OnePass.Asm

/-- The content of a register or of a memory cell. -/
abbrev Word := BitVec 32

structure Machine where
  regs : Register → Word
  lo : Word
  mem : Word → Word
  /-- Where the assembler puts what a label names. -/
  labels : String → Word
  /-- What the console answers to each call, in order. -/
  answers : Nat → Word
  /-- The calls of the console so far: the service and its argument. -/
  calls : List (Word × Word)

namespace Machine

def reg (m : Machine) (r : Register) : Word := if r = .zero then 0 else m.regs r

def set (m : Machine) (r : Register) (value : Word) : Machine :=
  { m with regs := Function.update m.regs r value }

def store (m : Machine) (address value : Word) : Machine :=
  { m with mem := Function.update m.mem address value }

/-- The address of the word at an offset from the stack pointer. -/
def slot (m : Machine) (offset : Int) : Word := m.reg .sp + BitVec.ofInt 32 offset

def cell (m : Machine) (offset : Int) : Word := m.mem (m.slot offset)

def address (m : Machine) : Operand → Word
  | .slot offset => m.slot offset
  | .through r => m.reg r.register

/-- Calls the console for the service in `$v0`. -/
def call (m : Machine) : Machine :=
  { m with
    regs := Function.update m.regs .v0 (m.answers m.calls.length)
    calls := m.calls ++ [(m.reg .v0, m.reg .a0)] }

section Fields

variable (m : Machine) (r other : Register) (value a : Word)

@[simp] theorem reg_zero : m.reg .zero = 0 := rfl

@[simp] theorem reg_set_self (h : r ≠ .zero) : (m.set r value).reg r = value := by
  simp [reg, set, h]

@[simp] theorem reg_set_t (i : Fin 10) : (m.set (.t i) value).reg (.t i) = value :=
  m.reg_set_self (.t i) value nofun

@[simp] theorem reg_set_of_ne (h : other ≠ r) : (m.set r value).reg other = m.reg other := by
  simp [reg, set, h]

@[simp] theorem mem_set : (m.set r value).mem = m.mem := rfl

@[simp] theorem mem_store_self : (m.store a value).mem a = value := by simp [store]

theorem mem_store_of_ne {b : Word} (h : b ≠ a) : (m.store a value).mem b = m.mem b := by
  simp [store, h]

@[simp] theorem slot_set_of_ne (h : r ≠ .sp) (offset : Int) :
    (m.set r value).slot offset = m.slot offset := by
  simp [slot, h.symm]

end Fields

end Machine

/-! ### Execution -/

def Immediate.word : Immediate → Word
  | number value => BitVec.ofInt 32 value
  | lineFeed => 10

/-- What an operation on registers computes; comparisons are signed. -/
def Alu.apply : Alu → Word → Word → Word
  | add, a, b => a + b
  | sub, a, b => a - b
  | slt, a, b => if a.slt b then 1 else 0
  | sgt, a, b => if b.slt a then 1 else 0
  | seq, a, b => if a = b then 1 else 0
  | sne, a, b => if a ≠ b then 1 else 0
  | or, a, b => a ||| b
  | and, a, b => a &&& b

/-- What is in `LO` afterwards, if that is defined. -/
def Wide.lo? : Wide → Word → Word → Option Word
  | mult, a, b => some (a * b)
  | div, a, b => if b = 0 then none else some (a.sdiv b)

def Instruction.exec : Instruction → Machine → Option Machine
  | lw target source, m => some (m.set target (m.mem (m.address source)))
  | sw source target, m => some (m.store (m.address target) (m.reg source))
  | li target value, m => some (m.set target value.word)
  | la target label, m => some (m.set target (m.labels label))
  | move target source, m => some (m.set target (m.reg source))
  | alu operation target left right, m =>
    some (m.set target (operation.apply (m.reg left) (m.reg right)))
  | wide operation left right, m =>
    (operation.lo? (m.reg left) (m.reg right)).map fun lo => { m with lo }
  | mflo target, m => some (m.set target m.lo)
  | b _, _ => none
  | beqz _ _, _ => none
  | syscall, m => some m.call

def runCode : List Instruction → Machine → Option Machine
  | [], m => some m
  | i :: rest, m => (i.exec m).bind (runCode rest)

/-- Executes lines in order; labels and remarks do nothing. -/
def run : List Line → Machine → Option Machine
  | [], m => some m
  | .instruction i :: rest, m => (i.exec m).bind (run rest)
  | .label _ :: rest, m => run rest m
  | .remark _ :: rest, m => run rest m
  | .verbatim _ :: _, _ => none

theorem run_instructions (code : List Instruction) (m : Machine) :
    run (code.map .instruction) m = runCode code m := by
  induction code generalizing m with
  | nil => rfl
  | cons i rest ih =>
    simp only [List.map_cons, run, runCode]
    congr 1
    exact funext ih

theorem runCode_append (first second : List Instruction) (m : Machine) :
    runCode (first ++ second) m = (runCode first m).bind (runCode second) := by
  induction first generalizing m with
  | nil => rfl
  | cons i rest ih =>
    simp only [List.cons_append, runCode, Option.bind_assoc]
    congr 1
    exact funext ih

end OnePass.Asm
