/-
  OnePass/Asm/Instruction.lean
  ============================
  **Instructions** — the part of the MIPS assembler's language that is emitted.

  Instructions are kept as data and written out by `text`, so that what a line
  does can be said without reading it back.  A memory operand is a byte offset
  from the stack pointer, or goes through a register that holds an address.
-/
import OnePass.Asm.Register

namespace OnePass.Asm

/-- A word in memory. -/
inductive Operand where
  /-- The word at a byte offset from the stack pointer. -/
  | slot (offset : Int)
  /-- The word whose address the register holds. -/
  | through (register : AddressRegister)
  deriving DecidableEq

def Operand.text : Operand → String
  | slot offset => toString offset ++ "($sp)"
  | through register => register.indirect

/-- A constant that is loaded into a register. -/
inductive Immediate where
  | number (value : Int)
  /-- The character that ends a line. -/
  | lineFeed
  deriving DecidableEq

def Immediate.text : Immediate → String
  | number value => toString value
  | lineFeed => "'\\n'"

/-- The operations on two registers whose result goes to a third. -/
inductive Alu where
  | add
  | sub
  | slt
  | sgt
  | seq
  | sne
  | or
  | and
  deriving DecidableEq

def Alu.name : Alu → String
  | add => "add"
  | sub => "sub"
  | slt => "slt"
  | sgt => "sgt"
  | seq => "seq"
  | sne => "sne"
  | or => "or"
  | and => "and"

/-- The operations whose result goes to the `LO` register. -/
inductive Wide where
  | mult
  | div
  deriving DecidableEq

def Wide.name : Wide → String
  | mult => "mult"
  | div => "div"

/-- The services the console offers through `syscall`. -/
inductive Service where
  | printInt
  | printString
  | readInt
  | printChar
  | readChar
  deriving DecidableEq

def Service.code : Service → Nat
  | printInt => 1
  | printString => 4
  | readInt => 5
  | printChar => 11
  | readChar => 12

/-- One instruction. -/
inductive Instruction where
  | lw (target : Register) (source : Operand)
  | sw (source : Register) (target : Operand)
  | li (target : Register) (value : Immediate)
  | la (target : Register) (label : String)
  | move (target source : Register)
  | alu (operation : Alu) (target left right : Register)
  | wide (operation : Wide) (left right : Register)
  | mflo (target : Register)
  | b (label : String)
  | beqz (condition : Register) (label : String)
  | syscall
  deriving DecidableEq

namespace Instruction

def text : Instruction → String
  | lw target source => "lw " ++ target.name ++ ", " ++ source.text
  | sw source target => "sw " ++ source.name ++ ", " ++ target.text
  | li target value => "li " ++ target.name ++ ", " ++ value.text
  | la target label => "la " ++ target.name ++ ", " ++ label
  | move target source => "move " ++ target.name ++ ", " ++ source.name
  | alu operation target left right =>
    operation.name ++ " " ++ target.name ++ ", " ++ left.name ++ ", " ++ right.name
  | wide operation left right => operation.name ++ " " ++ left.name ++ ", " ++ right.name
  | mflo target => "mflo " ++ target.name
  | b label => "b " ++ label
  | beqz condition label => "beqz " ++ condition.name ++ ", " ++ label
  | syscall => "syscall"

def select (service : Service) : Instruction := li .v0 (.number service.code)

end Instruction

end OnePass.Asm
