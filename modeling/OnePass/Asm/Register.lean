/-
  OnePass/Asm/Register.lean
  =========================
  **Machine registers** — the registers the emitted code names.

  Seven of the ten temporaries, `$t3` to `$t9`, may hold the address of an array
  element while one instruction uses it.  They have a type of their own, so
  that an operand can only go through one of them.
-/

namespace OnePass.Asm

/-! Numerals stand for indices of registers, with the zero of `Nat` its numerals give. -/

instance (priority := high) neZero_seven : @NeZero Nat Zero.ofOfNat0 7 := ⟨by decide⟩

instance (priority := high) neZero_ten : @NeZero Nat Zero.ofOfNat0 10 := ⟨by decide⟩

/-- A register of the machine. -/
inductive Register where
  | zero
  | v0
  | a0
  | sp
  | t (index : Fin 10)
  deriving DecidableEq

def Register.name : Register → String
  | zero => "$zero"
  | v0 => "$v0"
  | a0 => "$a0"
  | sp => "$sp"
  | t index => "$t" ++ toString index.val

/-- One of the registers that may hold the address of an operand. -/
structure AddressRegister where
  index : Fin 7
  deriving DecidableEq

namespace AddressRegister

/-- The machine register behind it: `$t3` is the first, `$t9` the last. -/
def register (r : AddressRegister) : Register :=
  .t ⟨r.index.val + 3, by omega⟩

/-- The operand that goes through the register. -/
def indirect (r : AddressRegister) : String := "(" ++ r.register.name ++ ")"

theorem register_injective {r s : AddressRegister} (h : r.register = s.register) : r = s := by
  rcases r with ⟨⟨i, hi⟩⟩
  rcases s with ⟨⟨j, hj⟩⟩
  simp only [register, Register.t.injEq, Fin.mk.injEq] at h
  simp only [AddressRegister.mk.injEq, Fin.mk.injEq]
  omega

end AddressRegister

end OnePass.Asm
