/-
  OnePass/AddressPool.lean
  ========================
  **The pool of address registers** — seven registers handed out in rotation.

  An operand that goes through a register holds it for one load or store.  The
  search for a free register starts behind the one handed out last, so that
  registers take turns.
-/
import OnePass.Step

namespace OnePass

open Asm

/-- Which address registers are held, and where the search starts. -/
structure AddressPool where
  held : Vector Bool 7 := .replicate 7 false
  next : Fin 7 := 0
  deriving DecidableEq

namespace AddressPool

def isHeld (pool : AddressPool) (r : AddressRegister) : Bool := pool.held[r.index]

def inUse (pool : AddressPool) : Nat := pool.held.count true

/-- All registers in the order in which they are tried. -/
def candidates (pool : AddressPool) : List AddressRegister :=
  (List.finRange 7).map fun i => ⟨pool.next + i⟩

def hold (pool : AddressPool) (r : AddressRegister) : AddressPool :=
  { held := pool.held.set r.index true, next := r.index + 1 }

/-- The first free register, and the pool in which it is held. -/
def acquire? (pool : AddressPool) : Option (AddressRegister × AddressPool) :=
  (pool.candidates.find? fun r => !pool.isHeld r).map fun r => (r, pool.hold r)

/-- The pool in which the register is free, whoever holds it. -/
def free (pool : AddressPool) (r : AddressRegister) : AddressPool :=
  { pool with held := pool.held.set r.index false }

def acquire : Step AddressPool AddressRegister := do
  match (← Step.current).acquire? with
  | none => Step.fail .registersExhausted
  | some (r, pool) =>
    Step.replace pool
    return r

def release (r : AddressRegister) : Step AddressPool Unit := do
  Step.replace ((← Step.current).free r)

/-! ### What the pool hands out -/

/-- Every register is tried. -/
theorem mem_candidates (pool : AddressPool) (r : AddressRegister) : r ∈ pool.candidates := by
  simp only [candidates, List.mem_map]
  exact ⟨r.index - pool.next, List.mem_finRange _, by
    rcases r with ⟨index⟩
    simp only [AddressRegister.mk.injEq]
    omega⟩

/-- The pool refuses only when every register is held. -/
theorem acquire?_eq_none_iff {pool : AddressPool} :
    pool.acquire? = none ↔ ∀ r, pool.isHeld r = true := by
  simp only [acquire?, Option.map_eq_none_iff, List.find?_eq_none]
  constructor
  · intro h r
    simpa using h r (pool.mem_candidates r)
  · intro h r _
    simp [h r]

end AddressPool

end OnePass
