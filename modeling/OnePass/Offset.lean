/-
  OnePass/Offset.lean
  ===================
  **Offsets** — byte offsets from the stack pointer.

  Offsets are integers of a signed 32-bit word.  A place some words below
  another exists only if the distance in bytes and the new offset are both in
  that range; nothing wraps around.
-/

namespace OnePass

/-- The integers of a signed 32-bit word. -/
abbrev FitsWord (n : Int) : Prop := -2147483648 ≤ n ∧ n ≤ 2147483647

def wordSize : Nat := 4

/-- The bytes a number of stack words takes. -/
def bytesOf (words : Nat) : Int := ↑(wordSize * words)

/-- The offset a number of words below another one. -/
def below? (offset : Int) (words : Nat) : Option Int :=
  if FitsWord (bytesOf words) ∧ FitsWord (offset - bytesOf words) then
    some (offset - bytesOf words)
  else none

@[simp] theorem bytesOf_eq (words : Nat) : bytesOf words = 4 * words := by
  simp [bytesOf, wordSize]

theorem below?_eq_some_iff {offset place : Int} {words : Nat} :
    below? offset words = some place ↔
      place = offset - 4 * words ∧ 4 * words ≤ 2147483647 ∧ FitsWord place := by
  unfold below?
  split
  · next h =>
    simp only [FitsWord, bytesOf_eq, Option.some.injEq] at h ⊢
    omega
  · next h =>
    simp only [FitsWord, bytesOf_eq, reduceCtorEq, false_iff] at h ⊢
    omega

/-- Below an offset that is not positive there is room exactly if the distance
    is in range and the new offset is not below the range. -/
theorem below?_eq_none_iff {offset : Int} {words : Nat} (h : offset ≤ 0) :
    below? offset words = none ↔
      2147483647 < 4 * words ∨ offset - 4 * words < -2147483648 := by
  unfold below?
  split
  · next room =>
    simp only [FitsWord, bytesOf_eq, reduceCtorEq, false_iff] at room ⊢
    omega
  · next room =>
    simp only [FitsWord, bytesOf_eq, true_iff] at room ⊢
    omega

/-- Below an offset that is not positive a place is in range unless it is below the
    range or too many words away. -/
theorem below?_of_nonpos {offset : Int} {words : Nat} (h : offset ≤ 0) :
    below? offset words =
      if words ≤ 536870911 ∧ -2147483648 ≤ offset - 4 * words then some (offset - 4 * words)
      else none := by
  split
  · next hplace =>
    refine below?_eq_some_iff.mpr ⟨rfl, by omega, ?_⟩
    simp only [FitsWord]
    omega
  · next hplace =>
    rw [below?_eq_none_iff h]
    omega

end OnePass
