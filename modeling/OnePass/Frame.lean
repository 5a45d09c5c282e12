/-
  OnePass/Frame.lean
  ==================
  **The stack frame** — one flat frame for the whole program.

  Offsets start at 0 and only go down, so a word is never given out twice, also
  after the scope that owned it is gone.  A request that would leave the range
  of offsets is refused and moves nothing.
-/
import OnePass.Offset
import OnePass.Step

namespace OnePass

/-- The words given out so far. -/
structure Frame where
  /-- The offset of the next word to give out. -/
  cursor : Int := 0
  deriving DecidableEq

namespace Frame

/-- The frame with more words given out, if they fit. -/
def grow? (frame : Frame) (words : Nat) : Option Frame := (below? frame.cursor words).map Frame.mk

def sizeBytes (frame : Frame) : Nat := frame.cursor.natAbs

/-- Gives out words and returns the offset of the first. -/
def allocate (words : Nat) : Step Frame Int := do
  let frame ← Step.current
  match frame.grow? words with
  | none => Step.fail (.frameOverflow words)
  | some grown =>
    Step.replace grown
    Step.report (.allocated words frame.cursor grown.cursor)
    return frame.cursor

/-! ### What an allocation does -/

/-- A frame grows exactly to the cursor that many words below, if that is an
    offset and the distance is one too. -/
theorem grow?_eq_some_iff {frame grown : Frame} {words : Nat} :
    frame.grow? words = some grown ↔
      grown.cursor = frame.cursor - 4 * words ∧ 4 * words ≤ 2147483647 ∧
        FitsWord grown.cursor := by
  rcases grown with ⟨cursor⟩
  simp only [grow?, Option.map_eq_some_iff, Frame.mk.injEq, exists_eq_right]
  exact below?_eq_some_iff

theorem allocate_of_room {s : Journaled Frame} {words : Nat} {grown : Frame}
    (h : s.state.grow? words = some grown) :
    allocate words s =
      .ok s.state.cursor
        ⟨grown, s.journal.add (.allocated words s.state.cursor grown.cursor)⟩ := by
  unfold allocate
  rw [Step.bind_apply_of_ok (Step.current_apply s), h]
  rfl

/-- A refused request leaves the frame and the journal as they were. -/
theorem allocate_of_no_room {s : Journaled Frame} {words : Nat}
    (h : s.state.grow? words = none) : allocate words s = .error (.frameOverflow words) s := by
  unfold allocate
  rw [Step.bind_apply_of_ok (Step.current_apply s), h]
  rfl

end Frame

end OnePass
