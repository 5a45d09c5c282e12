/-
  OnePass/Proofs/Allocation.lean
  ==============================
  **Requests to the frame** — which words are given out, and which are refused.

  A frame is asked for words in turn, and goes on after a refusal.  Its cursor
  starts at 0 and only goes down.  A request is granted if the place that many
  words below the cursor is an offset, but for one request: all words from 0 to
  the lowest offset at once.  The lowest offset is in range then, but the number
  of bytes up to it is not.

  What is granted is stacked downwards: each grant starts where the one before it
  ends, and the cursor is the end of the last.  So no word is granted twice and
  none is left out, and a refusal, which moves nothing, might as well not have
  been asked for.
-/
import OnePass.Proofs.Outcome
import Mathlib

namespace OnePass

open Step

namespace Frame

variable {s : Journaled Frame} {words : Nat}

/-- The answers to requests for words, and the frame after them; a refusal does
    not keep the next request from being made. -/
def run : List Nat → Journaled Frame → List (Except Fault Int) × Journaled Frame
  | [], s => ([], s)
  | words :: rest, s =>
    let (answer, t) := (allocate words).perform s
    let (answers, u) := run rest t
    (answer :: answers, u)

/-! ### One request -/

theorem perform_of_room {grown : Frame} (h : s.state.grow? words = some grown) :
    ((allocate words).perform s).1 = .ok s.state.cursor ∧
      ((allocate words).perform s).2.state = grown := by
  rw [Step.perform, allocate_of_room h]
  exact ⟨rfl, rfl⟩

theorem perform_of_no_room (h : s.state.grow? words = none) :
    (allocate words).perform s = (.error (.frameOverflow words), s) := by
  rw [Step.perform, allocate_of_no_room h]

/-- A request is refused and nothing happens, or it is granted and the cursor moves
    to the place below the words, which is an offset. -/
theorem perform_cases (words : Nat) (s : Journaled Frame) :
    (allocate words).perform s = (.error (.frameOverflow words), s) ∨
      ∃ t, (allocate words).perform s = (.ok s.state.cursor, t) ∧
        t.state.cursor = s.state.cursor - 4 * words ∧ FitsWord t.state.cursor := by
  cases hroom : s.state.grow? words with
  | none => exact Or.inl (perform_of_no_room hroom)
  | some grown =>
    obtain ⟨hanswer, hleft⟩ := perform_of_room hroom
    obtain ⟨hcursor, -, hfits⟩ := grow?_eq_some_iff.mp hroom
    rw [← hleft] at hcursor hfits
    exact Or.inr ⟨_, Prod.ext hanswer rfl, hcursor, hfits⟩

theorem state_of_refused {cause : Fault} (h : ((allocate words).perform s).1 = .error cause) :
    ((allocate words).perform s).2 = s := by
  rcases perform_cases words s with hrefused | ⟨t, hgranted, -, -⟩
  · rw [hrefused]
  · rw [hgranted] at h
    cases h

/-- Below a cursor that is not positive there is room if the place behind the words
    is an offset, unless all offsets are asked for at once. -/
theorem isSome_grow?_iff {frame : Frame} (h : frame.cursor ≤ 0) :
    (frame.grow? words).isSome = true ↔
      FitsWord (frame.cursor - 4 * words) ∧ ¬ (frame.cursor = 0 ∧ words = 536870912) := by
  rw [← Option.ne_none_iff_isSome, grow?, ne_eq, Option.map_eq_none_iff, below?_eq_none_iff h]
  simp only [FitsWord]
  omega

/-- A request is granted if the cursor stays above the lowest offset. -/
theorem answer_of_above (h : s.state.cursor ≤ 0)
    (habove : -2147483648 < s.state.cursor - 4 * words) :
    ((allocate words).perform s).1 = .ok s.state.cursor := by
  have hroom : (s.state.grow? words).isSome = true := by
    rw [isSome_grow?_iff h]
    simp only [FitsWord]
    omega
  obtain ⟨grown, hgrown⟩ := Option.isSome_iff_exists.mp hroom
  exact (perform_of_room hgrown).1

/-! ### Words that were granted -/

/-- Words given out at once: the offset of the first, and how many there are. -/
structure Grant where
  offset : Int
  words : Nat

namespace Grant

/-- The offsets of the words. -/
def places (grant : Grant) : Set Int := {place | ∃ k < grant.words, place = grant.offset - 4 * k}

/-- What a request for words gets by its answer. -/
def ofAnswer? : Nat × Except Fault Int → Option Grant
  | (words, .ok offset) => some ⟨offset, words⟩
  | (_, .error _) => none

theorem mem_places_iff {grant : Grant} {place : Int} :
    place ∈ grant.places ↔
      4 ∣ grant.offset - place ∧ grant.offset - 4 * grant.words < place ∧
        place ≤ grant.offset := by
  constructor
  · rintro ⟨k, hk, rfl⟩
    omega
  · rintro ⟨hdvd, hlt, hle⟩
    exact ⟨((grant.offset - place) / 4).toNat, by omega, by omega⟩

end Grant

/-- The words of grants together. -/
def totalWords (grants : List Grant) : Nat := (grants.map Grant.words).sum

/-- Grants from an offset down to another one, each directly below the one before. -/
inductive Stacked : Int → List Grant → Int → Prop
  | nil {top : Int} : Stacked top [] top
  | cons {top bottom : Int} {words : Nat} {rest : List Grant}
      (hrest : Stacked (top - 4 * words) rest bottom) : Stacked top (⟨top, words⟩ :: rest) bottom

namespace Stacked

variable {top bottom : Int} {grants : List Grant}

theorem bottom_eq (h : Stacked top grants bottom) : bottom = top - 4 * totalWords grants := by
  induction h with
  | nil => simp [totalWords]
  | cons _ ih =>
    simp only [totalWords, List.map_cons, List.sum_cons] at ih ⊢
    omega

/-- The grants leave no word out. -/
theorem exists_mem_places_iff (h : Stacked top grants bottom) (place : Int) :
    (∃ grant ∈ grants, place ∈ grant.places) ↔
      4 ∣ top - place ∧ bottom < place ∧ place ≤ top := by
  induction h with
  | nil =>
    simp only [List.not_mem_nil, false_and, exists_false, false_iff]
    omega
  | cons hrest ih =>
    -- the words of the first grant end where those of the others start
    have hbottom := hrest.bottom_eq
    rw [List.exists_mem_cons_iff, Grant.mem_places_iff, ih]
    dsimp only
    omega

/-- All later grants are below the first, so no two of them share a word. -/
theorem pairwise_disjoint (h : Stacked top grants bottom) :
    grants.Pairwise fun a b => Disjoint a.places b.places := by
  induction h with
  | nil => exact .nil
  | cons hrest ih =>
    refine .cons (fun grant hgrant => Set.disjoint_left.mpr fun place hfirst hlater => ?_) ih
    obtain ⟨-, habove, -⟩ := Grant.mem_places_iff.mp hfirst
    dsimp only at habove
    obtain ⟨-, -, hbelow⟩ := (hrest.exists_mem_places_iff place).mp ⟨grant, hgrant, hlater⟩
    omega

end Stacked

/-! ### All requests -/

/-- Requests, each with its answer. -/
def transcript (requests : List Nat) (s : Journaled Frame) : List (Nat × Except Fault Int) :=
  requests.zip (run requests s).1

/-- What was granted to requests, in order. -/
def granted (requests : List Nat) (s : Journaled Frame) : List Grant :=
  (transcript requests s).filterMap Grant.ofAnswer?

theorem run_cons (words : Nat) (rest : List Nat) (s : Journaled Frame) :
    run (words :: rest) s =
      (((allocate words).perform s).1 :: (run rest ((allocate words).perform s).2).1,
        (run rest ((allocate words).perform s).2).2) :=
  rfl

theorem transcript_cons (words : Nat) (rest : List Nat) (s : Journaled Frame) :
    transcript (words :: rest) s =
      (words, ((allocate words).perform s).1) :: transcript rest ((allocate words).perform s).2 :=
  rfl

theorem stacked_granted (requests : List Nat) (s : Journaled Frame) :
    Stacked s.state.cursor (granted requests s) (run requests s).2.state.cursor := by
  induction requests generalizing s with
  | nil => exact .nil
  | cons words rest ih =>
    rw [granted, transcript_cons, run_cons]
    rcases perform_cases words s with hrefused | ⟨t, hgranted, hcursor, -⟩
    · rw [hrefused]
      exact ih s
    · -- the rest is asked of the frame whose cursor is below this grant
      rw [hgranted]
      refine .cons ?_
      rw [← hcursor]
      exact ih t

theorem cursor_le_run (requests : List Nat) (s : Journaled Frame) :
    (run requests s).2.state.cursor ≤ s.state.cursor := by
  have hbottom := (stacked_granted requests s).bottom_eq
  omega

theorem fits_run (requests : List Nat) {s : Journaled Frame} (h : FitsWord s.state.cursor) :
    FitsWord (run requests s).2.state.cursor := by
  induction requests generalizing s with
  | nil => exact h
  | cons words rest ih =>
    rw [run_cons]
    rcases perform_cases words s with hrefused | ⟨t, hgranted, -, hfits⟩
    · rw [hrefused]
      exact ih h
    · rw [hgranted]
      exact ih hfits

/-- Without the requests that were refused the others get the same answers, and
    leave the same. -/
theorem run_filter_isOk (requests : List Nat) (s : Journaled Frame) :
    let kept := (transcript requests s).filter (·.2.isOk)
    run (kept.map Prod.fst) s = (kept.map Prod.snd, (run requests s).2) := by
  induction requests generalizing s with
  | nil => rfl
  | cons words rest ih =>
    intro kept
    unfold kept
    rw [transcript_cons, run_cons]
    rcases perform_cases words s with hrefused | ⟨t, hgranted, -, -⟩
    · rw [hrefused]
      exact ih s
    · rw [hgranted, List.filter_cons_of_pos rfl, List.map_cons, List.map_cons, run_cons, hgranted,
        ih t]

/-- **Words are given out whenever there is room, with one exception.**  Whatever
    was asked of a frame before, a request succeeds if and only if the place below
    its words is an offset, unless it asks a frame in which nothing is taken for
    all 536870912 words there are.  It answers the cursor and moves it to just
    that place; a request that is refused moves nothing. -/
theorem allocate_exactly (level : Option Severity) (requests : List Nat) (words : Nat) :
    let s := (run requests { state := {}, journal := { level } }).2
    let place := s.state.cursor - 4 * (words : Int)
    let answer := ((allocate words).perform s).1
    let t := ((allocate words).perform s).2
    (FitsWord place ↔ -2147483648 ≤ place) ∧
      ((∃ offset, answer = .ok offset) ↔
        FitsWord place ∧ ¬ (s.state.cursor = 0 ∧ words = 536870912)) ∧
      (∀ offset, answer = .ok offset → offset = s.state.cursor ∧ t.state.cursor = place) ∧
      ∀ cause, answer = .error cause → cause = .frameOverflow words ∧ t.state = s.state := by
  intro s place answer t
  have hcursor : s.state.cursor ≤ 0 := cursor_le_run requests _
  have hsome : (s.state.grow? words).isSome = true ↔
      FitsWord place ∧ ¬ (s.state.cursor = 0 ∧ words = 536870912) := isSome_grow?_iff hcursor
  refine ⟨?_, ?_⟩
  · simp only [FitsWord, place]
    omega
  cases hroom : s.state.grow? words with
  | none =>
    have hrefused : answer = .error (.frameOverflow words) ∧ t.state = s.state := by
      unfold answer t
      rw [perform_of_no_room hroom]
      exact ⟨rfl, rfl⟩
    rw [hroom] at hsome
    rw [hrefused.1, ← hsome]
    refine ⟨iff_of_false nofun nofun, nofun, ?_⟩
    rintro _ ⟨⟩
    exact ⟨rfl, hrefused.2⟩
  | some grown =>
    obtain ⟨hanswer, ht⟩ := perform_of_room hroom
    have hgranted : answer = .ok s.state.cursor := hanswer
    have hleft : t.state = grown := ht
    rw [hroom] at hsome
    rw [hgranted, hleft, ← hsome]
    refine ⟨iff_of_true ⟨_, rfl⟩ rfl, ?_, nofun⟩
    rintro _ ⟨⟩
    exact ⟨rfl, (grow?_eq_some_iff.mp hroom).1⟩

-- All words there are, in two requests.
example : (run [536870911, 1, 1] { state := {} }).1 =
    [.ok 0, .ok (-2147483644), .error (.frameOverflow 1)] := by decide +kernel

-- The same words in one request; the place below them is the lowest offset.
theorem whole_range_refused :
    let s : Journaled Frame := { state := {} }
    let result := (allocate 536870912).perform s
    FitsWord (s.state.cursor - 4 * (536870912 : Nat)) ∧
      result.1 = .error (.frameOverflow 536870912) ∧ result.2.state = s.state := by
  decide +kernel

/-- **No word is given out twice, and none is left out.**  Whatever is asked of a new
    frame, no word is among those of two granted requests, and together they have the
    words from offset 0 down to the one above the cursor.  A request that is refused
    changes nothing, so if those that were refused are not made at all, the others are
    answered as before; and one that leaves words over is not refused.  The size of
    the frame is four bytes for every word that was granted and at most 2147483648,
    which it is when the cursor is at the lowest offset. -/
theorem words_granted_once (level : Option Severity) (requests : List Nat) :
    let start : Journaled Frame := { state := {}, journal := { level } }
    let s := (run requests start).2
    let kept := (transcript requests start).filter (·.2.isOk)
    ((granted requests start).Pairwise fun a b => Disjoint a.places b.places) ∧
      (∀ place : Int, (∃ grant ∈ granted requests start, place ∈ grant.places) ↔
        4 ∣ place ∧ s.state.cursor + 4 ≤ place ∧ place ≤ 0) ∧
      (∀ words cause, ((allocate words).perform s).1 = .error cause →
        ((allocate words).perform s).2 = s) ∧
      (∀ words, totalWords (granted requests start) + words < 536870912 →
        ((allocate words).perform s).1 = .ok s.state.cursor) ∧
      run (kept.map Prod.fst) start = (kept.map Prod.snd, s) ∧
      s.state.sizeBytes = 4 * totalWords (granted requests start) ∧
      s.state.sizeBytes ≤ 2147483648 ∧
      s.state.cursor = -(s.state.sizeBytes : Int) := by
  intro start s kept
  have hstacked : Stacked 0 (granted requests start) s.state.cursor :=
    stacked_granted requests start
  have hcursor := hstacked.bottom_eq
  have hfits : FitsWord s.state.cursor := fits_run requests (show FitsWord 0 by decide)
  have hsize : s.state.sizeBytes = s.state.cursor.natAbs := rfl
  refine ⟨hstacked.pairwise_disjoint, fun place => ?_, fun _ _ => state_of_refused,
    fun words hleft => answer_of_above ?_ ?_, run_filter_isOk requests start, ?_, ?_, ?_⟩
  · rw [hstacked.exists_mem_places_iff]
    omega
  all_goals omega

-- Requests for nothing, for too much, and down to the lowest offset.
example :
    let asked := run [0, 536870911, 4294967295, 2, 1, 1, 0] { state := {} }
    asked.1 = [.ok 0, .ok 0, .error (.frameOverflow 4294967295), .error (.frameOverflow 2),
        .ok (-2147483644), .error (.frameOverflow 1), .ok (-2147483648)] ∧
      asked.2.state.cursor = -2147483648 ∧ asked.2.state.sizeBytes = 2147483648 := by
  decide +kernel

end Frame

end OnePass
