/-
  OnePass/Proofs/Layout.lean
  ==========================
  **The layout of the frame** — the symbols of a session tile its frame.

  Symbols are numbered in the order in which they take their words, and words
  are given out downwards from offset 0.  So the offset of a symbol is told by
  the sizes of the symbols before it, and the cursor by the sizes of all.  Only
  a failing action can take words that belong to no symbol, which leaves a gap
  above the cursor and moves nothing else.
-/
import OnePass.Proofs.Reachable
import OnePass.Proofs.Spelling
import Mathlib

namespace OnePass

/-- The bytes a symbol owns: its first word is at its offset, the others below. -/
def Symbol.bytes (symbol : Symbol) : Set Int :=
  Set.Ico (symbol.offset - 4 * (symbol.words - 1)) (symbol.offset + 4)

/-- The words that symbols take together. -/
def wordsOf (symbols : List Symbol) : Nat := (symbols.map Symbol.words).sum

theorem wordsOf_append (first second : List Symbol) :
    wordsOf (first ++ second) = wordsOf first + wordsOf second := by
  simp [wordsOf]

theorem wordsOf_take_le (symbols : List Symbol) {i j : Nat} (h : i ≤ j) :
    wordsOf (symbols.take i) ≤ wordsOf (symbols.take j) := by
  have hsplit := congrArg wordsOf (List.take_append_drop i (symbols.take j))
  rw [wordsOf_append, List.take_take, Nat.min_eq_left h] at hsplit
  omega

theorem wordsOf_take_succ {symbols : List Symbol} {i : Nat} {symbol : Symbol}
    (h : symbols[i]? = some symbol) :
    wordsOf (symbols.take (i + 1)) = wordsOf (symbols.take i) + symbol.words := by
  rw [List.take_add_one, h, wordsOf_append]
  simp [wordsOf]

/-- Up to any place the symbols take no more than all of them. -/
theorem wordsOf_take_add_le {symbols : List Symbol} {i : Nat} {symbol : Symbol}
    (h : symbols[i]? = some symbol) :
    wordsOf (symbols.take i) + symbol.words ≤ wordsOf symbols := by
  rw [← wordsOf_take_succ h]
  have hle := wordsOf_take_le symbols (Nat.le_max_left (i + 1) symbols.length)
  rwa [List.take_of_length_le (Nat.le_max_right _ _)] at hle

namespace Session

def symbols (session : Session) : List Symbol := session.environment.symbols.toList

/-- Every symbol with words has its place below those before it, and the cursor
    is not above the lowest. -/
structure Laid (s : Session) : Prop where
  offset_eq : ∀ {i : Nat} {symbol : Symbol}, s.symbols[i]? = some symbol → symbol.words ≠ 0 →
    symbol.offset = -4 * (wordsOf (s.symbols.take i) : Int)
  words_iff : ∀ {i : Nat} {symbol : Symbol}, s.symbols[i]? = some symbol →
    (symbol.words ≠ 0 ↔ symbol.type.isScalar = true)
  cursor_le : s.frame.cursor ≤ -4 * (wordsOf s.symbols : Int)
  cursor_dvd : 4 ∣ s.frame.cursor
  cursor_fits : FitsWord s.frame.cursor

/-- Moreover all words that were taken belong to a symbol. -/
structure Tiled (s : Session) : Prop extends Laid s where
  cursor_eq : s.frame.cursor = -4 * (wordsOf s.symbols : Int)

/-- Symbols and cursor alone decide whether a session is tiled. -/
theorem Tiled.of_eq {s t : Session} (h : Tiled s) (hsymbols : t.symbols = s.symbols)
    (hcursor : t.frame.cursor = s.frame.cursor) : Tiled t := by
  refine ⟨⟨?_, ?_, ?_, ?_, ?_⟩, ?_⟩
  · rw [hsymbols]
    exact h.offset_eq
  · rw [hsymbols]
    exact h.words_iff
  · rw [hsymbols, hcursor]
    exact h.cursor_le
  · rw [hcursor]
    exact h.cursor_dvd
  · rw [hcursor]
    exact h.cursor_fits
  · rw [hsymbols, hcursor]
    exact h.cursor_eq

theorem symbols_bound (env : Environment) (symbol : Symbol) (s : Session) :
    { s with environment := env.bound symbol }.symbols = env.symbols.toList ++ [symbol] := by
  simp [symbols, Environment.bound]

/-- One more symbol at the cursor, and the cursor below it. -/
theorem Tiled.push {s t : Session} {symbol : Symbol} (h : Tiled s)
    (hsymbols : t.symbols = s.symbols ++ [symbol])
    (htype : symbol.words ≠ 0 ↔ symbol.type.isScalar = true)
    (hoffset : symbol.words ≠ 0 → symbol.offset = s.frame.cursor)
    (hcursor : t.frame.cursor = s.frame.cursor - 4 * symbol.words)
    (hfits : FitsWord t.frame.cursor) : Tiled t := by
  have htotal : t.frame.cursor = -4 * (wordsOf t.symbols : Int) := by
    rw [hcursor, h.cursor_eq, hsymbols, wordsOf_append]
    simp [wordsOf]
    omega
  have hcases : ∀ {i found}, t.symbols[i]? = some found →
      (s.symbols[i]? = some found ∧ t.symbols.take i = s.symbols.take i) ∨
        (found = symbol ∧ t.symbols.take i = s.symbols) := by
    intro i found hfound
    rw [hsymbols] at hfound ⊢
    by_cases hi : i < s.symbols.length
    · rw [List.getElem?_append_left hi] at hfound
      exact Or.inl ⟨hfound, by rw [List.take_append_of_le_length hi.le]⟩
    · rw [List.getElem?_append_right (by omega)] at hfound
      have hzero : i = s.symbols.length := by
        by_contra hne
        have : i - s.symbols.length ≠ 0 := by omega
        simp [this] at hfound
      subst hzero
      simp only [Nat.sub_self, List.getElem?_cons_zero, Option.some.injEq] at hfound
      exact Or.inr ⟨hfound.symm, by rw [List.take_left]⟩
  refine ⟨⟨?_, ?_, htotal.le, ?_, hfits⟩, htotal⟩
  · intro i found hfound hwords
    rcases hcases hfound with ⟨hold, htake⟩ | ⟨rfl, htake⟩
    · rw [htake]
      exact h.offset_eq hold hwords
    · rw [htake, hoffset hwords]
      exact h.cursor_eq
  · intro i found hfound
    rcases hcases hfound with ⟨hold, -⟩ | ⟨rfl, -⟩
    · exact h.words_iff hold
    · exact htype
  · rw [htotal]
    omega

/-- The frame of a session is tiled until a fault, and laid out for ever. -/
theorem invariant_layout : Invariant Tiled Laid where
  start options := by
    have hsymbols : (Session.start options).symbols = [] := rfl
    have hcursor : (Session.start options).frame.cursor = 0 := rfl
    refine ⟨⟨nofun, nofun, ?_, ?_, ?_⟩, ?_⟩ <;> rw [hcursor]
    · simp [hsymbols, wordsOf]
    · exact Int.dvd_zero 4
    · decide
    · simp [hsymbols, wordsOf]
  change := by
    intro s t hchange hs
    cases hchange with
    | entered => exact hs.of_eq rfl rfl
    | left => exact hs.of_eq rfl rfl
    | drew => exact hs.of_eq rfl rfl
    | @temporary type grown htype hroom _ =>
      obtain ⟨hcursor, -, hfits⟩ := Frame.grow?_eq_some_iff.mp hroom
      refine hs.push (symbols_bound _ (s.nextTemporary type) s) ?_ (fun _ => rfl) hcursor hfits
      simp [nextTemporary, htype]
    | declared htype hparse _ hroom _ =>
      obtain ⟨hcursor, -, hfits⟩ := Frame.grow?_eq_some_iff.mp hroom
      refine hs.push (symbols_bound _ _ s) ?_ (fun _ => rfl) hcursor hfits
      have := (Declarator.parse_eq_ok hparse).2
      simp only [htype, iff_true]
      omega
    | stringLabel _ =>
      refine hs.push (symbols_bound _ _ s) ?_ (fun h => absurd rfl h) ?_ hs.cursor_fits
      · simp [ValueType.isScalar]
      · simp [withStringLabel]
    | wrote => exact hs.of_eq rfl rfl
    | stored => exact hs.of_eq rfl rfl
    | rotated => exact hs.of_eq rfl rfl
  fault cause hs := ⟨hs.offset_eq, hs.words_iff, hs.cursor_le, hs.cursor_dvd, hs.cursor_fits⟩
  lost s words grown cause hgrow hs := by
    obtain ⟨hcursor, -, hfits⟩ := Frame.grow?_eq_some_iff.mp hgrow
    refine ⟨hs.offset_eq, hs.words_iff, ?_, ?_, hfits⟩
    · have := hs.cursor_le
      simp only [hcursor]
      exact le_trans (by omega) this
    · have := hs.cursor_dvd
      simp only [hcursor]
      omega

theorem symbol?_eq (s : Session) (id : SymbolId) :
    s.environment.symbol? id = s.symbols[id]? := by
  simp [Environment.symbol?, symbols]

/-! ### Where symbols lie -/

namespace Laid

variable {s : Session} (h : Laid s)

include h in
theorem cursor_nonpos : s.frame.cursor ≤ 0 := by
  have := h.cursor_le
  omega

include h in
/-- The words of a symbol are inside the frame, and inside the range of offsets. -/
theorem symbol_inside {i : Nat} {symbol : Symbol} (hsymbol : s.symbols[i]? = some symbol)
    (hwords : symbol.words ≠ 0) :
    4 ∣ symbol.offset ∧ symbol.offset ≤ 0 ∧
      s.frame.cursor < symbol.offset - 4 * ((symbol.words : Int) - 1) ∧
      FitsWord (symbol.offset - 4 * ((symbol.words : Int) - 1)) := by
  have hoffset := h.offset_eq hsymbol hwords
  have hle := wordsOf_take_add_le hsymbol
  have hcursor := h.cursor_le
  have hfits := h.cursor_fits
  refine ⟨?_, ?_, ?_, ?_, ?_⟩ <;> omega

include h in
/-- A later symbol lies below an earlier one. -/
theorem bytes_disjoint_of_lt {i j : Nat} {a b : Symbol} (hij : i < j)
    (ha : s.symbols[i]? = some a) (hb : s.symbols[j]? = some b) :
    Disjoint a.bytes b.bytes := by
  have hnext := wordsOf_take_succ ha
  have hmono := wordsOf_take_le s.symbols (show i + 1 ≤ j from hij)
  refine Set.disjoint_left.mpr fun byte hbytea hbyteb => ?_
  simp only [Symbol.bytes, Set.mem_Ico] at hbytea hbyteb
  have hawords : a.words ≠ 0 := by omega
  have hbwords : b.words ≠ 0 := by omega
  have hoffseta := h.offset_eq ha hawords
  have hoffsetb := h.offset_eq hb hbwords
  omega

include h in
theorem bytes_disjoint {i j : Nat} {a b : Symbol} (hij : i ≠ j)
    (ha : s.symbols[i]? = some a) (hb : s.symbols[j]? = some b) :
    Disjoint a.bytes b.bytes := by
  rcases Nat.lt_or_gt_of_ne hij with hlt | hgt
  · exact h.bytes_disjoint_of_lt hlt ha hb
  · exact (h.bytes_disjoint_of_lt hgt hb ha).symm

end Laid

/-- Between the first word and any later place every byte belongs to a symbol. -/
theorem Tiled.exists_owner {s : Session} (h : Tiled s) {byte : Int} (hbelow : byte < 4) (n : Nat)
    (habove : -4 * (wordsOf (s.symbols.take n) : Int) + 4 ≤ byte) :
    ∃ (i : Nat) (symbol : Symbol), s.symbols[i]? = some symbol ∧ byte ∈ symbol.bytes := by
  induction n with
  | zero => simp [wordsOf] at habove; omega
  | succ n ih =>
    by_cases hlower : -4 * (wordsOf (s.symbols.take n) : Int) + 4 ≤ byte
    · exact ih hlower
    · cases hsymbol : s.symbols[n]? with
      | none =>
        -- there is no symbol left, so the two places are the same
        have hend := List.getElem?_eq_none_iff.mp hsymbol
        rw [List.take_of_length_le (by omega)] at habove hlower
        exact absurd habove hlower
      | some symbol =>
        rw [wordsOf_take_succ hsymbol] at habove
        have hwords : symbol.words ≠ 0 := by omega
        have hoffset := h.offset_eq hsymbol hwords
        refine ⟨n, symbol, hsymbol, ?_⟩
        simp only [Symbol.bytes, Set.mem_Ico]
        omega

theorem Tiled.mem_bytes_iff {s : Session} (h : Tiled s) (byte : Int) :
    (∃ (i : Nat) (symbol : Symbol), s.symbols[i]? = some symbol ∧ byte ∈ symbol.bytes) ↔
      s.frame.cursor + 4 ≤ byte ∧ byte < 4 := by
  constructor
  · rintro ⟨i, symbol, hsymbol, hbyte⟩
    simp only [Symbol.bytes, Set.mem_Ico] at hbyte
    obtain ⟨hdvd, hoffset, hcursor, -⟩ := h.toLaid.symbol_inside hsymbol (by omega)
    have := h.cursor_dvd
    omega
  · rintro ⟨habove, hbelow⟩
    rw [h.cursor_eq] at habove
    rw [← List.take_length (l := s.symbols)] at habove
    exact h.exists_owner hbelow s.symbols.length habove

theorem laid {s : Journaled Session} (h : Reachable s) : Laid s.state := by
  rcases h.intact_or_aborted invariant_layout with ⟨-, htiled⟩ | ⟨-, hlaid⟩
  · exact htiled.toLaid
  · exact hlaid

/-- **The symbols tile the frame.**  Up to the first fault every byte of the
    frame has exactly one owner, and places are told by the sizes of the symbols
    that came before; symbols never share a byte and stay inside the frame and
    the range of offsets, also after a fault. -/
theorem frame_layout {s : Journaled Session} (h : Reachable s) :
    (s.state.firstFault = none →
      (∀ id symbol, s.state.environment.symbol? id = some symbol → symbol.words ≠ 0 →
        symbol.offset = -4 * (wordsOf (s.state.symbols.take id) : Int)) ∧
      s.state.frame.cursor = -4 * (wordsOf s.state.symbols : Int) ∧
      s.state.frame.sizeBytes = 4 * wordsOf s.state.symbols ∧
      ∀ byte : Int, (∃ id symbol, s.state.environment.symbol? id = some symbol ∧
        byte ∈ symbol.bytes) ↔ s.state.frame.cursor + 4 ≤ byte ∧ byte < 4) ∧
    (∀ id symbol, s.state.environment.symbol? id = some symbol →
      (symbol.words ≠ 0 ↔ symbol.type.isScalar = true) ∧
      (symbol.words ≠ 0 → 4 ∣ symbol.offset ∧ symbol.offset ≤ 0 ∧
        s.state.frame.cursor < symbol.offset - 4 * ((symbol.words : Int) - 1) ∧
        FitsWord (symbol.offset - 4 * ((symbol.words : Int) - 1)))) ∧
    ∀ i j a b, i ≠ j → s.state.environment.symbol? i = some a →
      s.state.environment.symbol? j = some b → Disjoint a.bytes b.bytes := by
  have hlaid := laid h
  simp only [symbol?_eq]
  refine ⟨fun hlive => ?_, fun id symbol hsymbol => ⟨hlaid.words_iff hsymbol, ?_⟩, ?_⟩
  · have htiled := h.intact invariant_layout hlive
    refine ⟨fun id symbol hsymbol hwords => htiled.offset_eq hsymbol hwords, htiled.cursor_eq, ?_,
      htiled.mem_bytes_iff⟩
    rw [Frame.sizeBytes, htiled.cursor_eq]
    omega
  · exact fun hwords => hlaid.symbol_inside hsymbol hwords
  · exact fun i j a b hij ha hb => hlaid.bytes_disjoint hij ha hb

-- An array, a string label and a temporary whose scope has been left.
theorem frame_layout_of_left_scope :
    let s := (Action.run [.enterScope, .declare "int" "a[3]", .stringLiteral "hi", .enterScope,
      .intLiteral 5, .leaveScope] { state := Session.start {} }).2
    s.state.symbols.map Symbol.words = [3, 0, 1] ∧ s.state.frame.cursor = -16 ∧
      ∀ byte : Int, (∃ id symbol, s.state.environment.symbol? id = some symbol ∧
        byte ∈ symbol.bytes) ↔ -12 ≤ byte ∧ byte < 4 := by
  intro s
  have hreachable : Reachable s := ⟨_, _, _, rfl⟩
  have hlive : s.state.firstFault = none := by unfold s; decide +kernel
  have hwords : s.state.symbols.map Symbol.words = [3, 0, 1] := by unfold s; decide +kernel
  obtain ⟨-, hcursor, -, howned⟩ := (frame_layout hreachable).1 hlive
  have hplace : s.state.frame.cursor = -16 := by rw [hcursor, wordsOf, hwords]; rfl
  refine ⟨hwords, hplace, ?_⟩
  rw [hplace] at howned
  exact howned

end Session

end OnePass
