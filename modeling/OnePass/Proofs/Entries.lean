/-
  OnePass/Proofs/Entries.lean
  ===========================
  **Entries of the log** — what can be read from their texts alone.

  An entry has a severity and a text, and nothing else of the event behind it.
  That is enough to tell the lines that were emitted, and the moves of scopes and
  of the frame with all their numbers.  `Move.step` makes a move from a depth and
  a cursor, if that is where the entry says it was made.
-/
import OnePass.Journal
import OnePass.Proofs.Numerals

namespace OnePass

open Asm Text

/-- What is written of an event. -/
structure LogEntry where
  severity : Severity
  text : String
  deriving DecidableEq

def Event.entry (event : Event) : LogEntry := ⟨event.severity, event.message⟩

def Journal.entries (journal : Journal) : List LogEntry := journal.events.toList.map Event.entry

/-! ### Numbers with a sign -/

/-- The number in a text; in front of a negative one there is a minus sign. -/
def integer? : List Char → Option Int
  | '-' :: digits => (numeral? digits).map fun n => -(n : Int)
  | digits => (numeral? digits).map fun n => (n : Int)

theorem numeral?_toString (n : Nat) : numeral? (toString n).toList = some n := by
  rw [toList_toString, numeral?_eq_some_iff]
  exact ⟨0, rfl⟩

theorem toList_toString_negSucc (n : Nat) :
    (toString (Int.negSucc n)).toList = '-' :: (toString (n + 1)).toList := by
  rw [show toString (Int.negSucc n) = "-" ++ toString (n + 1) from rfl, String.toList_append]
  rfl

theorem integer?_toString (z : Int) : integer? (toString z).toList = some z := by
  cases z with
  | ofNat n =>
    have hminus : '-' ∉ (toString n).toList := not_mem_toString rfl
    have hvalue := numeral?_toString n
    rw [show toString (Int.ofNat n) = toString n from rfl]
    generalize (toString n).toList = text at hminus hvalue
    unfold integer?
    split
    · exact absurd List.mem_cons_self hminus
    · rw [hvalue]
      rfl
  | negSucc n =>
    rw [toList_toString_negSucc]
    simp only [integer?, numeral?_toString]
    rfl

theorem space_not_mem_toString (z : Int) : ' ' ∉ (toString z).toList := by
  cases z with
  | ofNat n => exact not_mem_toString rfl
  | negSucc n =>
    rw [toList_toString_negSucc, List.mem_cons, not_or]
    exact ⟨by decide, not_mem_toString rfl⟩

/-! ### Pieces of a text -/

/-- The pieces of a text, which have spaces between them. -/
def piecesOf (text : String) : List String := (text.toList.splitOn ' ').map String.ofList

theorem piecesOf_cons {word : String} (h : ' ' ∉ word.toList) (rest : String) :
    piecesOf (word ++ " " ++ rest) = word :: piecesOf rest := by
  rw [piecesOf, String.toList_append, String.toList_append, List.append_assoc,
    show " ".toList ++ rest.toList = ' ' :: rest.toList from rfl,
    List.splitOn_append_cons_self_of_not_mem h, List.map_cons, String.ofList_toList, piecesOf]

theorem piecesOf_of_not_mem {word : String} (h : ' ' ∉ word.toList) : piecesOf word = [word] := by
  have hsplit : ([' '].intercalate [word.toList]).splitOn ' ' = [word.toList] :=
    List.splitOn_intercalate ' ' (by simpa using h) (by simp)
  rw [List.intercalate_singleton] at hsplit
  rw [piecesOf, hsplit]
  simp

theorem piecesOf_entered {depth : String} (h : ' ' ∉ depth.toList) :
    piecesOf ("entered scope " ++ depth) = ["entered", "scope", depth] := by
  have htext : "entered scope " ++ depth = "entered" ++ " " ++ ("scope" ++ " " ++ depth) := by
    rw [show "entered scope " = "entered" ++ " " ++ ("scope" ++ " ") from rfl]
    exact String.append_assoc
  rw [htext, piecesOf_cons (by decide), piecesOf_cons (by decide), piecesOf_of_not_mem h]

theorem piecesOf_left {depth names : String} (hdepth : ' ' ∉ depth.toList)
    (hnames : ' ' ∉ names.toList) :
    piecesOf ("left scope " ++ depth ++ " (" ++ names ++ " symbols)") =
      ["left", "scope", depth, "(" ++ names, "symbols)"] := by
  have htext : "left scope " ++ depth ++ " (" ++ names ++ " symbols)" =
      "left" ++ " " ++
        ("scope" ++ " " ++ (depth ++ " " ++ ("(" ++ names ++ " " ++ "symbols)"))) := by
    have hbefore : "left scope " = "left" ++ " " ++ ("scope" ++ " ") := rfl
    have hbetween : " (" = " " ++ "(" := rfl
    have hbehind : " symbols)" = " " ++ "symbols)" := rfl
    simp only [hbefore, hbetween, hbehind, String.append_assoc]
  have hopened : ' ' ∉ ("(" ++ names).toList := by
    rw [String.toList_append, List.mem_append, not_or]
    exact ⟨by decide, hnames⟩
  rw [htext, piecesOf_cons (by decide), piecesOf_cons (by decide), piecesOf_cons hdepth,
    piecesOf_cons hopened, piecesOf_of_not_mem (by decide)]

theorem piecesOf_allocated {words offset cursor : String} (hwords : ' ' ∉ words.toList)
    (hoffset : ' ' ∉ offset.toList) (hcursor : ' ' ∉ cursor.toList) :
    piecesOf ("allocated " ++ words ++ " word(s) at " ++ offset ++ ", cursor now " ++ cursor) =
      ["allocated", words, "word(s)", "at", offset ++ ",", "cursor", "now", cursor] := by
  have htext : "allocated " ++ words ++ " word(s) at " ++ offset ++ ", cursor now " ++ cursor =
      "allocated" ++ " " ++ (words ++ " " ++ ("word(s)" ++ " " ++ ("at" ++ " " ++
        (offset ++ "," ++ " " ++ ("cursor" ++ " " ++ ("now" ++ " " ++ cursor)))))) := by
    have hbefore : "allocated " = "allocated" ++ " " := rfl
    have hbetween : " word(s) at " = " " ++ ("word(s)" ++ (" " ++ ("at" ++ " "))) := rfl
    have hbehind : ", cursor now " = "," ++ (" " ++ ("cursor" ++ (" " ++ ("now" ++ " ")))) := rfl
    simp only [hbefore, hbetween, hbehind, String.append_assoc]
  have hcomma : ' ' ∉ (offset ++ ",").toList := by
    rw [String.toList_append, List.mem_append, not_or]
    exact ⟨hoffset, by decide⟩
  rw [htext, piecesOf_cons (by decide), piecesOf_cons hwords, piecesOf_cons (by decide),
    piecesOf_cons (by decide), piecesOf_cons hcomma, piecesOf_cons (by decide),
    piecesOf_cons (by decide), piecesOf_of_not_mem hcursor]

/-! ### Reading an entry -/

/-- The line an entry says was emitted. -/
def LogEntry.emitted? (entry : LogEntry) : Option String :=
  if entry.severity = .trace then
    (entry.text.toList.dropPrefix? "emit: ".toList).map String.ofList
  else none

/-- What an entry can tell of scopes and of the frame. -/
inductive Move where
  | entered (depth : Nat)
  | left (depth : Nat)
  | allocated (words : Nat) (offset cursor : Int)
  deriving DecidableEq

namespace Move

/-- The move that is told by the pieces of an entry's text. -/
def ofPieces? : List String → Option Move
  | ["entered", "scope", depth] => (numeral? depth.toList).map .entered
  | ["left", "scope", depth, _, "symbols)"] => (numeral? depth.toList).map .left
  | ["allocated", words, "word(s)", "at", offset, "cursor", "now", cursor] => do
    -- there is a comma behind the offset
    let offset ← integer? offset.toList.dropLast
    return .allocated (← numeral? words.toList) offset (← integer? cursor.toList)
  | _ => none

/-- Makes a move: scopes are entered and left one at a time, and the cursor goes
    down by four bytes for each word. -/
def step : Nat × Int → Move → Option (Nat × Int)
  | (depth, cursor), entered inner => if inner = depth + 1 then some (inner, cursor) else none
  | (depth, cursor), left inner =>
    if inner = depth ∧ 0 < depth then some (depth - 1, cursor) else none
  | (depth, cursor), allocated words offset next =>
    if offset = cursor ∧ next = cursor - 4 * words then some (depth, next) else none

end Move

/-- The move an entry tells. -/
def LogEntry.move? (entry : LogEntry) : Option Move :=
  if entry.severity = .trace then Move.ofPieces? (piecesOf entry.text) else none

/-! ### What is read is what happened -/

namespace Event

/-- The line that was emitted. -/
def line? : Event → Option Line
  | emitted line => some line
  | _ => none

/-- Of all entries only those of emitted lines have this letter here. -/
theorem emitted?_eq_none {severity : Severity} {text : String} (h : text.toList[1]? ≠ some 'm') :
    LogEntry.emitted? ⟨severity, text⟩ = none := by
  have hprefix : text.toList.dropPrefix? "emit: ".toList = none := by
    cases hdrop : text.toList.dropPrefix? "emit: ".toList with
    | none => rfl
    | some rest =>
      obtain ⟨front, heq, hfront⟩ := List.dropPrefix?_eq_some_iff.mp hdrop
      rw [eq_of_beq hfront] at heq
      rw [heq] at h
      exact absurd rfl h
  simp only [LogEntry.emitted?, hprefix, Option.map_none, ite_self]

theorem emitted?_entry (event : Event) : event.entry.emitted? = event.line?.map Line.text := by
  cases event with
  | emitted line =>
    have hprefix : ("emit: " ++ line.text).toList.dropPrefix? "emit: ".toList =
        some line.text.toList := by
      rw [String.toList_append]
      exact List.dropPrefix?_append_of_beq _ (BEq.refl _)
    have hread : (emitted line).entry.emitted? =
        (("emit: " ++ line.text).toList.dropPrefix? "emit: ".toList).map String.ofList := rfl
    rw [hread, hprefix, Option.map_some, String.ofList_toList]
    rfl
  | enteredScope depth =>
    have hsecond : ("entered scope " ++ toString depth).toList[1]? ≠ some 'm' := by
      rw [String.toList_append]
      nofun
    exact emitted?_eq_none hsecond
  | leftScope depth names =>
    have hsecond : ("left scope " ++ toString depth ++ " (" ++ toString names ++
        " symbols)").toList[1]? ≠ some 'm' := by
      simp only [String.toList_append, List.append_assoc]
      nofun
    exact emitted?_eq_none hsecond
  | allocated words offset cursor =>
    have hsecond : ("allocated " ++ toString words ++ " word(s) at " ++ toString offset ++
        ", cursor now " ++ toString cursor).toList[1]? ≠ some 'm' := by
      simp only [String.toList_append, List.append_assoc]
      nofun
    exact emitted?_eq_none hsecond
  | _ => rfl

/-- What the event does to scopes and to the frame. -/
def move? : Event → Option Move
  | enteredScope depth => some (.entered depth)
  | leftScope depth _ => some (.left depth)
  | allocated words offset cursor => some (.allocated words offset cursor)
  | _ => none

theorem move?_trace (text : String) :
    LogEntry.move? ⟨.trace, text⟩ = Move.ofPieces? (piecesOf text) :=
  if_pos rfl

theorem move?_enteredScope (depth : Nat) :
    (enteredScope depth).entry.move? = some (.entered depth) := by
  have hentry : (enteredScope depth).entry = ⟨.trace, "entered scope " ++ toString depth⟩ := rfl
  rw [hentry, move?_trace, piecesOf_entered (not_mem_toString rfl)]
  simp only [Move.ofPieces?, numeral?_toString]
  rfl

theorem move?_leftScope (depth names : Nat) :
    (leftScope depth names).entry.move? = some (.left depth) := by
  have hentry : (leftScope depth names).entry =
      ⟨.trace, "left scope " ++ toString depth ++ " (" ++ toString names ++ " symbols)"⟩ := rfl
  rw [hentry, move?_trace, piecesOf_left (not_mem_toString rfl) (not_mem_toString rfl)]
  simp only [Move.ofPieces?, numeral?_toString]
  rfl

theorem move?_allocated (words : Nat) (offset cursor : Int) :
    (allocated words offset cursor).entry.move? =
      some (.allocated words offset cursor) := by
  have hentry : (allocated words offset cursor).entry =
      ⟨.trace, "allocated " ++ toString words ++ " word(s) at " ++ toString offset ++
        ", cursor now " ++ toString cursor⟩ := rfl
  have hoffset : (toString offset ++ ",").toList.dropLast = (toString offset).toList := by
    rw [String.toList_append]
    exact List.dropLast_concat
  rw [hentry, move?_trace, piecesOf_allocated (not_mem_toString rfl)
    (space_not_mem_toString offset) (space_not_mem_toString cursor)]
  simp only [Move.ofPieces?, hoffset, numeral?_toString, integer?_toString]
  rfl

theorem move?_emitted (line : Line) : (emitted line).entry.move? = none := by
  have hentry : (emitted line).entry = ⟨.trace, "emit: " ++ line.text⟩ := rfl
  rw [hentry, move?_trace, show "emit: " = "emit:" ++ " " from rfl, piecesOf_cons (by decide)]
  rfl

theorem move?_entry (event : Event) : event.entry.move? = event.move? := by
  cases event with
  | enteredScope depth => exact move?_enteredScope depth
  | leftScope depth names => exact move?_leftScope depth names
  | allocated words offset cursor => exact move?_allocated words offset cursor
  | emitted line => exact move?_emitted line
  | _ => exact if_neg nofun

/-! ### Reading what is written of events -/

theorem filterMap_emitted? (events : List Event) :
    (events.map entry).filterMap LogEntry.emitted? = (events.filterMap line?).map Line.text := by
  rw [List.filterMap_map, List.map_filterMap]
  exact List.filterMap_congr fun event _ => event.emitted?_entry

theorem filterMap_move? (events : List Event) :
    (events.map entry).filterMap LogEntry.move? = events.filterMap move? := by
  rw [List.filterMap_map]
  exact List.filterMap_congr fun event _ => event.move?_entry

/-- Entries are told apart by their severities as the events are. -/
theorem filter_entry (p : Severity → Bool) (events : List Event) :
    (events.map entry).filter (fun e => p e.severity) =
      (events.filter fun event => p event.severity).map entry := by
  rw [List.filter_map]
  rfl

end Event

end OnePass
