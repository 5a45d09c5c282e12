/-
  OnePass/Proofs/Decoding.lean
  ============================
  **Reading the assembly file** — the body and the texts can be recovered.

  No line of the file has a line feed inside, since texts are escaped, and so
  the file falls into its lines again.  The body ends at the first empty line.
  In an entry of the data segment the label ends at the first colon, and the
  text at the first quote that is not escaped, whatever the text looks like.
-/
import OnePass.Listing
import Mathlib.Data.List.Basic

namespace OnePass

open Asm

/-! ### Lines of a text -/

/-- The lines of a text, of which each is ended by a line feed. -/
def linesOf (text : List Char) : List (List Char) := (text.splitOn '\n').dropLast

/-- The text that consists of the lines. -/
def ofLines (lines : List (List Char)) : List Char := lines.flatMap fun line => line ++ ['\n']

theorem linesOf_cons {line : List Char} (h : '\n' ∉ line) (rest : List Char) :
    linesOf (line ++ '\n' :: rest) = line :: linesOf rest := by
  rw [linesOf, List.splitOn_append_cons_self_of_not_mem h,
    List.dropLast_cons_of_ne_nil (List.splitOn_ne_nil _ _)]
  rfl

theorem linesOf_ofLines {lines : List (List Char)} (h : ∀ line ∈ lines, '\n' ∉ line) :
    linesOf (ofLines lines) = lines := by
  induction lines with
  | nil => rfl
  | cons line rest ih =>
    have hrest := ih fun other hother => h other (List.mem_cons_of_mem _ hother)
    have hcons : ofLines (line :: rest) = line ++ '\n' :: ofLines rest := by
      simp [ofLines]
    rw [hcons, linesOf_cons (h line List.mem_cons_self), hrest]

/-! ### Escaped texts -/

namespace StringEntry

/-- What comes before the closing quote, and what comes behind it; the character
    behind a backslash does not close. -/
def closingQuote? : List Char → Option (List Char × List Char)
  | [] => none
  | '"' :: rest => some ([], rest)
  | '\\' :: c :: rest =>
    (closingQuote? rest).map fun (inside, behind) => ('\\' :: c :: inside, behind)
  | c :: rest => (closingQuote? rest).map fun (inside, behind) => (c :: inside, behind)

/-- The character that is named behind a backslash. -/
def escaped? : Char → Option Char
  | 'n' => some '\n'
  | 't' => some '\t'
  | '"' => some '"'
  | '\\' => some '\\'
  | _ => none

/-- The text that was escaped. -/
def unescape? : List Char → Option (List Char)
  | [] => some []
  | '\\' :: name :: rest => do
    let c ← escaped? name
    return c :: (← unescape? rest)
  | c :: rest => (unescape? rest).map (c :: ·)

/-- A character is written as it is, or by its name behind a backslash. -/
inductive Escapes (c : Char) : List Char → Prop
  | named {name : Char} (h : escaped? name = some c) (hn : name ≠ '\n') (ht : name ≠ '\t') :
      Escapes c ['\\', name]
  | plain (hn : c ≠ '\n') (ht : c ≠ '\t') (hq : c ≠ '"') (hb : c ≠ '\\') : Escapes c [c]

theorem escapes_escapeChar (c : Char) : Escapes c (escapeChar c) := by
  unfold escapeChar
  split
  · exact .named rfl (by decide) (by decide)
  · exact .named rfl (by decide) (by decide)
  · exact .named rfl (by decide) (by decide)
  · exact .named rfl (by decide) (by decide)
  · next hn ht hq hb => exact .plain hn ht hq hb

namespace Escapes

variable {c : Char} {written : List Char}

theorem not_mem (h : Escapes c written) : '\n' ∉ written ∧ '\t' ∉ written := by
  cases h with
  | named _ hn ht => simp [hn.symm, ht.symm]
  | plain hn ht => simp [hn.symm, ht.symm]

theorem closingQuote?_append (h : Escapes c written) (rest : List Char) :
    closingQuote? (written ++ rest) =
      (closingQuote? rest).map fun (inside, behind) => (written ++ inside, behind) := by
  cases h with
  | named => rfl
  | plain _ _ hq hb =>
    -- a character that is neither a quote nor a backslash is passed over
    rw [List.singleton_append, closingQuote?]
    · rfl
    · exact hq
    · rintro _ _ rfl
      exact absurd rfl hb

theorem unescape?_append (h : Escapes c written) (rest : List Char) :
    unescape? (written ++ rest) = (unescape? rest).map (c :: ·) := by
  cases h with
  | named hname =>
    simp only [List.cons_append, List.nil_append, unescape?, hname]
    cases unescape? rest <;> rfl
  | plain _ _ _ hb =>
    rw [List.singleton_append, unescape?]
    rintro _ _ rfl
    exact absurd rfl hb

end Escapes

theorem toList_escape (text : String) :
    (escape text).toList = text.toList.flatMap escapeChar :=
  String.toList_ofList

/-- An escaped text has no line feed and no tab of its own. -/
theorem not_mem_escape (text : String) :
    '\n' ∉ (escape text).toList ∧ '\t' ∉ (escape text).toList := by
  simp only [toList_escape, List.mem_flatMap, not_exists, not_and]
  constructor
  · exact fun c _ => (escapes_escapeChar c).not_mem.1
  · exact fun c _ => (escapes_escapeChar c).not_mem.2

/-- The first quote that is not escaped is the one behind the text. -/
theorem closingQuote?_escape (text : String) (rest : List Char) :
    closingQuote? ((escape text).toList ++ '"' :: rest) = some ((escape text).toList, rest) := by
  rw [toList_escape]
  induction text.toList with
  | nil => rfl
  | cons c chars ih =>
    rw [List.flatMap_cons, List.append_assoc, (escapes_escapeChar c).closingQuote?_append, ih]
    rfl

theorem unescape?_escape (text : String) : unescape? (escape text).toList = some text.toList := by
  rw [toList_escape]
  induction text.toList with
  | nil => rfl
  | cons c chars ih =>
    rw [List.flatMap_cons, (escapes_escapeChar c).unescape?_append, ih]
    rfl

/-! ### Entries of the data segment -/

/-- What stands between a label and its text. -/
def separator : List Char :=
  [':', ' ', '\t', '\t', ' ', '.', 'a', 's', 'c', 'i', 'i', 'z', ' ', '"']

/-- The entry a line of the data segment makes. -/
def ofLine? (line : List Char) : Option StringEntry := do
  let quoted ← (line.dropWhile (· != ':')).dropPrefix? separator
  let (inside, behind) ← closingQuote? quoted
  let text ← unescape? inside
  if behind.isEmpty then
    some { label := String.ofList (line.takeWhile (· != ':')), text := String.ofList text }
  else none

/-- The line an entry makes. -/
def line (entry : StringEntry) : List Char :=
  entry.label.toList ++ separator ++ (escape entry.text).toList ++ ['"']

theorem toList_directive (entry : StringEntry) :
    entry.directive.toList = entry.line ++ ['\n'] := by
  have hseparator : ": \t\t .asciiz \"".toList = separator := by decide +kernel
  have hend : "\"\n".toList = ['"', '\n'] := by decide +kernel
  simp only [directive, line, String.toList_append, hseparator, hend, List.append_assoc,
    List.cons_append, List.nil_append]

theorem not_mem_line {entry : StringEntry} (h : '\n' ∉ entry.label.toList) :
    '\n' ∉ entry.line := by
  have hseparator : '\n' ∉ separator := by decide
  have htext := (not_mem_escape entry.text).1
  simp [line, h, hseparator, htext]

theorem ofLine?_line {entry : StringEntry} (h : ':' ∉ entry.label.toList) :
    ofLine? entry.line = some entry := by
  -- the separator begins with the colon that ends the label
  have hline : entry.line = entry.label.toList ++
      ':' :: (separator.tail ++ ((escape entry.text).toList ++ ['"'])) := by
    simp [line, separator]
  have hlabel : ∀ c ∈ entry.label.toList, (c != ':') = true := by
    intro c hc
    simpa using ne_of_mem_of_not_mem hc h
  have htake : entry.line.takeWhile (· != ':') = entry.label.toList := by
    rw [hline, List.takeWhile_append_of_pos hlabel]
    simp
  have hdrop : entry.line.dropWhile (· != ':') =
      separator ++ ((escape entry.text).toList ++ ['"']) := by
    rw [hline, List.dropWhile_append_of_pos hlabel]
    rfl
  have hquoted : List.dropPrefix? (separator ++ ((escape entry.text).toList ++ ['"'])) separator =
      some ((escape entry.text).toList ++ ['"']) :=
    List.dropPrefix?_append_of_beq _ (BEq.refl separator)
  simp only [ofLine?, hdrop, hquoted, closingQuote?_escape, unescape?_escape, htake,
    String.ofList_toList, Option.bind_eq_bind, Option.bind_some]
  rfl

end StringEntry

/-! ### The file -/

namespace Listing

def openingLines : List (List Char) := linesOf opening.toList

def endingLines : List (List Char) := linesOf ending.toList

/-- The lines of the body and the entries of the data segment of an assembly file. -/
def decode? (file : String) : Option (List String × List StringEntry) := do
  let rest ← (linesOf file.toList).dropPrefix? openingLines
  let data ← (rest.dropWhile (!·.isEmpty)).dropPrefix? endingLines
  let entries ← data.mapM StringEntry.ofLine?
  return ((rest.takeWhile (!·.isEmpty)).map String.ofList, entries)

/-- The lines of the file behind its opening. -/
def behindOpening (listing : Listing) : List (List Char) :=
  listing.body.toList.map (·.text.toList) ++
    (endingLines ++ listing.strings.toList.map StringEntry.line)

/-- All lines of the assembly file. -/
def fileLines (listing : Listing) : List (List Char) := openingLines ++ listing.behindOpening

theorem ofLines_append (first second : List (List Char)) :
    ofLines (first ++ second) = ofLines first ++ ofLines second :=
  List.flatMap_append

theorem toList_join {α : Type} (items : List α) (written : α → String) (line : α → List Char)
    (h : ∀ item, (written item).toList = line item ++ ['\n']) :
    (String.join (items.map written)).toList = ofLines (items.map line) := by
  simp only [String.toList_join, ofLines, List.flatMap_map, h]

theorem opening_eq :
    opening.toList = ofLines openingLines ∧ ∀ line ∈ openingLines, '\n' ∉ line := by
  decide +kernel

/-- The ending begins with an empty line. -/
theorem ending_eq :
    ending.toList = ofLines endingLines ∧ (∀ line ∈ endingLines, '\n' ∉ line) ∧
      endingLines = [] :: endingLines.tail := by
  decide +kernel

/-- The section of the body, between the opening and the ending. -/
def bodyText (listing : Listing) : String :=
  String.join (listing.body.toList.map fun line => line.text ++ "\n")

theorem render_eq (listing : Listing) : listing.render =
    opening ++ listing.bodyText ++ ending ++
      String.join (listing.strings.toList.map StringEntry.directive) :=
  rfl

theorem toList_bodyText (listing : Listing) :
    listing.bodyText.toList = ofLines (listing.body.toList.map (·.text.toList)) :=
  toList_join _ _ _ fun _ => String.toList_append

theorem toList_render (listing : Listing) : listing.render.toList = ofLines listing.fileLines := by
  have hstrings := toList_join listing.strings.toList StringEntry.directive StringEntry.line
    StringEntry.toList_directive
  simp only [render_eq, String.toList_append, opening_eq.1, toList_bodyText, ending_eq.1, hstrings,
    fileLines, behindOpening, ofLines_append, List.append_assoc]

/-- No line of the file has a line feed in it. -/
theorem not_mem_fileLines {listing : Listing}
    (hbody : ∀ line ∈ listing.body, '\n' ∉ line.text.toList)
    (hlabels : ∀ entry ∈ listing.strings, '\n' ∉ entry.label.toList) :
    ∀ line ∈ listing.fileLines, '\n' ∉ line := by
  intro line hline
  simp only [fileLines, behindOpening, List.mem_append, List.mem_map, Array.mem_toList_iff]
    at hline
  rcases hline with h | ⟨written, h, rfl⟩ | h | ⟨entry, h, rfl⟩
  · exact opening_eq.2 line h
  · exact hbody written h
  · exact ending_eq.2.1 line h
  · exact StringEntry.not_mem_line (hlabels entry h)

theorem dropPrefix?_fileLines (listing : Listing) :
    listing.fileLines.dropPrefix? openingLines = some listing.behindOpening :=
  List.dropPrefix?_append_of_beq _ (BEq.refl openingLines)

/-- The ending begins with an empty line, and there is none in the body. -/
theorem body_of_behindOpening {listing : Listing} (hbody : ∀ line ∈ listing.body, line.text ≠ "") :
    listing.behindOpening.takeWhile (!·.isEmpty) = listing.body.toList.map (·.text.toList) ∧
      listing.behindOpening.dropWhile (!·.isEmpty) =
        endingLines ++ listing.strings.toList.map StringEntry.line := by
  have hnonempty : ∀ line ∈ listing.body.toList.map (·.text.toList), (!line.isEmpty) = true := by
    simp only [List.mem_map, Array.mem_toList_iff]
    rintro _ ⟨line, h, rfl⟩
    simpa using hbody line h
  rw [behindOpening, List.takeWhile_append_of_pos hnonempty,
    List.dropWhile_append_of_pos hnonempty, ending_eq.2.2]
  simp

theorem mapM_ofLine?_line {entries : List StringEntry}
    (h : ∀ entry ∈ entries, ':' ∉ entry.label.toList) :
    (entries.map StringEntry.line).mapM StringEntry.ofLine? = some entries := by
  induction entries with
  | nil => rfl
  | cons entry rest ih =>
    have hrest := ih fun other hother => h other (List.mem_cons_of_mem _ hother)
    have hentry := StringEntry.ofLine?_line (h entry List.mem_cons_self)
    simp only [List.map_cons, List.mapM_cons, hentry, hrest]
    rfl

/-- **The assembly file can be read back.**  From any file whose body has no
    empty line and no line feed in a line, and whose labels have neither a colon
    nor a line feed, one decoder recovers the body and the strings, whatever the
    texts are.  Written between quotes a text has no line feed and no tab, ends
    at the first quote that is not escaped, and can be read back. -/
theorem decode?_render {listing : Listing}
    (hbody : ∀ line ∈ listing.body, line.text ≠ "" ∧ '\n' ∉ line.text.toList)
    (hlabels : ∀ entry ∈ listing.strings,
      ':' ∉ entry.label.toList ∧ '\n' ∉ entry.label.toList) :
    decode? listing.render = some (listing.body.toList.map Line.text, listing.strings.toList) ∧
      ∀ (text : String) (rest : List Char),
        '\n' ∉ (StringEntry.escape text).toList ∧ '\t' ∉ (StringEntry.escape text).toList ∧
          StringEntry.closingQuote? ((StringEntry.escape text).toList ++ '"' :: rest) =
            some ((StringEntry.escape text).toList, rest) ∧
          StringEntry.unescape? (StringEntry.escape text).toList = some text.toList := by
  constructor
  · have hlines : linesOf listing.render.toList = listing.fileLines := by
      rw [toList_render]
      exact linesOf_ofLines (not_mem_fileLines (fun line h => (hbody line h).2)
        fun entry h => (hlabels entry h).2)
    have hentries := mapM_ofLine?_line fun entry h =>
      (hlabels entry (Array.mem_toList_iff.mp h)).1
    obtain ⟨htake, hdrop⟩ := body_of_behindOpening fun line h => (hbody line h).1
    simp only [decode?, hlines, dropPrefix?_fileLines, Option.bind_eq_bind, Option.bind_some, hdrop,
      List.dropPrefix?_append_of_beq _ (BEq.refl endingLines), hentries, htake, List.map_map,
      Function.comp_def, String.ofList_toList]
    rfl
  · intro text rest
    obtain ⟨hfeed, htab⟩ := StringEntry.not_mem_escape text
    exact ⟨hfeed, htab, StringEntry.closingQuote?_escape text rest,
      StringEntry.unescape?_escape text⟩

-- The body looks like the ending of a file, and a text like a further entry.
theorem decode?_render_of_lookalikes :
    let entry : StringEntry := ⟨"str_0", "\\\"\n\tstr_1: \t\t .asciiz \"\\n\"\n# Postlog:"⟩
    let listing : Listing := { body := #[.verbatim "# Postlog:", .label "L"], strings := #[entry] }
    decode? listing.render = some (["# Postlog:", "L:"], [entry]) := by
  intro entry listing
  have hbody : ∀ line ∈ listing.body, line.text ≠ "" ∧ '\n' ∉ line.text.toList := by
    decide +kernel
  have hlabels : ∀ entry ∈ listing.strings,
      ':' ∉ entry.label.toList ∧ '\n' ∉ entry.label.toList := by
    decide +kernel
  exact (decode?_render hbody hlabels).1

end Listing

end OnePass
