/-
  OnePass/Proofs/Grammar.lean
  ===========================
  **The grammar of declarations and references** — which texts are read, and as
  what.

  The form `name[index]` has five parts, three of them blanks (`Bracketed`).  Each
  part ends where a character comes that cannot belong to it, so a text has the
  form in at most one way, and reading part by part finds it.  What the index may
  be is up to the use: declarations ask for a size, references for a number or
  anything that does not begin like one.
-/
import OnePass.Proofs.Numerals

namespace OnePass

/-! ### Names, blanks and trimmed texts -/

namespace Text

/-- A Latin letter or an underscore, and word characters behind it. -/
def IsIdentifier (text : List Char) : Prop :=
  ∃ first rest, text = first :: rest ∧
    (('A' ≤ first ∧ first ≤ 'Z') ∨ ('a' ≤ first ∧ first ≤ 'z') ∨ first = '_') ∧
    ∀ c ∈ rest, isWord c = true

theorem isNameStart_iff {c : Char} :
    isNameStart c = true ↔ ('A' ≤ c ∧ c ≤ 'Z') ∨ ('a' ≤ c ∧ c ≤ 'z') ∨ c = '_' := by
  simp [isNameStart, Char.isAlpha, Char.isUpper, Char.isLower, Char.le_def, or_assoc]

theorem isName_iff {text : List Char} : isName text = true ↔ IsIdentifier text := by
  cases text with
  | nil =>
    constructor
    · intro h
      cases h
    · rintro ⟨first, rest, heq, -⟩
      cases heq
  | cons first rest =>
    simp only [isName, Bool.and_eq_true, List.all_eq_true, isNameStart_iff]
    constructor
    · rintro ⟨hfirst, hrest⟩
      exact ⟨first, rest, rfl, hfirst, hrest⟩
    · rintro ⟨_, _, heq, hfirst, hrest⟩
      cases heq
      exact ⟨hfirst, hrest⟩

def Blanks (text : List Char) : Prop := ∀ c ∈ text, isBlank c = true

/-- The inner text is what is left of a text without the blanks at its ends. -/
structure Trimmed (text inner : List Char) : Prop where
  around : ∃ before after, text = before ++ inner ++ after ∧ Blanks before ∧ Blanks after
  head : ∀ c, inner.head? = some c → isBlank c = false
  last : ∀ c, inner.getLast? = some c → isBlank c = false

theorem blanks_before_trimStart (text : List Char) :
    ∃ before, text = before ++ trimStart text ∧ Blanks before :=
  ⟨text.takeWhile isBlank, List.takeWhile_append_dropWhile.symm,
    fun _ hc => List.mem_takeWhile_imp hc⟩

theorem trimmed_trim (text : List Char) : Trimmed text (trim text) := by
  obtain ⟨before, hbefore, hblanks⟩ := blanks_before_trimStart text
  obtain ⟨after, hafter, hblanks'⟩ := blanks_before_trimStart (trimStart text).reverse
  have hstart : trimStart text = trim text ++ after.reverse := by
    rw [trim, ← List.reverse_append, ← hafter, List.reverse_reverse]
  constructor
  · refine ⟨before, after.reverse, ?_, hblanks, ?_⟩
    · rw [List.append_assoc, ← hstart, ← hbefore]
    · intro c hc
      exact hblanks' c (List.mem_reverse.mp hc)
  · intro c hc
    have hhead : (trimStart text).head? = some c := by
      rw [hstart, List.head?_append, hc]
      rfl
    exact head?_trimStart hhead
  · intro c hc
    have hhead : (trimStart (trimStart text).reverse).head? = some c := by
      rw [← List.getLast?_reverse]
      exact hc
    exact head?_trimStart hhead

/-- The blanks around a text are all that is taken off. -/
theorem trim_of_blanks {before inner after : List Char} (hbefore : Blanks before)
    (hafter : Blanks after) (hne : inner ≠ [])
    (hhead : ∀ c, inner.head? = some c → isBlank c = false)
    (hlast : ∀ c, inner.getLast? = some c → isBlank c = false) :
    trim (before ++ inner ++ after) = inner := by
  have hstop : ∀ c, (inner ++ after).head? = some c → isBlank c = false := by
    intro c hc
    rw [List.head?_append_of_ne_nil _ hne] at hc
    exact hhead c hc
  have hblanks : ∀ c ∈ after.reverse, isBlank c = true := fun c hc =>
    hafter c (List.mem_reverse.mp hc)
  have hback : ∀ c, inner.reverse.head? = some c → isBlank c = false := by
    intro c hc
    rw [List.head?_reverse] at hc
    exact hlast c hc
  rw [trim, trimStart, trimStart, List.append_assoc, dropWhile_append_of_stop hbefore hstop,
    List.reverse_append, dropWhile_append_of_stop hblanks hback, List.reverse_reverse]

/-- Where a run of one class of characters is followed by a character outside the
    class, both are found again. -/
theorem append_inj_of_stop {p : Char → Bool} {xs ys xs' ys' : List Char}
    (hxs : ∀ c ∈ xs, p c = true) (hys : ∀ c, ys.head? = some c → p c = false)
    (hxs' : ∀ c ∈ xs', p c = true) (hys' : ∀ c, ys'.head? = some c → p c = false)
    (h : xs ++ ys = xs' ++ ys') : xs = xs' ∧ ys = ys' := by
  constructor
  · rw [← takeWhile_append_of_stop hxs hys, h, takeWhile_append_of_stop hxs' hys']
  · rw [← dropWhile_append_of_stop hxs hys, h, dropWhile_append_of_stop hxs' hys']

end Text

open Text

/-! ### The form with brackets -/

/-- A text of the form `name[index]`, in its parts: blanks may stand before the
    bracket and on both sides of the index. -/
@[ext]
structure Bracketed where
  name : List Char
  gap : List Char
  lead : List Char
  index : List Char
  tail : List Char
  isIdentifier : IsIdentifier name
  blanks_gap : Blanks gap
  blanks_lead : Blanks lead
  blanks_tail : Blanks tail
  index_ne : index ≠ []
  index_chars : ∀ c ∈ index, isBlank c = false ∧ c ≠ ']'

namespace Subscripted

theorem isIndexChar_iff {c : Char} : isIndexChar c = true ↔ isBlank c = false ∧ c ≠ ']' := by
  simp [isIndexChar]

end Subscripted

namespace Bracketed

def inner (b : Bracketed) : List Char := b.index ++ (b.tail ++ [']'])

def text (b : Bracketed) : List Char := b.name ++ (b.gap ++ '[' :: (b.lead ++ b.inner))

/-! Behind each part stands a character that cannot belong to it. -/

theorem isBlank_opening (rest : List Char) :
    ∀ c, ('[' :: rest).head? = some c → isBlank c = false := by
  rintro _ ⟨⟩
  decide

section Parts

variable (b : Bracketed)

theorem isName_name : isName b.name = true := isName_iff.mpr b.isIdentifier

theorem isIndexChar_index : ∀ c ∈ b.index, Subscripted.isIndexChar c = true :=
  fun c hc => Subscripted.isIndexChar_iff.mpr (b.index_chars c hc)

theorem isWord_behind_name (rest : List Char) :
    ∀ c, (b.gap ++ '[' :: rest).head? = some c → isWord c = false := by
  apply stop_of_blanks _ b.blanks_gap
  · rintro _ ⟨⟩
    exact isWord_opening
  · intro c hblank
    by_contra hword
    rw [isBlank_of_isWord (Bool.eq_true_of_not_eq_false hword)] at hblank
    cases hblank

theorem isBlank_behind_lead : ∀ c, b.inner.head? = some c → isBlank c = false := by
  intro c hc
  obtain ⟨d, index, hindex⟩ := List.exists_cons_of_ne_nil b.index_ne
  rw [inner, hindex] at hc
  cases hc
  exact (b.index_chars c (by rw [hindex]; exact List.mem_cons_self)).1

end Parts

/-- A text has the form in at most one way. -/
theorem text_injective : Function.Injective text := by
  intro b b' h
  obtain ⟨hname, h⟩ := append_inj_of_stop (isWord_of_isName b.isName_name)
    (b.isWord_behind_name _) (isWord_of_isName b'.isName_name) (b'.isWord_behind_name _) h
  obtain ⟨hgap, h⟩ := append_inj_of_stop b.blanks_gap (isBlank_opening _) b'.blanks_gap
    (isBlank_opening _) h
  obtain ⟨hlead, h⟩ := append_inj_of_stop b.blanks_lead b.isBlank_behind_lead b'.blanks_lead
    b'.isBlank_behind_lead (List.cons.inj h).2
  obtain ⟨hindex, h⟩ := append_inj_of_stop b.isIndexChar_index
    (Subscripted.isIndexChar_behind_index b.blanks_tail) b'.isIndexChar_index
    (Subscripted.isIndexChar_behind_index b'.blanks_tail) h
  exact Bracketed.ext hname hgap hlead hindex (List.append_cancel_right h)

/-- Reading the parts one after the other finds them. -/
theorem parse?_text (b : Bracketed) : Subscripted.parse? b.text = some ⟨b.name, b.index⟩ := by
  have hscan : scanName b.text = some (b.name, b.gap ++ '[' :: (b.lead ++ b.inner)) :=
    scanName_append b.isName_name (b.isWord_behind_name _)
  have hgap : trimStart (b.gap ++ '[' :: (b.lead ++ b.inner)) = '[' :: (b.lead ++ b.inner) :=
    dropWhile_append_of_stop b.blanks_gap (isBlank_opening _)
  have hlead : trimStart (b.lead ++ b.inner) = b.inner :=
    dropWhile_append_of_stop b.blanks_lead b.isBlank_behind_lead
  have hclosed : Subscripted.closedIndex? b.inner = some b.index :=
    Subscripted.closedIndex?_append b.index_ne b.isIndexChar_index b.blanks_tail
  simp [Subscripted.parse?, hscan, Subscripted.afterOpening?, hgap, hlead, hclosed]

end Bracketed

namespace Text

theorem append_of_scanName {text name rest : List Char} (h : scanName text = some (name, rest)) :
    text = name ++ rest := by
  cases text with
  | nil => cases h
  | cons c word =>
    simp only [scanName] at h
    split at h
    · cases h
      simp [List.takeWhile_append_dropWhile]
    · cases h

end Text

namespace Subscripted

theorem append_of_afterOpening? {text rest : List Char} (h : afterOpening? text = some rest) :
    ∃ gap lead, text = gap ++ '[' :: (lead ++ rest) ∧ Blanks gap ∧ Blanks lead := by
  obtain ⟨gap, hgap, hblanks⟩ := blanks_before_trimStart text
  unfold afterOpening? at h
  split at h
  · next inner hopening =>
    cases h
    obtain ⟨lead, hlead, hblanks'⟩ := blanks_before_trimStart inner
    refine ⟨gap, lead, ?_, hblanks, hblanks'⟩
    rw [← hlead, ← hopening, ← hgap]
  · cases h

theorem append_of_closedIndex? {text index : List Char} (h : closedIndex? text = some index) :
    ∃ tail, text = index ++ (tail ++ [']']) ∧ Blanks tail ∧ index ≠ [] ∧
      ∀ c ∈ index, isIndexChar c = true := by
  obtain ⟨tail, htail, hblanks⟩ := blanks_before_trimStart (text.dropWhile isIndexChar)
  simp only [closedIndex?] at h
  split at h
  · next hform =>
    cases h
    simp only [Bool.and_eq_true, Bool.not_eq_true', List.isEmpty_eq_false_iff, beq_iff_eq] at hform
    obtain ⟨hne, hclosing⟩ := hform
    refine ⟨tail, ?_, hblanks, hne, fun c hc => List.mem_takeWhile_imp hc⟩
    rw [← hclosing, ← htail, List.takeWhile_append_dropWhile]
  · cases h

/-- What is read has the form. -/
theorem exists_of_parse? {text : List Char} {form : Subscripted} (h : parse? text = some form) :
    ∃ b : Bracketed, b.text = text ∧ b.name = form.name ∧ b.index = form.index := by
  simp only [parse?, Option.bind_eq_bind, Option.bind_eq_some_iff, Option.pure_def,
    Option.some.injEq] at h
  obtain ⟨⟨name, rest⟩, hscan, index, ⟨inner, hopening, hclosed⟩, rfl⟩ := h
  obtain ⟨gap, lead, rfl, hgap, hlead⟩ := append_of_afterOpening? hopening
  obtain ⟨tail, rfl, htail, hne, hchars⟩ := append_of_closedIndex? hclosed
  exact ⟨{ name, gap, lead, index, tail
           isIdentifier := isName_iff.mp (isName_of_scanName hscan)
           blanks_gap := hgap
           blanks_lead := hlead
           blanks_tail := htail
           index_ne := hne
           index_chars := fun c hc => isIndexChar_iff.mp (hchars c hc) },
    (append_of_scanName hscan).symm, rfl, rfl⟩

theorem parse?_eq_none_iff {text : List Char} :
    parse? text = none ↔ ∀ b : Bracketed, b.text ≠ text := by
  constructor
  · rintro h b rfl
    rw [b.parse?_text] at h
    cases h
  · intro h
    cases hform : parse? text with
    | none => rfl
    | some form =>
      obtain ⟨b, htext, -⟩ := exists_of_parse? hform
      exact absurd htext (h b)

end Subscripted

theorem Bracketed.opening_mem (b : Bracketed) : '[' ∈ b.text := by
  simp [Bracketed.text]

/-- The form with brackets begins with a name and ends with a bracket. -/
theorem Bracketed.trim_around (b : Bracketed) {before after : List Char}
    (hbefore : Blanks before) (hafter : Blanks after) :
    trim (before ++ b.text ++ after) = b.text := by
  refine trim_of_blanks hbefore hafter (List.ne_nil_of_mem b.opening_mem) ?_ ?_
  · exact isBlank_head_of_isName b.isName_name _
  · intro c hc
    have hclosing :
        b.text = b.name ++ (b.gap ++ '[' :: (b.lead ++ (b.index ++ b.tail))) ++ [']'] := by
      simp [Bracketed.text, Bracketed.inner]
    rw [hclosing, List.getLast?_concat] at hc
    cases hc
    decide

/-! ### Declarations -/

namespace Declarator

/-- A name alone takes one word. -/
def IsPlain (text : List Char) (declarator : Declarator) : Prop :=
  '[' ∉ text ∧ IsIdentifier text ∧ declarator = ⟨String.ofList text, 1⟩

/-- A name and the number of elements in decimal, with neither sign nor leading
    zero.  At the largest number the last byte is still within reach of an offset. -/
def IsArray (text : List Char) (declarator : Declarator) : Prop :=
  ∃ b : Bracketed, b.text = text ∧ declarator.name = String.ofList b.name ∧
    b.index = (toString declarator.words).toList ∧
    1 ≤ declarator.words ∧ declarator.words ≤ 536870911

theorem array?_eq_some_iff {text : List Char} {declarator : Declarator} :
    array? text = some declarator ↔ IsArray text declarator := by
  simp only [array?, Option.bind_eq_bind, Option.bind_eq_some_iff, Option.pure_def,
    Option.some.injEq]
  constructor
  · rintro ⟨form, hform, words, hsize, rfl⟩
    obtain ⟨b, htext, hname, hindex⟩ := Subscripted.exists_of_parse? hform
    rw [← hindex] at hsize
    exact ⟨b, htext, by rw [hname], size?_eq_some_iff.mp hsize⟩
  · rintro ⟨b, rfl, hname, hsize⟩
    refine ⟨⟨b.name, b.index⟩, b.parse?_text, declarator.words, size?_eq_some_iff.mpr hsize, ?_⟩
    rw [← hname]

theorem IsArray.unique {text : List Char} {declarator other : Declarator}
    (h : IsArray text declarator) (h' : IsArray text other) : declarator = other := by
  have hsome := array?_eq_some_iff.mpr h
  rw [array?_eq_some_iff.mpr h'] at hsome
  exact (Option.some.inj hsome).symm

theorem IsArray.opening_mem {text : List Char} {declarator : Declarator}
    (h : IsArray text declarator) : '[' ∈ text := by
  obtain ⟨b, rfl, -⟩ := h
  exact b.opening_mem

theorem ofTrimmed_eq_ok_iff {text : List Char} {declarator : Declarator} :
    ofTrimmed text = .ok declarator ↔ IsPlain text declarator ∨ IsArray text declarator := by
  by_cases hopening : '[' ∈ text
  · have hplain : ¬ IsPlain text declarator := fun h => h.1 hopening
    rw [or_iff_right hplain, ← array?_eq_some_iff, ofTrimmed, if_pos (by simpa using hopening)]
    cases array? text <;> simp
  · have harray : ¬ IsArray text declarator := fun h => hopening h.opening_mem
    rw [or_iff_left harray, ofTrimmed, if_neg (by simpa using hopening), IsPlain, ← isName_iff]
    cases isName text <;> simp [hopening, eq_comm]

theorem ofTrimmed_eq_error {text : List Char}
    (h : ∀ declarator, ofTrimmed text ≠ .ok declarator) :
    ofTrimmed text = .error (if '[' ∈ text then .invalidArrayDeclaration (String.ofList text)
      else .invalidIdentifier (String.ofList text)) := by
  unfold ofTrimmed at h ⊢
  by_cases hopening : '[' ∈ text
  · simp only [List.contains_iff_mem, hopening, if_true] at h ⊢
    cases harray : array? text with
    | none => rfl
    | some declarator => exact absurd (by simp [harray]) (h declarator)
  · simp only [List.contains_iff_mem, hopening, if_false] at h ⊢
    cases hname : isName text with
    | false => rfl
    | true => exact absurd (by simp [hname]) (h ⟨String.ofList text, 1⟩)

/-- What a declaration is read as, for every text: with the blanks at its ends
    taken off it is a plain name or a name with a size in brackets, in one way
    only, and every other text is refused as a whole. -/
theorem declarations_read_exactly (spec : String) :
    let text := trim spec.toList
    Trimmed spec.toList text ∧
      (∀ declarator,
        parse spec = .ok declarator ↔ IsPlain text declarator ∨ IsArray text declarator) ∧
      (∀ declarator other,
        IsArray text declarator → IsArray text other → declarator = other) ∧
      ((∀ declarator, ¬ IsPlain text declarator ∧ ¬ IsArray text declarator) →
        parse spec = .error (if '[' ∈ text then .invalidArrayDeclaration (String.ofList text)
          else .invalidIdentifier (String.ofList text))) := by
  intro text
  refine ⟨trimmed_trim _, fun _ => ofTrimmed_eq_ok_iff, fun _ _ => IsArray.unique, ?_⟩
  intro hneither
  apply ofTrimmed_eq_error
  intro declarator hok
  rcases ofTrimmed_eq_ok_iff.mp hok with hplain | harray
  · exact (hneither declarator).1 hplain
  · exact (hneither declarator).2 harray

-- The largest array; with one word more its last byte would be out of reach.
example : parse "a [536870911]" = .ok ⟨"a", 536870911⟩ := by decide +kernel

example : parse "a [536870912]" = .error (.invalidArrayDeclaration "a [536870912]") := by
  decide +kernel

end Declarator

/-! ### References -/

namespace Access

/-- An index that begins with a minus sign or a digit. -/
def IsNumeric (index : List Char) : Prop :=
  ∃ c rest, index = c :: rest ∧ (c = '-' ∨ ('0' ≤ c ∧ c ≤ '9'))

theorem isNumeric_iff {index : List Char} : isNumeric index = true ↔ IsNumeric index := by
  cases index with
  | nil => simp [isNumeric, IsNumeric]
  | cons c rest => simp [isNumeric, IsNumeric, Char.isDigit, Char.le_def]

theorem not_isNumeric_of_isIdentifier {index : List Char} (h : IsIdentifier index) :
    ¬ IsNumeric index := by
  intro hnumeric
  rw [← isNumeric_iff, isNumeric_of_isName (isName_iff.mpr h)] at hnumeric
  cases hnumeric

theorem IsLiteral.isNumeric {index : List Char} {value : Nat} (h : IsLiteral index value) :
    IsNumeric index := by
  rcases h with ⟨-, zeros, rfl⟩ | ⟨-, zeros, rfl⟩
  · rw [toList_toString]
    have hne : List.replicate zeros '0' ++ Nat.toDigits 10 value ≠ [] :=
      List.append_ne_nil_of_right_ne_nil _ Nat.toDigits_ne_nil
    obtain ⟨c, rest, heq⟩ := List.exists_cons_of_ne_nil hne
    have hmem : c ∈ List.replicate zeros '0' ++ Nat.toDigits 10 value := by
      rw [heq]
      exact List.mem_cons_self
    have hdigit : c.isDigit = true := by
      rcases List.mem_append.mp hmem with hzero | hdigit
      · rw [List.eq_of_mem_replicate hzero]
        rfl
      · exact Nat.isDigit_of_mem_toDigits (by decide) (by decide) hdigit
    exact ⟨c, rest, heq, Or.inr (by simpa [Char.isDigit, Char.le_def] using hdigit)⟩
  · exact ⟨'-', _, rfl, Or.inl rfl⟩

theorem ofTrimmed_plain {text : List Char} (h : ∀ b : Bracketed, b.text ≠ text) :
    ofTrimmed text = .ok ⟨String.ofList text, none⟩ := by
  simp [ofTrimmed, Subscripted.parse?_eq_none_iff.mpr h]

theorem ofTrimmed_named {b : Bracketed} (h : ¬ IsNumeric b.index) :
    ofTrimmed b.text =
      .ok ⟨String.ofList b.name, some (.named (String.ofList b.index))⟩ := by
  rw [← isNumeric_iff] at h
  simp [ofTrimmed, b.parse?_text, h]

theorem ofTrimmed_eq_literal_iff {b : Bracketed} (h : IsNumeric b.index) {index : Nat} :
    ofTrimmed b.text = .ok ⟨String.ofList b.name, some (.literal index)⟩ ↔
      IsLiteral b.index index := by
  rw [← isNumeric_iff] at h
  rw [← literal?_eq_some_iff]
  cases hliteral : literal? b.index <;> simp [ofTrimmed, b.parse?_text, h, hliteral]

theorem ofTrimmed_eq_error {b : Bracketed} (h : IsNumeric b.index)
    (hnone : ∀ index, ¬ IsLiteral b.index index) :
    ofTrimmed b.text = .error (.invalidArrayIndex (String.ofList b.text)) := by
  have hliteral : literal? b.index = none :=
    Option.eq_none_iff_forall_ne_some.mpr fun index hsome =>
      hnone index (literal?_eq_some_iff.mp hsome)
  simp [ofTrimmed, b.parse?_text, isNumeric_iff.mpr h, hliteral]

/-- What a reference is read as, for every text: the blanks at its ends are taken
    off, and the form with brackets is found in it if it is there, in one way only.
    An index that begins like a number has to be the literal of a word; any other
    index is a name, so neither is taken for the other. -/
theorem references_read_exactly (spec : String) :
    let text := trim spec.toList
    Trimmed spec.toList text ∧
      (∀ b b' : Bracketed, b.text = text → b'.text = text → b = b') ∧
      ((∀ b : Bracketed, b.text ≠ text) → parse spec = .ok ⟨String.ofList text, none⟩) ∧
      ∀ b : Bracketed, b.text = text →
        (IsNumeric b.index →
          (∀ index, parse spec = .ok ⟨String.ofList b.name, some (.literal index)⟩ ↔
            IsLiteral b.index index) ∧
          ((∀ index, ¬ IsLiteral b.index index) →
            parse spec = .error (.invalidArrayIndex (String.ofList text)))) ∧
        (¬ IsNumeric b.index →
          parse spec =
            .ok ⟨String.ofList b.name, some (.named (String.ofList b.index))⟩) ∧
        (IsIdentifier b.index → ¬ IsNumeric b.index) := by
  intro text
  refine ⟨trimmed_trim _, ?_, ofTrimmed_plain, ?_⟩
  · intro b b' h h'
    exact Bracketed.text_injective (h.trans h'.symm)
  · intro b htext
    simp only [parse, show trim spec.toList = b.text from htext.symm, ← htext]
    refine ⟨fun hnumeric => ⟨?_, ?_⟩, ofTrimmed_named, not_isNumeric_of_isIdentifier⟩
    · intro index
      exact ofTrimmed_eq_literal_iff hnumeric
    · exact ofTrimmed_eq_error hnumeric

-- Zero may have a minus sign.
example : parse "a[ -00 ]" = .ok ⟨"a", some (.literal 0)⟩ := by decide +kernel

end Access

end OnePass
