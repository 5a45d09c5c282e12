/-
  OnePass/Proofs/Spelling.lean
  ============================
  **Spelling** — which characters names are made of, and how references are read.

  A word character is neither blank nor a bracket, so the end of a name can be
  seen in the text.  From this follow the three spellings of a reference, `x`,
  `a[3]` and `a[i]`, and what every accepted declaration has in common.
-/
import OnePass.Access
import OnePass.Declarator
import OnePass.GeneratedName
import Mathlib

namespace OnePass

namespace Text

/-! ### Word characters -/

/-- No range of the first table meets a range of the second. -/
def RangeTable.apart (first second : RangeTable) : Bool :=
  first.all fun r => second.all fun q => decide (r.2 < q.1) || decide (q.2 < r.1)

theorem RangeTable.not_holds_of_apart {first second : RangeTable} {c : Char}
    (h : first.apart second = true) (hfirst : first.holds c = true) : second.holds c = false := by
  obtain ⟨r, hr, hlow, hhigh⟩ := RangeTable.holds_iff.mp hfirst
  refine Bool.eq_false_iff.mpr fun hsecond => ?_
  obtain ⟨q, hq, hlow', hhigh'⟩ := RangeTable.holds_iff.mp hsecond
  simp only [RangeTable.apart, List.all_eq_true, Bool.or_eq_true, decide_eq_true_eq] at h
  have := h r hr q hq
  omega

theorem wordRanges_apart_blankRanges : wordRanges.apart blankRanges = true := by
  decide +kernel

theorem isBlank_of_isWord {c : Char} (h : isWord c = true) : isBlank c = false :=
  RangeTable.not_holds_of_apart wordRanges_apart_blankRanges h

theorem isWord_opening : isWord '[' = false := by decide +kernel

theorem isWord_closing : isWord ']' = false := by decide +kernel

theorem isWord_hash : isWord '#' = false := by decide +kernel

theorem isWord_of_isNameStart {c : Char} (h : isNameStart c = true) : isWord c = true := by
  simp only [isNameStart, Char.isAlpha, Char.isUpper, Char.isLower, Bool.or_eq_true,
    Bool.and_eq_true, decide_eq_true_eq, beq_iff_eq] at h
  rcases h with (⟨hlow, hhigh⟩ | ⟨hlow, hhigh⟩) | rfl
  · exact RangeTable.holds_iff.mpr ⟨(0x41, 0x5A), by decide +kernel, hlow, hhigh⟩
  · exact RangeTable.holds_iff.mpr ⟨(0x61, 0x7A), by decide +kernel, hlow, hhigh⟩
  · decide +kernel

theorem isWord_of_isName {text : List Char} (h : isName text = true) :
    ∀ c ∈ text, isWord c = true := by
  cases text with
  | nil => nofun
  | cons c rest =>
    simp only [isName, Bool.and_eq_true, List.all_eq_true] at h
    intro d hd
    rcases List.mem_cons.mp hd with rfl | hd
    · exact isWord_of_isNameStart h.1
    · exact h.2 d hd

/-- A run of one class of characters ends where another character comes. -/
theorem takeWhile_append_of_stop {p : Char → Bool} {xs ys : List Char}
    (hxs : ∀ c ∈ xs, p c = true) (hys : ∀ c, ys.head? = some c → p c = false) :
    (xs ++ ys).takeWhile p = xs := by
  rw [List.takeWhile_append_of_pos hxs]
  cases ys with
  | nil => simp
  | cons c rest => simp [hys c rfl]

theorem dropWhile_append_of_stop {p : Char → Bool} {xs ys : List Char}
    (hxs : ∀ c ∈ xs, p c = true) (hys : ∀ c, ys.head? = some c → p c = false) :
    (xs ++ ys).dropWhile p = ys := by
  rw [List.dropWhile_append_of_pos hxs]
  cases ys with
  | nil => rfl
  | cons c rest => simp [hys c rfl]

/-- A class without blanks ends where blanks come, or where it ends behind them. -/
theorem stop_of_blanks {p : Char → Bool} {blanks rest : List Char}
    (hp : ∀ c, isBlank c = true → p c = false) (hblanks : ∀ c ∈ blanks, isBlank c = true)
    (hrest : ∀ c, rest.head? = some c → p c = false) :
    ∀ c, (blanks ++ rest).head? = some c → p c = false := by
  intro c hc
  cases blanks with
  | nil => exact hrest c hc
  | cons d more =>
    cases hc
    exact hp c (hblanks c List.mem_cons_self)

/-- A name is what it is scanned from, up to the first character that cannot
    belong to it. -/
theorem scanName_append {name rest : List Char} (hname : isName name = true)
    (hrest : ∀ c, rest.head? = some c → isWord c = false) :
    scanName (name ++ rest) = some (name, rest) := by
  cases name with
  | nil => cases hname
  | cons c word =>
    simp only [isName, Bool.and_eq_true, List.all_eq_true] at hname
    obtain ⟨hstart, hword⟩ := hname
    simp only [scanName, List.cons_append, hstart, if_true, takeWhile_append_of_stop hword hrest,
      dropWhile_append_of_stop hword hrest]

theorem isName_of_scanName {text name rest : List Char} (h : scanName text = some (name, rest)) :
    isName name = true := by
  cases text with
  | nil => cases h
  | cons c word =>
    simp only [scanName] at h
    split at h
    · next hstart =>
      simp only [Option.some.injEq, Prod.mk.injEq] at h
      rw [← h.1]
      simp [isName, hstart]
    · cases h

/-! ### Decimal texts -/

theorem toList_toString (n : Nat) : (toString n).toList = Nat.toDigits 10 n := by
  rw [Nat.toString_eq_ofList_toDigits, String.toList_ofList]

theorem isDigit_of_mem_toString {n : Nat} {c : Char} (h : c ∈ (toString n).toList) :
    c.isDigit = true := by
  rw [toList_toString] at h
  exact Nat.isDigit_of_mem_toDigits (by decide) (by decide) h

theorem not_mem_toString {n : Nat} {c : Char} (h : c.isDigit = false) :
    c ∉ (toString n).toList := by
  intro hmem
  rw [isDigit_of_mem_toString hmem] at h
  cases h

/-! ### Trimming -/

theorem trimStart_of_head {text : List Char}
    (h : ∀ c, text.head? = some c → isBlank c = false) : trimStart text = text := by
  cases text with
  | nil => rfl
  | cons c rest => simp [trimStart, h c rfl]

theorem trim_of_ends {text : List Char} (hhead : ∀ c, text.head? = some c → isBlank c = false)
    (hlast : ∀ c, text.getLast? = some c → isBlank c = false) : trim text = text := by
  unfold trim
  rw [trimStart_of_head hhead, trimStart_of_head (by simpa using hlast), List.reverse_reverse]

theorem isBlank_head_of_isName {name : List Char} (h : isName name = true) (rest : List Char) :
    ∀ c, (name ++ rest).head? = some c → isBlank c = false := by
  intro c hc
  refine isBlank_of_isWord (isWord_of_isName h c ?_)
  cases name with
  | nil => cases h
  | cons d word =>
    simp only [List.cons_append, List.head?_cons, Option.some.injEq] at hc
    rw [hc]
    exact List.mem_cons_self

theorem trim_of_isName {name : List Char} (h : isName name = true) : trim name = name := by
  refine trim_of_ends (fun c hc => ?_) fun c hc => ?_
  · exact isBlank_head_of_isName h [] c (by rwa [List.append_nil])
  · exact isBlank_of_isWord (isWord_of_isName h c (List.mem_of_getLast? hc))

theorem trim_bracketed {name inner : List Char} (h : isName name = true) :
    trim (name ++ '[' :: (inner ++ [']'])) = name ++ '[' :: (inner ++ [']']) := by
  refine trim_of_ends (isBlank_head_of_isName h _) fun c hc => ?_
  have hclosing : (name ++ '[' :: (inner ++ [']'])).getLast? = some ']' := by
    rw [← List.cons_append, ← List.append_assoc, List.getLast?_concat]
  rw [hclosing, Option.some.injEq] at hc
  rw [← hc]
  decide

end Text

open Text

/-! ### The form with brackets -/

namespace Subscripted

theorem parse?_of_isName {name : List Char} (h : isName name = true) : parse? name = none := by
  have hscan : scanName (name ++ []) = some (name, []) := scanName_append h nofun
  rw [List.append_nil] at hscan
  simp only [parse?, hscan, Option.bind_eq_bind, Option.bind_some]
  rfl

theorem isIndexChar_behind_index {tail : List Char} (htail : ∀ c ∈ tail, isBlank c = true) :
    ∀ c, (tail ++ [']']).head? = some c → isIndexChar c = false := by
  apply stop_of_blanks _ htail
  · rintro _ ⟨⟩
    decide
  · intro c hblank
    simp [isIndexChar, hblank]

theorem closedIndex?_append {index tail : List Char} (hne : index ≠ [])
    (h : ∀ c ∈ index, isIndexChar c = true) (htail : ∀ c ∈ tail, isBlank c = true) :
    closedIndex? (index ++ (tail ++ [']'])) = some index := by
  have hstop := isIndexChar_behind_index htail
  have hclosing : trimStart (tail ++ [']']) = [']'] := by
    apply dropWhile_append_of_stop htail
    rintro _ ⟨⟩
    decide
  simp [closedIndex?, takeWhile_append_of_stop h hstop, dropWhile_append_of_stop h hstop, hclosing,
    hne]

theorem parse?_bracketed {name index : List Char} (hname : isName name = true)
    (hne : index ≠ []) (hindex : ∀ c ∈ index, isIndexChar c = true) :
    parse? (name ++ '[' :: (index ++ [']'])) = some ⟨name, index⟩ := by
  have hscan : scanName (name ++ '[' :: (index ++ [']'])) =
      some (name, '[' :: (index ++ [']'])) := by
    refine scanName_append hname fun c hc => ?_
    simp only [List.head?_cons, Option.some.injEq] at hc
    rw [← hc]
    exact isWord_opening
  have hopening : trimStart ('[' :: (index ++ [']'])) = '[' :: (index ++ [']']) := by
    refine trimStart_of_head fun c hc => ?_
    simp only [List.head?_cons, Option.some.injEq] at hc
    rw [← hc]
    decide
  have hinner : trimStart (index ++ [']']) = index ++ [']'] := by
    refine trimStart_of_head fun c hc => ?_
    obtain ⟨d, rest, rfl⟩ := List.exists_cons_of_ne_nil hne
    simp only [List.cons_append, List.head?_cons, Option.some.injEq] at hc
    have hd := hindex d List.mem_cons_self
    simp only [isIndexChar, Bool.and_eq_true, Bool.not_eq_true'] at hd
    rw [← hc]
    exact hd.1
  have hclosed : closedIndex? (index ++ ([] ++ [']'])) = some index :=
    closedIndex?_append hne hindex (List.forall_mem_nil _)
  rw [List.nil_append] at hclosed
  simp only [parse?, hscan, Option.bind_eq_bind, Option.bind_some, afterOpening?, hopening, hinner,
    hclosed]
  rfl

/-- What stands in the brackets does not depend on the name before them. -/
theorem parse?_opening {name inner : List Char} (hname : isName name = true) :
    parse? (name ++ '[' :: inner) =
      ((afterOpening? ('[' :: inner)).bind closedIndex?).map (Subscripted.mk name) := by
  have hscan : scanName (name ++ '[' :: inner) = some (name, '[' :: inner) := by
    apply scanName_append hname
    intro c hc
    simp only [List.head?_cons, Option.some.injEq] at hc
    rw [← hc]
    exact isWord_opening
  simp only [parse?, hscan, Option.bind_eq_bind, Option.bind_some]
  cases (afterOpening? ('[' :: inner)).bind closedIndex? <;> rfl

theorem isIndexChar_of_isDigit {c : Char} (h : c.isDigit = true) : isIndexChar c = true := by
  simp only [Char.isDigit, Bool.and_eq_true, decide_eq_true_eq] at h
  have hdigit : RangeTable.holds [(0x30, 0x39)] c = true :=
    RangeTable.holds_iff.mpr ⟨(0x30, 0x39), List.mem_singleton_self _, h.1, h.2⟩
  have hblank : isBlank c = false := RangeTable.not_holds_of_apart (by decide) hdigit
  simp only [isIndexChar, hblank, Bool.not_false, Bool.true_and, bne_iff_ne]
  rintro rfl
  exact absurd h.2 (by decide)

theorem isName_of_parse? {text : List Char} {form : Subscripted} (h : parse? text = some form) :
    isName form.name = true := by
  simp only [parse?, Option.bind_eq_bind, Option.bind_eq_some_iff] at h
  obtain ⟨⟨name, rest⟩, hscan, index, -, hform⟩ := h
  simp only [Option.pure_def, Option.some.injEq] at hform
  rw [← hform]
  exact isName_of_scanName hscan

end Subscripted

/-! ### References -/

namespace Access

theorem parse_name {name : String} (h : isName name.toList = true) :
    parse name = .ok { name } := by
  simp only [parse, ofTrimmed, trim_of_isName h, Subscripted.parse?_of_isName h,
    String.ofList_toList]

theorem isNumeric_of_isName {name : List Char} (h : isName name = true) :
    isNumeric name = false := by
  cases name with
  | nil => cases h
  | cons c rest =>
    simp only [isName, isNameStart, Char.isAlpha, Char.isUpper, Char.isLower, Bool.and_eq_true,
      Bool.or_eq_true, decide_eq_true_eq, beq_iff_eq] at h
    simp only [isNumeric, List.head?_cons, Option.any_some, Bool.or_eq_false_iff,
      beq_eq_false_iff_ne, Char.isDigit, Bool.and_eq_false_iff, decide_eq_false_iff_not]
    rcases h.1 with (⟨hlow, hhigh⟩ | ⟨hlow, hhigh⟩) | rfl
    · refine ⟨?_, Or.inr ?_⟩
      · rintro rfl
        revert hlow
        decide
      · intro hle
        exact absurd (UInt32.le_trans hlow hle) (by decide)
    · refine ⟨?_, Or.inr ?_⟩
      · rintro rfl
        revert hlow
        decide
      · intro hle
        exact absurd (UInt32.le_trans hlow hle) (by decide)
    · decide

/-- How the element of an array is referred to. -/
def spelling (array index : String) : String := array ++ "[" ++ index ++ "]"

theorem toList_spelling (array index : String) :
    (spelling array index).toList = array.toList ++ '[' :: (index.toList ++ [']']) := by
  simp [spelling, String.toList_append]

theorem parse_named {array index : String} (harray : isName array.toList = true)
    (hindex : isName index.toList = true) :
    parse (spelling array index) = .ok { name := array, subscript := some (.named index) } := by
  have hne : index.toList ≠ [] := by
    intro hnil
    rw [hnil] at hindex
    cases hindex
  have hchars : ∀ c ∈ index.toList, Subscripted.isIndexChar c = true := by
    intro c hc
    have hword := isWord_of_isName hindex c hc
    simp only [Subscripted.isIndexChar, isBlank_of_isWord hword, Bool.not_false, Bool.true_and,
      bne_iff_ne]
    rintro rfl
    rw [isWord_closing] at hword
    cases hword
  have hform := Subscripted.parse?_bracketed harray hne hchars
  simp [parse, ofTrimmed, toList_spelling, trim_bracketed harray, hform, isNumeric_of_isName hindex,
    String.ofList_toList]

theorem literal?_toDigits {index : Nat} (h : FitsWord index) :
    literal? (Nat.toDigits 10 index) = some index := by
  have hdigits : ∀ c ∈ Nat.toDigits 10 index, c.isDigit = true := fun c hc =>
    Nat.isDigit_of_mem_toDigits (by decide) (by decide) hc
  have hvalue : numeral? (Nat.toDigits 10 index) = some index := by
    simp [numeral?, isNumeral, Nat.toDigits_ne_nil]
    exact hdigits
  have hsign : ∀ rest, Nat.toDigits 10 index ≠ '-' :: rest := by
    intro rest heq
    have hminus := hdigits '-' (by rw [heq]; exact List.mem_cons_self)
    revert hminus
    decide
  unfold literal?
  split
  · next rest heq => exact absurd heq (hsign rest)
  · rw [hvalue, Option.filter_some, if_pos (decide_eq_true h)]

theorem parse_literal {array : String} {index : Nat} (harray : isName array.toList = true)
    (hindex : FitsWord index) :
    parse (spelling array (toString index)) =
      .ok { name := array, subscript := some (.literal index) } := by
  have htext : (toString index).toList = Nat.toDigits 10 index := toList_toString index
  have hdigits : ∀ c ∈ Nat.toDigits 10 index, c.isDigit = true := fun c hc =>
    Nat.isDigit_of_mem_toDigits (by decide) (by decide) hc
  have hchars : ∀ c ∈ Nat.toDigits 10 index, Subscripted.isIndexChar c = true := by
    intro c hc
    exact Subscripted.isIndexChar_of_isDigit (hdigits c hc)
  have hnumeric : isNumeric (Nat.toDigits 10 index) = true := by
    obtain ⟨c, rest, heq⟩ := List.exists_cons_of_ne_nil (Nat.toDigits_ne_nil (n := index) (b := 10))
    have hc := hdigits c (by rw [heq]; exact List.mem_cons_self)
    simp [isNumeric, heq, hc]
  have hform := Subscripted.parse?_bracketed harray Nat.toDigits_ne_nil hchars
  simp only [parse, ofTrimmed, toList_spelling, htext, trim_bracketed harray, hform, hnumeric,
    literal?_toDigits hindex, String.ofList_toList, if_true]

/-- A subscript that is meant as a number is one, or is refused. -/
theorem parse_numeric {array index : String} (harray : isName array.toList = true)
    (hchars : ∀ c ∈ index.toList, Subscripted.isIndexChar c = true)
    (hnumeric : isNumeric index.toList = true) :
    parse (spelling array index) =
      match literal? index.toList with
      | some value => .ok { name := array, subscript := some (.literal value) }
      | none => .error (.invalidArrayIndex (spelling array index)) := by
  have hne : index.toList ≠ [] := by
    intro hnil
    rw [hnil] at hnumeric
    cases hnumeric
  have hform := Subscripted.parse?_bracketed harray hne hchars
  cases hvalue : literal? index.toList with
  | none =>
    simp only [parse, ofTrimmed, toList_spelling, trim_bracketed harray, hform, hnumeric, hvalue,
      if_true]
    rw [← toList_spelling, String.ofList_toList]
  | some value =>
    simp only [parse, ofTrimmed, toList_spelling, trim_bracketed harray, hform, hnumeric, hvalue,
      if_true, String.ofList_toList]

end Access

/-! ### Declarations -/

namespace Declarator

theorem ofDigitChars_pos {c : Char} {rest : List Char} (h : '0'.toNat < c.toNat) :
    0 < Nat.ofDigitChars 10 (c :: rest) 0 := by
  rw [Nat.ofDigitChars_cons, Nat.ofDigitChars_eq_ofDigitChars_zero]
  have hdigit : 0 < 10 * 0 + (c.toNat - '0'.toNat) := by omega
  have hpower : 0 < 10 ^ rest.length := Nat.pow_pos (by decide)
  have := Nat.mul_pos hpower hdigit
  omega

theorem size?_pos {index : List Char} {words : Nat} (h : size? index = some words) : 0 < words := by
  simp only [size?] at h
  split at h
  · cases h
  · next hzero =>
    obtain ⟨hvalue, -⟩ := Option.filter_eq_some_iff.mp h
    simp only [numeral?, isNumeral, Option.ite_none_right_eq_some, Bool.and_eq_true,
      Option.some.injEq] at hvalue
    obtain ⟨⟨hne, hdigits⟩, rfl⟩ := hvalue
    cases index with
    | nil => cases hne
    | cons c rest =>
      refine ofDigitChars_pos ?_
      simp only [List.all_cons, Bool.and_eq_true, Char.isDigit, decide_eq_true_eq] at hdigits
      have hlow : '0'.toNat ≤ c.toNat := hdigits.1.1
      refine Nat.lt_of_le_of_ne hlow fun heq => hzero ?_
      rw [List.head?_cons, Char.toNat_inj.mp heq]

theorem parse_eq_ok {spec : String} {declarator : Declarator} (h : parse spec = .ok declarator) :
    isName declarator.name.toList = true ∧ 0 < declarator.words := by
  simp only [parse, ofTrimmed] at h
  split at h
  · split at h
    · next found harray =>
      cases h
      simp only [array?, Option.bind_eq_bind, Option.bind_eq_some_iff] at harray
      obtain ⟨form, hform, words, hwords, heq⟩ := harray
      simp only [Option.pure_def, Option.some.injEq] at heq
      rw [← heq]
      exact ⟨by simpa using Subscripted.isName_of_parse? hform, size?_pos hwords⟩
    · cases h
  · split at h
    · next hname =>
      cases h
      exact ⟨by simpa using hname, Nat.one_pos⟩
    · cases h

theorem contains_opening {name : List Char} (h : isName name = true) :
    name.contains '[' = false := by
  rw [List.contains_eq_mem, decide_eq_false_iff_not]
  intro hmem
  have hword := isWord_of_isName h '[' hmem
  rw [isWord_opening] at hword
  cases hword

theorem parse_name {name : String} (h : isName name.toList = true) :
    parse name = .ok { name, words := 1 } := by
  simp only [parse, ofTrimmed, trim_of_isName h, contains_opening h, h, String.ofList_toList,
    Bool.false_eq_true, if_true, if_false]

/-- The number of elements that a text in brackets asks for. -/
def bracketed? (size : String) : Option Nat :=
  ((Subscripted.afterOpening? ('[' :: (size.toList ++ [']']))).bind
    Subscripted.closedIndex?).bind size?

theorem parse_spelling {array : String} (size : String) (h : isName array.toList = true) :
    parse (Access.spelling array size) =
      match bracketed? size with
      | some words => .ok { name := array, words }
      | none => .error (.invalidArrayDeclaration (Access.spelling array size)) := by
  have hcontains : (Access.spelling array size).toList.contains '[' = true := by
    simp [Access.toList_spelling]
  have harray : array? (Access.spelling array size).toList =
      (bracketed? size).map (Declarator.mk array) := by
    simp only [array?, Access.toList_spelling, Subscripted.parse?_opening h, bracketed?,
      Option.bind_eq_bind]
    cases (Subscripted.afterOpening? ('[' :: (size.toList ++ [']']))).bind
      Subscripted.closedIndex? with
    | none => rfl
    | some index =>
      simp only [Option.map_some, Option.bind_some, String.ofList_toList]
      cases size? index <;> rfl
  have htrim : trim (Access.spelling array size).toList = (Access.spelling array size).toList := by
    rw [Access.toList_spelling, trim_bracketed h]
  simp only [parse, ofTrimmed, htrim, hcontains, harray, if_true, String.ofList_toList]
  cases bracketed? size <;> rfl

end Declarator

/-! ### Names of programs and generated names -/

/-- A name that programs can write, as opposed to the names of temporaries. -/
def Writable (name : String) : Prop := '#' ∉ name.toList

theorem writable_of_isName {name : String} (h : Text.isName name.toList = true) :
    Writable name := by
  intro hmem
  have hword := Text.isWord_of_isName h '#' hmem
  rw [Text.isWord_hash] at hword
  cases hword

theorem not_writable_temporary (number : Nat) :
    ¬ Writable (generatedName .temporary number) := by
  simp [Writable, generatedName, NameKind.stem, String.toList_append]

theorem writable_stringLabel (number : Nat) : Writable (generatedName .stringLabel number) := by
  intro hmem
  simp only [generatedName, NameKind.stem, String.toList_append, List.mem_append] at hmem
  rcases hmem with hstem | hdigits
  · revert hstem
    decide
  · exact Text.not_mem_toString rfl hdigits

end OnePass
