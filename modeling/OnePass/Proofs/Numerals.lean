/-
  OnePass/Proofs/Numerals.lean
  ============================
  **Numerals** — which texts a number is read from.

  A run of digits is the decimal text of its value behind some zeros.  A size may
  not begin with a zero, so it is that text itself.  A literal subscript may have
  zeros before it, and with a minus sign it consists of zeros only.
-/
import OnePass.Proofs.Spelling

namespace OnePass

open Text

/-! ### Digits and values -/

namespace Text

theorem toNat_of_isDigit {c : Char} (h : c.isDigit = true) :
    '0'.toNat ≤ c.toNat ∧ c.toNat - '0'.toNat < 10 := by
  simp only [Char.isDigit, Bool.and_eq_true, decide_eq_true_eq] at h
  have hlow : '0'.toNat ≤ c.toNat := h.1
  have hhigh : c.toNat ≤ '9'.toNat := h.2
  have hdigits : '9'.toNat = '0'.toNat + 9 := rfl
  omega

theorem digitChar_of_isDigit {c : Char} (h : c.isDigit = true) :
    Nat.digitChar (c.toNat - '0'.toNat) = c := by
  obtain ⟨hlow, hvalue⟩ := toNat_of_isDigit h
  apply Char.toNat_inj.mp
  rw [Nat.toNat_digitChar_of_lt_ten hvalue]
  exact Nat.add_sub_of_le hlow

theorem toDigits_of_isDigit {c : Char} (h : c.isDigit = true) :
    Nat.toDigits 10 (c.toNat - '0'.toNat) = [c] := by
  rw [Nat.toDigits_of_lt_base (toNat_of_isDigit h).2, digitChar_of_isDigit h]

/-- Digits that follow a number other than zero stand behind its own. -/
theorem toDigits_ofDigitChars {digits : List Char} (h : ∀ c ∈ digits, c.isDigit = true) {n : Nat}
    (hn : 0 < n) :
    Nat.toDigits 10 (Nat.ofDigitChars 10 digits n) = Nat.toDigits 10 n ++ digits := by
  induction digits generalizing n with
  | nil => simp
  | cons c rest ih =>
    have hc := h c List.mem_cons_self
    have hrest : ∀ d ∈ rest, d.isDigit = true := fun d hd => h d (List.mem_cons_of_mem c hd)
    have hnext : Nat.toDigits 10 (10 * n + (c.toNat - '0'.toNat)) = Nat.toDigits 10 n ++ [c] := by
      rw [← Nat.toDigits_append_toDigits (by decide) hn (toNat_of_isDigit hc).2,
        toDigits_of_isDigit hc]
    rw [Nat.ofDigitChars_cons, ih hrest (by omega), hnext, List.append_assoc]
    rfl

/-- A run of digits is the decimal text of its value behind some zeros. -/
theorem exists_zeros {digits : List Char} (hne : digits ≠ [])
    (h : ∀ c ∈ digits, c.isDigit = true) :
    ∃ zeros, digits =
      List.replicate zeros '0' ++ Nat.toDigits 10 (Nat.ofDigitChars 10 digits 0) := by
  induction digits with
  | nil => exact absurd rfl hne
  | cons c rest ih =>
    have hc := h c List.mem_cons_self
    have hrest : ∀ d ∈ rest, d.isDigit = true := fun d hd => h d (List.mem_cons_of_mem c hd)
    rw [Nat.ofDigitChars_cons, Nat.mul_zero, Nat.zero_add]
    by_cases hzero : c = '0'
    · subst hzero
      by_cases hnil : rest = []
      · subst hnil
        exact ⟨0, rfl⟩
      · obtain ⟨zeros, heq⟩ := ih hnil hrest
        refine ⟨zeros + 1, ?_⟩
        rw [List.replicate_succ, List.cons_append, Nat.sub_self, ← heq]
    · have hpos : 0 < c.toNat - '0'.toNat := by
        have hlow := (toNat_of_isDigit hc).1
        have hdiffer : c.toNat ≠ '0'.toNat := fun heq => hzero (Char.toNat_inj.mp heq)
        omega
      refine ⟨0, ?_⟩
      rw [toDigits_ofDigitChars hrest hpos, toDigits_of_isDigit hc]
      rfl

theorem numeral?_eq_some_iff {text : List Char} {n : Nat} :
    numeral? text = some n ↔
      ∃ zeros, text = List.replicate zeros '0' ++ Nat.toDigits 10 n := by
  simp only [numeral?, isNumeral, Option.ite_none_right_eq_some, Bool.and_eq_true,
    Bool.not_eq_true', List.isEmpty_eq_false_iff, List.all_eq_true, Option.some.injEq]
  constructor
  · rintro ⟨⟨hne, hdigits⟩, rfl⟩
    exact exists_zeros hne hdigits
  · rintro ⟨zeros, rfl⟩
    refine ⟨⟨?_, ?_⟩, ?_⟩
    · simp [Nat.toDigits_ne_nil]
    · intro c hc
      rcases List.mem_append.mp hc with hc | hc
      · rw [List.eq_of_mem_replicate hc]
        rfl
      · exact Nat.isDigit_of_mem_toDigits (by decide) (by decide) hc
    · simp [Nat.ofDigitChars_append, Nat.ofDigitChars_replicate_zero]

/-- The decimal text of a number other than zero does not begin with a zero. -/
theorem head?_toDigits_ne {n : Nat} (hn : 0 < n) : (Nat.toDigits 10 n).head? ≠ some '0' := by
  intro hhead
  obtain ⟨rest, heq⟩ := List.head?_eq_some_iff.mp hhead
  have hvalue : Nat.ofDigitChars 10 rest 0 = n := by
    have hall := Nat.ofDigitChars_ten_toDigits (n := n)
    rw [heq, Nat.ofDigitChars_cons] at hall
    exact hall
  by_cases hnil : rest = []
  · subst hnil
    rw [← hvalue] at hn
    exact absurd hn (by decide)
  · have hrest : ∀ c ∈ rest, c.isDigit = true := by
      intro c hc
      have hmem : c ∈ Nat.toDigits 10 n := by
        rw [heq]
        exact List.mem_cons_of_mem _ hc
      exact Nat.isDigit_of_mem_toDigits (by decide) (by decide) hmem
    -- behind its first digit the text would have to contain itself
    obtain ⟨zeros, hzeros⟩ := exists_zeros hnil hrest
    have hlength := congrArg List.length hzeros
    rw [hvalue, heq] at hlength
    simp only [List.length_append, List.length_replicate, List.length_cons] at hlength
    omega

end Text

/-! ### Sizes and literal subscripts -/

theorem Declarator.size?_eq_some_iff {index : List Char} {words : Nat} :
    size? index = some words ↔
      index = (toString words).toList ∧ 1 ≤ words ∧ words ≤ 536870911 := by
  have hfits : FitsWord (bytesOf words) ↔ words ≤ 536870911 := by
    simp only [FitsWord, bytesOf_eq]
    omega
  rw [size?, toList_toString]
  constructor
  · intro h
    split at h
    · cases h
    · next hzero =>
      obtain ⟨hvalue, hbound⟩ := Option.filter_eq_some_iff.mp h
      obtain ⟨zeros, rfl⟩ := numeral?_eq_some_iff.mp hvalue
      cases zeros with
      | succ zeros => exact absurd rfl hzero
      | zero =>
        have hpos := size?_pos (by rw [size?, if_neg hzero, h])
        exact ⟨rfl, hpos, hfits.mp (by simpa using hbound)⟩
  · rintro ⟨rfl, hpos, hbound⟩
    rw [if_neg (head?_toDigits_ne hpos)]
    refine Option.filter_eq_some_iff.mpr ⟨numeral?_eq_some_iff.mpr ⟨0, rfl⟩, ?_⟩
    exact decide_eq_true (hfits.mpr hbound)

namespace Access

/-- How a literal subscript is written. -/
def IsLiteral (index : List Char) (value : Nat) : Prop :=
  (value ≤ 2147483647 ∧ ∃ zeros, index = List.replicate zeros '0' ++ (toString value).toList) ∨
    (value = 0 ∧ ∃ zeros, index = '-' :: List.replicate (zeros + 1) '0')

/-- With a minus sign in front a numeral has to be that of zero. -/
theorem isLiteral_minus {digits : List Char} {value : Nat} :
    IsLiteral ('-' :: digits) value ↔ numeral? digits = some value ∧ value = 0 := by
  have hzeros : ∀ zeros, List.replicate (zeros + 1) '0' =
      List.replicate zeros '0' ++ Nat.toDigits 10 0 := fun zeros => List.replicate_succ'
  constructor
  · rintro (⟨-, zeros, heq⟩ | ⟨rfl, zeros, heq⟩)
    · -- a minus sign is no digit
      rw [toList_toString] at heq
      have hminus : '-' ∈ List.replicate zeros '0' ++ Nat.toDigits 10 value := by
        rw [← heq]
        exact List.mem_cons_self
      rcases List.mem_append.mp hminus with hzero | hdigit
      · exact absurd (List.eq_of_mem_replicate hzero) (by decide)
      · have hdigit := Nat.isDigit_of_mem_toDigits (by decide) (by decide) hdigit
        exact absurd hdigit (by decide)
    · rw [List.cons.injEq] at heq
      exact ⟨numeral?_eq_some_iff.mpr ⟨zeros, heq.2.trans (hzeros zeros)⟩, rfl⟩
  · rintro ⟨hvalue, rfl⟩
    obtain ⟨zeros, rfl⟩ := numeral?_eq_some_iff.mp hvalue
    exact Or.inr ⟨rfl, zeros, by rw [hzeros]⟩

theorem isLiteral_unsigned {index : List Char} {value : Nat} (h : ∀ digits, index ≠ '-' :: digits) :
    IsLiteral index value ↔ numeral? index = some value ∧ value ≤ 2147483647 := by
  rw [numeral?_eq_some_iff, ← toList_toString]
  constructor
  · rintro (⟨hbound, hzeros⟩ | ⟨-, zeros, heq⟩)
    · exact ⟨hzeros, hbound⟩
    · exact absurd heq (h _)
  · rintro ⟨hzeros, hbound⟩
    exact Or.inl ⟨hbound, hzeros⟩

theorem literal?_eq_some_iff {index : List Char} {value : Nat} :
    literal? index = some value ↔ IsLiteral index value := by
  unfold literal?
  split
  · rw [isLiteral_minus, Option.filter_eq_some_iff, decide_eq_true_iff]
  · next hsign =>
    have hfits : FitsWord value ↔ value ≤ 2147483647 := by
      simp only [FitsWord]
      omega
    rw [isLiteral_unsigned fun digits heq => hsign digits heq, Option.filter_eq_some_iff,
      decide_eq_true_iff, hfits]

end Access

end OnePass
