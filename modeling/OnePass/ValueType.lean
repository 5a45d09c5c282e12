/-
  OnePass/ValueType.lean
  ======================
  **The types of values** — integers, characters and text literals.

  Variables and temporaries hold integers or characters, one word each; these
  are the scalar types.  Text is the type of string literals.  It lives in the
  data segment, has no declarations and takes no part in arithmetic.
-/

namespace OnePass

inductive ValueType where
  | int
  | char
  | string
  deriving DecidableEq

namespace ValueType

def name : ValueType → String
  | int => "int"
  | char => "char"
  | string => "string"

/-- The type a declaration asks for.  Only scalar types can be declared. -/
def ofName? (name : String) : Option ValueType :=
  if name = "int" then some int
  else if name = "char" then some char
  else none

/-- A value of the type fits a stack word and can be loaded and stored. -/
def isScalar : ValueType → Bool
  | int => true
  | char => true
  | string => false

/-- The words that declare a variable are exactly the names of scalar types. -/
theorem ofName?_eq_some_iff {name : String} {type : ValueType} :
    ofName? name = some type ↔ type.isScalar = true ∧ type.name = name := by
  unfold ofName?
  constructor
  · intro h
    split at h
    · next hn => cases h; exact ⟨rfl, hn.symm⟩
    · split at h
      · next hn => cases h; exact ⟨rfl, hn.symm⟩
      · cases h
  · rintro ⟨hs, rfl⟩
    cases type with
    | int => rfl
    | char => rfl
    | string => cases hs

theorem ofName?_eq_none_iff {name : String} :
    ofName? name = none ↔ name ≠ "int" ∧ name ≠ "char" := by
  unfold ofName?
  by_cases hint : name = "int"
  · simp [hint]
  · by_cases hchar : name = "char" <;> simp [hint, hchar]

theorem isScalar_iff {type : ValueType} : type.isScalar = true ↔ type ≠ string := by
  cases type <;> simp [isScalar]

end ValueType

end OnePass
