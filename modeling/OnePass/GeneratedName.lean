/-
  OnePass/GeneratedName.lean
  ==========================
  **Generated names** — names of temporaries, string labels and branch labels.

  All three kinds draw their numbers from one supply.  A temporary's name has a
  character no declared name can have; a string label's name is one that a
  program may also declare.
-/

namespace OnePass

/-- What a generated name stands for. -/
inductive NameKind where
  | temporary
  | stringLabel
  | branchLabel
  deriving DecidableEq

/-- How the names of a kind begin. -/
def NameKind.stem : NameKind → String
  | temporary => "t#"
  | stringLabel => "str_"
  | branchLabel => "label"

/-- The name of a kind with a number. -/
def generatedName (kind : NameKind) (number : Nat) : String := kind.stem ++ toString number

/-- Names of one kind differ if their numbers do. -/
theorem generatedName_number {kind : NameKind} {m n : Nat}
    (h : generatedName kind m = generatedName kind n) : m = n := by
  have hlist := congrArg String.toList h
  simp only [generatedName, String.toList_append] at hlist
  have hdigits := List.append_cancel_left hlist
  have hvalue := congrArg (fun digits => Nat.ofDigitChars 10 digits 0) hdigits
  simpa [Nat.toString_eq_ofList_toDigits] using hvalue

/-- The first character of a name tells its kind. -/
theorem generatedName_kind {kind other : NameKind} {m n : Nat}
    (h : generatedName kind m = generatedName other n) : kind = other := by
  have hhead := congrArg (fun name => name.toList.head?) h
  simp only [generatedName, String.toList_append] at hhead
  cases kind with
  | temporary =>
    cases other with
    | temporary => rfl
    | stringLabel => simp [NameKind.stem] at hhead
    | branchLabel => simp [NameKind.stem] at hhead
  | stringLabel =>
    cases other with
    | temporary => simp [NameKind.stem] at hhead
    | stringLabel => rfl
    | branchLabel => simp [NameKind.stem] at hhead
  | branchLabel =>
    cases other with
    | temporary => simp [NameKind.stem] at hhead
    | stringLabel => simp [NameKind.stem] at hhead
    | branchLabel => rfl

end OnePass
