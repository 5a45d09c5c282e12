/-
  OnePass/Text/CodePoint.lean
  ===========================
  **Character classes as range tables** — membership of a character in a list
  of inclusive ranges of code points.

  A class of characters is given by data.  `RangeTable.holds` is the only way
  the tables are read, and `holds_iff` turns it into arithmetic on the code
  point.
-/

namespace OnePass.Text

/-- Inclusive ranges of code points, in increasing order. -/
abbrev RangeTable := List (Nat × Nat)

namespace RangeTable

/-- Some range of the table holds the character's code point. -/
def holds (table : RangeTable) (c : Char) : Bool :=
  table.any fun range => range.1 ≤ c.toNat && c.toNat ≤ range.2

theorem holds_iff {table : RangeTable} {c : Char} :
    table.holds c = true ↔ ∃ range ∈ table, range.1 ≤ c.toNat ∧ c.toNat ≤ range.2 := by
  simp [holds]

end RangeTable

end OnePass.Text
