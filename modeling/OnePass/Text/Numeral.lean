/-
  OnePass/Text/Numeral.lean
  =========================
  **Decimal numerals** — the value of a run of digits.

  A numeral is one or more of the digits 0 to 9, leading zeros included.  It
  has no sign and no bound.
-/

namespace OnePass.Text

def isNumeral (text : List Char) : Bool := !text.isEmpty && text.all Char.isDigit

def numeral? (text : List Char) : Option Nat :=
  if isNumeral text then some (Nat.ofDigitChars 10 text 0) else none

end OnePass.Text
