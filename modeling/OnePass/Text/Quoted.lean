/-
  OnePass/Text/Quoted.lean
  ========================
  **Quoted texts** — a text between double quotes with every character visible.

  Messages show a rejected text quoted, so that blanks, controls and combining
  marks in it can be told apart.  NUL, tab, carriage return, line feed, the
  backslash and the double quote have names of their own; a character that is
  not printable, or that would attach to the one before it, is shown by its
  code point in hexadecimal.
-/
import OnePass.Text.Printable

namespace OnePass.Text

/-- The code point of a character between braces, in lower-case hexadecimal. -/
def codePointEscape (c : Char) : List Char :=
  ['\\', 'u', '{'] ++ Nat.toDigits 16 c.toNat ++ ['}']

/-- How one character of a quoted text is shown. -/
def quoteChar (c : Char) : List Char :=
  match c with
  | '\x00' => ['\\', '0']
  | '\t' => ['\\', 't']
  | '\r' => ['\\', 'r']
  | '\n' => ['\\', 'n']
  | '\\' => ['\\', '\\']
  | '"' => ['\\', '"']
  | c => if isExtender c || !isPrintable c then codePointEscape c else [c]

/-- The text between double quotes, every character of it visible. -/
def quote (text : String) : String :=
  String.ofList ('"' :: (text.toList.flatMap quoteChar ++ ['"']))

end OnePass.Text
