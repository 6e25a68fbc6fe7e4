import CallAtlas.Text.VisibleTable

/-!
# Quoted text

The form of a text inside a message: double quotes around it, a backslash before quotes,
backslashes and the letters of the common controls, and the code point in braces for every other
character that leaves no mark of its own.
-/

namespace CallAtlas.Text

/-- Whether the character is shown as itself. -/
def isVisible (c : Char) : Bool :=
  !(extendingRanges.has c) && !(unprintableRanges.has c) && !(fillerRanges.has c)

/-- The digits of a number in base sixteen, in lowercase. -/
def hexNumeral (n : Nat) : List Char :=
  Nat.toDigits 16 n

/-- The quoted form of one character. -/
def quoteChar : Char → List Char
  | '\x00' => ['\\', '0']
  | '\t' => ['\\', 't']
  | '\r' => ['\\', 'r']
  | '\n' => ['\\', 'n']
  | '\\' => ['\\', '\\']
  | '"' => ['\\', '"']
  | c => if isVisible c then [c] else ['\\', 'u', '\x7b'] ++ hexNumeral c.toNat ++ ['\x7d']

/-- The text between double quotes. -/
def quoted (s : String) : String :=
  String.ofList ('"' :: s.toList.flatMap quoteChar ++ ['"'])

end CallAtlas.Text
