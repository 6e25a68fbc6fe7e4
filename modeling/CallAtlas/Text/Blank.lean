import CallAtlas.Text.Ranges

/-!
# Blank characters

The 25 characters with the property White_Space, and the text between the blanks at its ends.
-/

namespace CallAtlas.Text

/-- The characters with the property White_Space. -/
def blankRanges : Ranges :=
  [(0x09, 0x0D), (0x20, 0x20), (0x85, 0x85), (0xA0, 0xA0), (0x1680, 0x1680), (0x2000, 0x200A),
   (0x2028, 0x2029), (0x202F, 0x202F), (0x205F, 0x205F), (0x3000, 0x3000)]

def isBlank (c : Char) : Bool :=
  blankRanges.has c

def trimBlanks (s : List Char) : List Char :=
  ((s.dropWhile isBlank).reverse.dropWhile isBlank).reverse

/-- The text without the blanks at its ends (`trim`). -/
def trim (s : String) : String :=
  String.ofList (trimBlanks s.toList)

end CallAtlas.Text
