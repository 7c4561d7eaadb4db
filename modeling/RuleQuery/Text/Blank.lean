import RuleQuery.Text.CodeRange

/-!
**White space in the sense of the Unicode property, and trimming.**

`isBlank` holds for the 25 characters with the property White_Space. The zero-width space and the
byte order mark do not have it. `trim` drops blank characters from both ends of a text.
-/

namespace RuleQuery.Text

/-- The ranges of the Unicode property White_Space. -/
def blankRanges : CodeRanges :=
  [ (0x0009, 0x000D), (0x0020, 0x0020), (0x0085, 0x0085), (0x00A0, 0x00A0), (0x1680, 0x1680), (0x2000, 0x200A),
    (0x2028, 0x2029), (0x202F, 0x202F), (0x205F, 0x205F), (0x3000, 0x3000) ]

/-- The character is white space. -/
def isBlank (c : Char) : Bool :=
  blankRanges.contains c

/-- The text without the white space that it starts with. -/
def trimLeft (text : List Char) : List Char :=
  text.dropWhile isBlank

/-- The text without the white space that it ends with. -/
def trimRight (text : List Char) : List Char :=
  (text.reverse.dropWhile isBlank).reverse

/-- **The text without the white space at its two ends.** -/
def trim (text : List Char) : List Char :=
  trimRight (trimLeft text)

end RuleQuery.Text
