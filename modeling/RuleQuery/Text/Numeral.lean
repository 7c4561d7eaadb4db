/-!
**Texts that write numbers.**

A number is digits with a point before, between or behind them, and a power of ten or none, or it is a
word for infinity or for no number. A sign may stand before it.
-/

namespace RuleQuery.Text

/-- The words for numbers without digits. -/
def numberWords : List String :=
  ["inf", "infinity", "nan"]

/-- The text without the sign that it starts with. -/
def dropSign : List Char → List Char
  | '+' :: rest => rest
  | '-' :: rest => rest
  | text => text

/-- The text is nothing or a power of ten. -/
def isPower : List Char → Bool
  | [] => true
  | c :: rest =>
    let digits := dropSign rest
    c.toLower = 'e' && !digits.isEmpty && digits.all Char.isDigit

/-- The text writes a number by digits. -/
def isDigital (text : List Char) : Bool :=
  let whole := text.takeWhile Char.isDigit
  match text.drop whole.length with
  | '.' :: rest =>
    let part := rest.takeWhile Char.isDigit
    !(whole.isEmpty && part.isEmpty) && isPower (rest.drop part.length)
  | rest => !whole.isEmpty && isPower rest

/-- **The text writes a number.** -/
def isNumeral (text : List Char) : Bool :=
  let body := dropSign text
  isDigital body || numberWords.contains (String.ofList (body.map Char.toLower))

end RuleQuery.Text
