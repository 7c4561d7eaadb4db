import RuleQuery.Text.Hidden

/-!
**Quoted texts in messages.**

A text is put between double quotes. The quote and the backslash get a backslash before them, line
feed, carriage return, tab and NUL have letters, and every other hidden character is written by its
code point in hexadecimal.
-/

namespace RuleQuery.Text

/-- The form of one character between the quotes. -/
def quotedChar (c : Char) : List Char :=
  if c = '"' then ['\\', '"']
  else if c = '\\' then ['\\', '\\']
  else if c = '\n' then ['\\', 'n']
  else if c = '\r' then ['\\', 'r']
  else if c = '\t' then ['\\', 't']
  else if c.toNat = 0 then ['\\', '0']
  else if isHidden c then ['\\', 'u', '\x7b'] ++ Nat.toDigits 16 c.toNat ++ ['\x7d']
  else [c]

/-- **The text between double quotes.** -/
def quoted (text : String) : String :=
  String.ofList ('"' :: text.toList.flatMap quotedChar ++ ['"'])

end RuleQuery.Text
