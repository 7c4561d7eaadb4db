import RuleQuery.Json.Value
import RuleQuery.Text.Decimal

/-!
**The text of a JSON value.**

A `Layout` says which blanks stand between the parts of a value. `compact` writes none. `pretty`
writes each item of an array and each field of an object on a line of its own, two blanks further in
than the bracket, with a blank after each colon. A string keeps its characters, apart from the quote,
the backslash and the control characters below the space. A value that cannot be read is written as
null.
-/

namespace RuleQuery.Json

/-- A hexadecimal digit in lower case. -/
def hexDigit (n : Nat) : Char :=
  if n < 10 then Char.ofNat (48 + n) else Char.ofNat (87 + n)

/-- The form of one character inside a string. -/
def escapeChar (c : Char) : List Char :=
  if c = '"' then ['\\', '"']
  else if c = '\\' then ['\\', '\\']
  else if c = '\x08' then ['\\', 'b']
  else if c = '\x0c' then ['\\', 'f']
  else if c = '\n' then ['\\', 'n']
  else if c = '\r' then ['\\', 'r']
  else if c = '\t' then ['\\', 't']
  else if c.toNat < 0x20 then
    ['\\', 'u', '0', '0', hexDigit (c.toNat / 16), hexDigit (c.toNat % 16)]
  else [c]

/-- A string between its quotes. -/
def stringText (text : List Char) : List Char :=
  '"' :: text.flatMap escapeChar ++ ['"']

/-- A truth value by its word. -/
def boolText : Bool → List Char
  | true => ['t', 'r', 'u', 'e']
  | false => ['f', 'a', 'l', 's', 'e']

/-! ### Layouts -/

/-- The blanks between the parts of a value. -/
structure Layout where
  /-- What stands before an item, a field or a closing bracket at a depth. -/
  line : Nat → List Char
  /-- What stands after a colon. -/
  afterColon : List Char

/-- No blanks. -/
def Layout.compact : Layout :=
  ⟨fun _ => [], []⟩

/-- The start of a line at a depth. -/
def newLine (depth : Nat) : List Char :=
  '\n' :: List.replicate (2 * depth) ' '

/-- A line for each item and each field. -/
def Layout.pretty : Layout :=
  ⟨newLine, [' ']⟩

/-! ### Values -/

mutual

/-- The characters of a value that starts at a depth. -/
def valueText (layout : Layout) (depth : Nat) : Json → List Char
  | null | unreadable => ['n', 'u', 'l', 'l']
  | bool value => boolText value
  | int value => Text.decimal value
  | real literal => literal
  | str text => stringText text.toList
  | arr [] => ['[', ']']
  | arr (v :: rest) =>
    '[' :: layout.line (depth + 1) ++ valueText layout (depth + 1) v ++ itemsText layout depth rest
  | obj [] => ['\x7b', '\x7d']
  | obj ((name, v) :: rest) =>
    '\x7b' :: layout.line (depth + 1) ++ stringText name.toList ++ ':' :: layout.afterColon ++
      valueText layout (depth + 1) v ++ fieldsText layout depth rest

/-- The items after the first, and the closing bracket. -/
def itemsText (layout : Layout) (depth : Nat) : List Json → List Char
  | [] => layout.line depth ++ [']']
  | v :: rest =>
    ',' :: layout.line (depth + 1) ++ valueText layout (depth + 1) v ++ itemsText layout depth rest

/-- The fields after the first, and the closing brace. -/
def fieldsText (layout : Layout) (depth : Nat) : List (String × Json) → List Char
  | [] => layout.line depth ++ ['\x7d']
  | (name, v) :: rest =>
    ',' :: layout.line (depth + 1) ++ stringText name.toList ++ ':' :: layout.afterColon ++
      valueText layout (depth + 1) v ++ fieldsText layout depth rest

end

/-- **The text of a value without blanks.** -/
def compact (v : Json) : String :=
  String.ofList (v.valueText .compact 0)

/-- **The text of a value with a line for each item and each field.** -/
def pretty (v : Json) : String :=
  String.ofList (v.valueText .pretty 0)

end RuleQuery.Json
