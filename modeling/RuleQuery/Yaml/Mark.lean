/-!
**The characters of a YAML text with their places.**

A line ends at a line feed, a carriage return, both together, or the next-line character, which all
read as a line feed, and at the line and the paragraph separator, which read as themselves.
-/

namespace RuleQuery.Yaml

/-- A character of the text with its place. -/
structure Mark where
  /-- The character. -/
  char : Char
  /-- The number of lines before its own. -/
  line : Nat
  /-- The number of characters before it in the line. -/
  column : Nat
  /-- The number of bytes before it in the text. -/
  offset : Nat
deriving Repr

/-! ### Classes of characters -/

/-- The character may stand in a YAML text. -/
def isAllowed (c : Char) : Bool :=
  let code := c.toNat
  c = '\t' ∨ c = '\n' ∨ c = '\r' ∨ code = 0x85 ∨ (0x20 ≤ code ∧ code ≤ 0x7E) ∨
    (0xA0 ≤ code ∧ code ≤ 0xFFFD) ∨ 0x10000 ≤ code

/-- A line break. -/
def isBreak (c : Char) : Bool :=
  c = '\n' ∨ c = '\u2028' ∨ c = '\u2029'

/-- A byte-order mark in the first column. -/
def Mark.isByteOrder (m : Mark) : Bool :=
  m.char = '\uFEFF' ∧ m.column = 0

/-- A space or a tab. -/
def isBlank (c : Char) : Bool :=
  c = ' ' ∨ c = '\t'

/-! ### Places -/

/-- The text with a line feed for every line break, the two separators apart. -/
def plainBreaks : List Char → List Char
  | [] => []
  | [c] => if c = '\r' ∨ c = '\u0085' then ['\n'] else [c]
  | c :: d :: rest =>
    if c = '\r' ∧ d = '\n' then plainBreaks (d :: rest)
    else if c = '\r' ∨ c = '\u0085' then '\n' :: plainBreaks (d :: rest)
    else c :: plainBreaks (d :: rest)

/-- The characters with their places, from a place on. -/
def marksFrom (line column offset : Nat) : List Char → List Mark
  | [] => []
  | c :: rest =>
    ⟨c, line, column, offset⟩ ::
      if isBreak c then marksFrom (line + 1) 0 (offset + c.utf8Size) rest
      else marksFrom line (column + 1) (offset + c.utf8Size) rest

/-- **The characters of a text with their places.** -/
def marks (text : List Char) : List Mark :=
  marksFrom 0 0 0 (plainBreaks text)

/-! ### What stands at a place -/

/-- The next character is a blank or a line break, or there is none. -/
def endsWord : List Mark → Bool
  | [] => true
  | m :: _ => isBlank m.char ∨ isBreak m.char

/-- A line starts with three of one character, and then a word ends. -/
def startsTriple (c : Char) : List Mark → Bool
  | x :: y :: z :: rest =>
    x.column = 0 ∧ x.char = c ∧ y.char = c ∧ z.char = c ∧ endsWord rest
  | _ => false

/-- **A document starts or ends here**: at three hyphens or three dots. -/
def isBoundary (marks : List Mark) : Bool :=
  startsTriple '-' marks ∨ startsTriple '.' marks

end RuleQuery.Yaml
