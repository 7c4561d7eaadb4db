import RuleQuery.Text.Blank
import RuleQuery.Text.Hexadecimal

/-!
**Symbols of a pattern.**

A pattern is a regular expression for the value of a field. Its smallest parts are symbols: characters
that stand for themselves, kinds of characters, and places. `escape?` reads the symbol after a
backslash. Which symbols may stand in a pattern depends on the mode at their place (`Mode.admits`):
letters in both cases and the kinds of digits, spaces and words would need tables of all characters,
and a pattern over bytes may match nothing that is not a whole character.

The text of a pattern has no closing brace, because the field that it is written in ends there. So
whatever has to be closed by one is refused.
-/

namespace RuleQuery.Log.Pattern

/-- How the symbols at a place are read. -/
structure Mode where
  /-- Letters match in both cases. -/
  caseless : Bool
  /-- The pattern is over characters, and not over bytes. -/
  wide : Bool
  /-- White space and comments do not count. -/
  spaced : Bool
deriving DecidableEq, Repr

/-- The mode at the start of a pattern. -/
def Mode.initial : Mode :=
  ⟨false, true, false⟩

/-- The text without the white space and the comments that it starts with. A comment goes from a
number sign to the end of its line. -/
def dropSpace (comment : Bool) : List Char → List Char
  | [] => []
  | c :: rest =>
    if comment then dropSpace (c ≠ '\n') rest
    else if Text.isBlank c then dropSpace false rest
    else if c = '#' then dropSpace true rest
    else c :: rest

/-- The text from the next character on that counts. -/
def Mode.skip (mode : Mode) (text : List Char) : List Char :=
  if mode.spaced then dropSpace false text else text

/-- What a part without parts of its own stands for. -/
inductive Symbol where
  /-- A character, written by the two digits of a byte or otherwise. -/
  | literal (c : Char) (byte : Bool)
  /-- The digits, spaces or characters of words, or all others. -/
  | kind (negated : Bool)
  /-- Any character. -/
  | any
  /-- The start or the end. -/
  | edge
  /-- A place where a word starts or ends, or one where none does. -/
  | wordEdge
deriving DecidableEq, Repr

/-- The character has one byte. -/
def isNarrow (c : Char) : Bool :=
  c.toNat < 0x80

/-- **The symbol may stand in a mode.** -/
def Mode.admits (mode : Mode) : Symbol → Bool
  | .literal c byte => if mode.wide then !mode.caseless else !byte || isNarrow c
  | .kind negated => !mode.wide && !negated
  | .any => mode.wide
  | .edge => true
  | .wordEdge => true

/-! ### Escapes -/

/-- The value of a number of hexadecimal digits after a value, and what follows them. -/
def hexDigits? (mode : Mode) : Nat → Nat → List Char → Option (Nat × List Char)
  | 0, value, text => some (value, text)
  | count + 1, value, text =>
    match mode.skip text with
    | [] => none
    | c :: rest => do hexDigits? mode count (16 * value + (← Text.hexValue? c)) rest

/-- The character of a number of hexadecimal digits, and what follows them. -/
def hexChar? (mode : Mode) (count : Nat) (text : List Char) : Option (Char × List Char) := do
  let (value, rest) ← hexDigits? mode count 0 text
  if value.isValidChar then return (Char.ofNat value, rest) else none

/-- The character stands for itself after a backslash. -/
def isEscapable (c : Char) : Bool :=
  isNarrow c && !c.isAlphanum && c ≠ '<' && c ≠ '>'

/-- The characters that letters after a backslash stand for. -/
def controls : List (Char × Char) :=
  [('a', '\x07'), ('f', '\x0c'), ('t', '\t'), ('n', '\n'), ('r', '\r'), ('v', '\x0b')]

/-- **The symbol after a backslash**, and what follows it. -/
def escape? (mode : Mode) : List Char → Option (Symbol × List Char)
  | [] => none
  | 'x' :: rest => (hexChar? mode 2 rest).map fun (c, after) => (.literal c true, after)
  | 'u' :: rest => (hexChar? mode 4 rest).map fun (c, after) => (.literal c false, after)
  | 'U' :: rest => (hexChar? mode 8 rest).map fun (c, after) => (.literal c false, after)
  | 'b' :: rest => if rest.head? = some '\x7b' then none else some (.wordEdge, rest)
  | c :: rest =>
    if ['d', 's', 'w'].contains c then some (.kind false, rest)
    else if ['D', 'S', 'W'].contains c then some (.kind true, rest)
    else if ['A', 'z'].contains c then some (.edge, rest)
    else if ['B', '<', '>'].contains c then some (.wordEdge, rest)
    else if isEscapable c then some (.literal c false, rest)
    else (controls.lookup c).map fun control => (.literal control false, rest)

/-! ### Nesting -/

/-- How deep a row of parts is nested: a part alone is as deep as it is, several are one deeper than
the deepest of them. -/
def rowDepth : List Nat → Nat
  | [] => 0
  | [depth] => depth
  | depths => 1 + depths.foldl max 0

end RuleQuery.Log.Pattern
