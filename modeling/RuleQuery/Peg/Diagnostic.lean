import RuleQuery.Peg.Furthest
import RuleQuery.Text.Decimal

/-!
**The account of a text that does not match.**

A `Diagnostic` is the source with the byte position at which its matching failed and the rules that
were expected there. From it follow the line and the column, counted from one, and a message that
shows the line with a mark below the place.
-/

namespace RuleQuery.Peg

/-- A source that does not match, where, and what was expected there. -/
structure Diagnostic (ρ : Type) where
  /-- The whole source. -/
  source : List Char
  /-- The byte position of the failure. -/
  position : Nat
  /-- The rules expected at the position. -/
  expected : List ρ

/-- The characters before a byte position, nearest first, and the characters from it on. -/
def splitAtByte (before : List Char) : Nat → List Char → List Char × List Char
  | _, [] => (before, [])
  | position, c :: rest =>
    if position = 0 then (before, c :: rest)
    else splitAtByte (c :: before) (position - c.utf8Size) rest

/-- The line and the column after the characters, starting from a line and a column. A line ends
with a line feed. A carriage return before a line feed belongs to the line end. -/
def advance (line column : Nat) : List Char → Nat × Nat
  | [] => (line, column)
  | '\r' :: '\n' :: rest => advance (line + 1) 1 rest
  | '\n' :: rest => advance (line + 1) 1 rest
  | _ :: rest => advance line (column + 1) rest

/-- Characters up to and including the first line feed. -/
def throughLineEnd : List Char → List Char
  | [] => []
  | c :: rest => if c = '\n' then [c] else c :: throughLineEnd rest

/-- `a`, `a or b`, or `a, b, or c`. -/
def alternatives : List String → String
  | [] => ""
  | [a] => a
  | [a, b] => a ++ " or " ++ b
  | names => String.intercalate ", " names.dropLast ++ ", or " ++ names.getLastD ""

namespace Diagnostic

variable {ρ : Type}

/-- The characters before the place, nearest first, and those from it on. -/
def halves (d : Diagnostic ρ) : List Char × List Char :=
  splitAtByte [] d.position d.source

/-- **The line and the column of the place.** -/
def lineColumn (d : Diagnostic ρ) : Nat × Nat :=
  advance 1 1 d.halves.1.reverse

/-- The line that holds the place. Its line end is shown by signs where the place is the line end,
and left out otherwise. -/
def shownLine (d : Diagnostic ρ) : List Char :=
  let (before, after) := d.halves
  let line := (before.takeWhile (· ≠ '\n')).reverse ++ throughLineEnd after
  match after with
  | '\n' :: _ | '\r' :: _ =>
    line.map fun c => if c = '\r' then '␍' else if c = '\n' then '␊' else c
  | _ => line.filter fun c => c ≠ '\r' && c ≠ '\n'

/-- What the last line of the message says was expected. -/
def expectation (nameOf : ρ → String) (d : Diagnostic ρ) : String :=
  match d.expected with
  | [] => "unknown parsing error"
  | rules => "expected " ++ alternatives (rules.map nameOf)

/-- **The message: the place, its line with a mark below it, and what was expected.** -/
def message (nameOf : ρ → String) (d : Diagnostic ρ) : String :=
  let (line, column) := d.lineColumn
  let number := Text.ofNat line
  let margin := String.ofList (List.replicate number.length ' ')
  let shown := d.shownLine
  let indent := (shown.take (column - 1)).map fun c => if c = '\t' then '\t' else ' '
  String.intercalate "\n"
    [ margin ++ "--> " ++ number ++ ":" ++ Text.ofNat column,
      margin ++ " |",
      number ++ " | " ++ String.ofList shown,
      margin ++ " | " ++ String.ofList indent ++ "^---",
      margin ++ " |",
      margin ++ " = " ++ d.expectation nameOf ]

end Diagnostic

end RuleQuery.Peg
