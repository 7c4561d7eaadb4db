import RuleQuery.Yaml.Mark

/-!
**Texts over several lines.**

Between two words of a text stand blanks, or line breaks with blanks around them, which do not count.
A line feed alone reads as a space, and more breaks after it read as themselves without it. A
separator in the first place is kept like the breaks after it. A line break after a backslash reads as
nothing.
-/

namespace RuleQuery.Yaml

/-- What stands between two words of a text. -/
structure Gap where
  /-- A line break after a backslash stands before. -/
  joined : Bool
  /-- The blanks before the first line break, last first. -/
  blanks : List Char
  /-- The line breaks, last first. -/
  breaks : List Char
deriving DecidableEq, Repr

namespace Gap

/-- Nothing. -/
def empty : Gap :=
  ⟨false, [], []⟩

/-- The gap after a line break after a backslash. -/
def afterBackslash : Gap :=
  ⟨true, [], []⟩

/-- The gap goes over a line break. -/
def crosses (gap : Gap) : Bool :=
  gap.joined || !gap.breaks.isEmpty

/-- The gap with one more blank or line break. -/
def add (gap : Gap) (c : Char) : Gap :=
  if isBreak c then { gap with breaks := c :: gap.breaks }
  else if gap.crosses then gap
  else { gap with blanks := c :: gap.blanks }

/-- **What a gap reads as.** -/
def text (gap : Gap) : List Char :=
  if gap.joined then gap.breaks.reverse
  else
    match gap.breaks.reverse with
    | [] => gap.blanks.reverse
    | ['\n'] => [' ']
    | '\n' :: more => more
    | breaks => breaks

end Gap

end RuleQuery.Yaml
