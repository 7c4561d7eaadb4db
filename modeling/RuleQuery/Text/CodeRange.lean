/-!
**Sets of characters given by ranges of code points.**

A property of characters that a standard lists by ranges is a table of pairs, first and last code
point of each range. `CodeRanges.contains` reads such a table.
-/

namespace RuleQuery.Text

/-- Ranges of code points, each with its first and its last member, in rising order. -/
abbrev CodeRanges := List (Nat × Nat)

/-- **The character lies in one of the ranges.** -/
def CodeRanges.contains (ranges : CodeRanges) (c : Char) : Bool :=
  ranges.any fun range => range.1 ≤ c.toNat && c.toNat ≤ range.2

end RuleQuery.Text
