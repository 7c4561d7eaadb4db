import RuleQuery.Peg.Matcher

/-!
**Where a match went furthest, and what it looked for there.**

Of all the calls to rules that failed, those that were tried at the greatest position say best what
is wrong with a text. `Furthest.ofAttempts` goes through the failed calls in the order in which they
ended. A rule replaces the failures inside it at its own position, unless exactly one rule failed
there, which then says more than the rule that called it.
-/

namespace RuleQuery.Peg

/-- The greatest position at which a rule failed, and the rules that failed there. -/
structure Furthest (ρ : Type) where
  /-- The position in bytes. -/
  position : Nat
  /-- The rules, in the order in which they failed. -/
  rules : List ρ

namespace Furthest

variable {ρ : Type}

/-- The record before anything has failed. -/
def none : Furthest ρ :=
  ⟨0, []⟩

/-- How many rules are recorded at the position. -/
def countAt (record : Furthest ρ) (position : Nat) : Nat :=
  if record.position = position then record.rules.length else 0

/-- The record after a rule failed, where `before` rules stood at its position when it was called. -/
def add (name : ρ) (position before : Nat) (record : Furthest ρ) : Furthest ρ :=
  if record.countAt position = before + 1 then record
  else if record.position = position then ⟨position, record.rules.take before ++ [name]⟩
  else if record.position < position then ⟨position, [name]⟩
  else record

mutual

/-- The record after a failed call: first what failed inside it, then the rule itself. -/
def afterAttempt (record : Furthest ρ) : Attempt ρ → Furthest ρ
  | .failed name position inner =>
    (record.afterAttempts inner).add name position (record.countAt position)

/-- The record after several failed calls. -/
def afterAttempts (record : Furthest ρ) : List (Attempt ρ) → Furthest ρ
  | [] => record
  | attempt :: rest => (record.afterAttempt attempt).afterAttempts rest

end

/-- **The furthest failure among the failed calls of a match.** -/
def ofAttempts (attempts : List (Attempt ρ)) : Furthest ρ :=
  none.afterAttempts attempts

end Furthest

end RuleQuery.Peg
