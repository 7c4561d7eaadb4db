import RuleQuery.Peg.Diagnostic
import RuleQuery.Sql.Build
import RuleQuery.Sql.Grammar

/-!
**Reading a query.**

`parse` matches a text against the grammar and builds the statement from the tree. A text outside the
grammar gives a diagnostic of the place where it fails; a text inside it fails only where an integer
does not fit into 64 bits.
-/

namespace RuleQuery.Sql

open Peg

/-- Why a text is not a query. -/
inductive ParseError where
  /-- The text is not in the grammar. -/
  | rejected (diagnostic : Diagnostic Rule)
  /-- The tree of the text has no statement. -/
  | unbuilt (error : BuildError)

/-- What is wrong with a tree. -/
def BuildError.message : BuildError → String
  | integerRange literal =>
    let direction := if literal.head? = some '-' then "small" else "large"
    "Invalid integer " ++ String.ofList literal ++ ": number too " ++ direction ++
      " to fit in target type"
  | misshapen rule => "Invalid " ++ rule.name

/-- The message of an error. -/
def ParseError.message : ParseError → String
  | rejected diagnostic => "Pest error: " ++ diagnostic.message Rule.name
  | unbuilt error => "Syntax error: " ++ error.message

/-- The diagnostic of a text whose match failed with the attempts. -/
def diagnose (source : List Char) (attempts : List (Attempt Rule)) : Diagnostic Rule :=
  let furthest := Furthest.ofAttempts attempts
  ⟨source, furthest.position, Rule.inOrder furthest.rules⟩

/-- **The trees of a rule at the start of a text.** -/
def tree (rule : Rule) (source : List Char) : Except (Diagnostic Rule) (List (Node Rule)) :=
  let step := grammar.parse rule source
  match step.outcome with
  | .ok nodes _ _ => .ok nodes
  | .fail => .error (diagnose source step.attempts)

/-- The statement of the tree of a query. -/
def statement (nodes : List (Node Rule)) : Except BuildError Select := do
  match ← buildAll nodes with
  | [.select s] => return s
  | _ => throw (.misshapen .query)

/-- **The statement that a text writes.** -/
def parse (text : String) : Except ParseError Select :=
  match tree .query text.toList with
  | .error diagnostic => .error (.rejected diagnostic)
  | .ok nodes =>
    match statement nodes with
    | .error error => .error (.unbuilt error)
    | .ok s => .ok s

end RuleQuery.Sql
