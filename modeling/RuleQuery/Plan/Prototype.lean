/-!
**Prototypes of facts.**

Facts carry no type of their own. A prototype names the table that a fact belongs to and the package
in which it is declared.
-/

namespace RuleQuery.Plan

/-- What stands for the facts of a table. -/
structure Prototype where
  /-- The name of the table. -/
  name : String
  /-- The package in which it is declared. -/
  package : String
deriving DecidableEq, Repr

/-- The name of a prototype with its package. -/
def Prototype.qualifiedName (p : Prototype) : String :=
  p.package ++ "." ++ p.name

end RuleQuery.Plan
