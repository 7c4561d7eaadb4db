import RuleQuery.Plan.Pattern

/-!
**Query plans.**

A descriptor is the plan of one query: its variables and an ordered body of patterns and
aggregations. An aggregation groups the facts of a pattern by a field and accumulates each group.
-/

namespace RuleQuery.Plan

/-- What is accumulated over a group. -/
inductive Accumulator where
  | count
deriving DecidableEq, Repr

/-- The function of an accumulator in the rule source. -/
def Accumulator.functionName : Accumulator → String
  | count => "count"

/-- The facts of a pattern, grouped by a field and accumulated. -/
structure Aggregation where
  /-- The pattern whose facts are grouped. -/
  source : Pattern
  /-- The field whose value is the key of a group. -/
  groupKeyField : String
  /-- The variable that is bound to the key. -/
  groupKeyVariable : VarId
  /-- What is accumulated. -/
  accumulator : Accumulator
  /-- The variable that is bound to the result. -/
  resultVariable : VarId
deriving DecidableEq, Repr

/-- An item of the body of a query. -/
inductive BodyItem where
  | pattern (pattern : Pattern)
  | aggregation (aggregation : Aggregation)
deriving DecidableEq, Repr

/-- The pattern that an item is, if it is one. -/
def BodyItem.pattern? : BodyItem → Option Pattern
  | pattern p => some p
  | aggregation _ => none

/-- The aggregation that an item is, if it is one. -/
def BodyItem.aggregation? : BodyItem → Option Aggregation
  | pattern _ => none
  | aggregation a => some a

/-- The plan of a query. -/
structure Descriptor where
  /-- The name of the query. -/
  name : String
  /-- The package of the query. -/
  package : String
  /-- The variables that the body refers to. -/
  arena : Arena
  /-- The items in the order of their evaluation. -/
  body : List BodyItem
deriving DecidableEq, Repr

namespace Descriptor

/-- The patterns that are items of the body themselves, in order. -/
def patterns (d : Descriptor) : List Pattern :=
  d.body.filterMap BodyItem.pattern?

/-- The first aggregation of the body. -/
def aggregation? (d : Descriptor) : Option Aggregation :=
  d.body.findSome? BodyItem.aggregation?

end Descriptor

end RuleQuery.Plan
