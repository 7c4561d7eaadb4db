import RuleQuery.Log.Level
import RuleQuery.Plan.Registry
import RuleQuery.Planner.Error

/-!
**What happens while a query is planned.**

The making of a plan opens a span and reports events inside it. Each has a level, a sentence and
fields with values.
-/

namespace RuleQuery.Planner

open Plan

/-- Something that happens while a query is planned. -/
inductive Event where
  /-- The span of a query with a name and a kind of source opens. -/
  | opened (query : String) (shape : Sql.Shape)
  /-- A table is used for the first time. -/
  | prototypeCreated (table package : String)
  /-- A table is used again. -/
  | prototypeReused (table : String)
  /-- A relation has its pattern. -/
  | patternCreated (aliasName table : String) (bound : VarId)
  /-- The left operand of the condition belongs to the second relation. -/
  | operandsReversed (aliasName : String)
  /-- The second pattern has its join with the first. -/
  | joinAttached (first second field otherField : String)
  /-- The pattern is grouped by a key. -/
  | aggregationCreated (key table : String)
  /-- The plan is complete. -/
  | assembled (patterns : Nat) (aggregated : Bool) (variableCount : Nat)
  /-- There is no plan, and the registry is as before. -/
  | failed (error : Error)

namespace Event

/-- The event of a use of a table. -/
def ofAccess (registry : Registry) (table : String) : Event :=
  if registry.contains table then .prototypeReused table
  else .prototypeCreated table registry.package

/-- The event opens a span. -/
def isSpan : Event → Bool
  | opened .. => true
  | _ => false

/-- The level of an event. -/
def level : Event → Log.Level
  | opened .. => .info
  | prototypeReused _ => .trace
  | _ => .debug

/-- The sentence of an event, or the name of the span. -/
def message : Event → String
  | opened .. => "translate"
  | prototypeCreated .. => "creating prototype"
  | prototypeReused _ => "reusing prototype"
  | patternCreated .. => "pattern created"
  | operandsReversed _ => "condition operands written right to left"
  | joinAttached .. => "join constraint attached"
  | aggregationCreated .. => "aggregation created"
  | assembled .. => "query assembled"
  | failed _ => "translation failed, restoring schema registry"

/-- The fields of an event. -/
def fields : Event → List (String × Json)
  | opened query shape => [("query", .str query), ("from", .str shape.name)]
  | prototypeCreated table package => [("table", .str table), ("namespace", .str package)]
  | prototypeReused table => [("table", .str table)]
  | patternCreated aliasName table bound =>
    [("alias", .str aliasName), ("table", .str table), ("variable", .str bound.text)]
  | operandsReversed aliasName => [("alias", .str aliasName)]
  | joinAttached first second field otherField =>
    [("first", .str first), ("second", .str second), ("field", .str field),
      ("other_field", .str otherField)]
  | aggregationCreated key table => [("key", .str key), ("table", .str table)]
  | assembled patterns aggregated variableCount =>
    [("patterns", .int patterns), ("aggregated", .bool aggregated), ("variables", .int variableCount)]
  | failed error => [("error", .str error.message)]

end Event

end RuleQuery.Planner
