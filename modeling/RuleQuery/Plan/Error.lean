import RuleQuery.Plan.Variable

/-!
**What can be wrong with a plan.**
-/

namespace RuleQuery.Plan

/-- Why the body of a query is not one of the supported ones. -/
inductive BodyFault where
  /-- Two variables have the name. -/
  | repeatedName (name : String)
  /-- A pattern on the table does not start with the constraint on that table. -/
  | tableConstraintMissing (table : String)
  /-- An aggregation has one variable for its key and its result. -/
  | keyIsResult
  /-- The only pattern has a join. -/
  | joinInSingle
  /-- The first of two patterns has a join. -/
  | joinInFirst
  /-- The second of two patterns does not have one join, with the first. -/
  | secondNotJoined
  /-- The pattern of an aggregation has a join. -/
  | joinInAggregation
  /-- The body has another number or mixture of items. -/
  | items (count : Nat)
deriving DecidableEq, Repr

/-- The sentence for a fault. -/
def BodyFault.message : BodyFault → String
  | repeatedName name => "variable name " ++ name ++ " is bound more than once"
  | tableConstraintMissing table => "pattern on " ++ table ++ " must start with its table constraint"
  | keyIsResult => "group key and result share a variable"
  | joinInSingle => "single pattern carries a join constraint"
  | joinInFirst => "first pattern of a join must be unconstrained"
  | secondNotJoined => "second pattern must carry exactly one join constraint on the first"
  | joinInAggregation => "aggregated pattern carries a join constraint"
  | items count => "unsupported body of " ++ Text.ofNat count ++ " item(s)"

/-- Why a plan cannot be read, checked or rendered. -/
inductive Error where
  /-- The text is not the JSON form of a plan. -/
  | notJson
  /-- A reference to a variable that is not declared. -/
  | unknownVariable (id : VarId)
  /-- The body is not supported. -/
  | invalidBody (fault : BodyFault)
deriving DecidableEq, Repr

/-- The message of an error. -/
def Error.message : Error → String
  | notJson => "JSON error"
  | unknownVariable id => "Unknown variable: " ++ id.text
  | invalidBody fault => "Invalid query body: " ++ fault.message

end RuleQuery.Plan
