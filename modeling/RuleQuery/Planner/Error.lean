import RuleQuery.Plan.Error
import RuleQuery.Sql.Json
import RuleQuery.Sql.Parse
import RuleQuery.Text.Quoted

/-!
**Why a query has no plan.**

Plans exist for one relation, with or without one key to group by, and for an inner join of two
relations on the equality of two columns. Each error says what stands in the way. A query that fails
has no plan at all.
-/

namespace RuleQuery.Planner

open Sql

/-- Why the condition of a join is not supported. -/
inductive JoinFault where
  /-- The join has no condition. -/
  | noCondition
  /-- The condition is not an equality of two columns. -/
  | notColumnEquality (condition : Expr)
  /-- Both columns belong to the relation with the alias. -/
  | oneSided (aliasName : String)

/-- Why the keys to group by are not supported. -/
inductive GroupFault where
  | noKey
  | manyKeys
  /-- The key is not a column. -/
  | notColumn (key : Expr)
  /-- The column belongs to another relation. -/
  | foreignColumn (column : ColumnRef)

/-- Why the form of a query is not supported. -/
inductive ShapeFault where
  | selection
  | ordering
  | groupedJoin
  /-- The join is not an inner join. -/
  | joinKind (kind : JoinKind)
  /-- A side of the join is not a relation. -/
  | joinSides (left right : Shape)
  /-- The source is a subquery with the alias. -/
  | subquery (aliasName : String)

/-- Why a query has no plan. -/
inductive Error where
  /-- A column does not have the form of an alias, a dot and a field. -/
  | malformedOperand (text : String)
  /-- Two relations have one alias. -/
  | duplicateAlias (aliasName existing table : String)
  /-- The condition of the join is not supported. -/
  | joinCondition (fault : JoinFault)
  /-- The alias belongs to neither relation. -/
  | unresolvedOperand (aliasName : String)
  /-- The keys to group by are not supported. -/
  | groupBy (fault : GroupFault)
  /-- The form of the query is not supported. -/
  | queryShape (fault : ShapeFault)
  /-- The text is not a query. -/
  | parse (error : ParseError)
  /-- The plan is not valid. -/
  | plan (error : Plan.Error)

/-- The sentence for a fault of a condition. -/
def JoinFault.message : JoinFault → String
  | noCondition => "join without ON condition"
  | notColumnEquality condition => condition.text
  | oneSided aliasName => "both operands reference " ++ aliasName

/-- The sentence for a fault of the keys. -/
def GroupFault.message : GroupFault → String
  | noKey => "empty group by list"
  | manyKeys => "group by on more than one field"
  | notColumn key => key.text ++ " is not a column"
  | foreignColumn column => column.text ++ " does not belong to the grouped relation"

/-- The sentence for a fault of the form. -/
def ShapeFault.message : ShapeFault → String
  | selection => "WHERE clauses are not supported"
  | ordering => "ORDER BY is not supported"
  | groupedJoin => "GROUP BY over a join is not supported"
  | joinKind kind => kind.name ++ " joins are not supported"
  | joinSides left right =>
    "only a join of two relations is supported, got " ++ left.name ++ " JOIN " ++ right.name
  | subquery aliasName => "subquery " ++ aliasName ++ " in FROM is not supported"

/-- **The message of an error.** -/
def Error.message : Error → String
  | malformedOperand text => "Malformed operand: " ++ Text.quoted text ++ " (expected alias.field)"
  | duplicateAlias aliasName existing table =>
    "Duplicate alias " ++ Text.quoted aliasName ++ ": already bound to " ++ Text.quoted existing ++
      ", cannot bind to " ++ Text.quoted table
  | joinCondition fault => "Unsupported join condition: " ++ fault.message
  | unresolvedOperand aliasName =>
    "Unresolved join operand: alias " ++ Text.quoted aliasName ++
      " is not bound by either joined relation"
  | groupBy fault => "Unsupported GROUP BY: " ++ fault.message
  | queryShape fault => "Unsupported query shape: " ++ fault.message
  | parse error => error.message
  | plan error => "Plan error: " ++ error.message

/-- The kinds of errors, without what they say about the query. -/
inductive ErrorKind where
  | malformedOperand
  | duplicateAlias
  | joinCondition
  | unresolvedOperand
  | groupBy
  | queryShape
  | parse
  | plan
deriving DecidableEq, Repr

/-- The kind of an error. -/
def Error.kind : Error → ErrorKind
  | malformedOperand _ => .malformedOperand
  | duplicateAlias .. => .duplicateAlias
  | joinCondition _ => .joinCondition
  | unresolvedOperand _ => .unresolvedOperand
  | groupBy _ => .groupBy
  | queryShape _ => .queryShape
  | parse _ => .parse
  | plan _ => .plan

end RuleQuery.Planner
