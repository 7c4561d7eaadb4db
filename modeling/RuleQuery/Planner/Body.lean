import RuleQuery.Planner.Scope
import RuleQuery.Sql.Operand

/-!
**The body of a plan.**

A relation becomes a pattern. If it is grouped by a column, the pattern becomes an aggregation that
counts each group. An inner join of two relations becomes two patterns in the order of the relations,
and the second one compares its own field with the field of the first, whichever way the condition is
written. Nothing else has a plan.
-/

namespace RuleQuery.Planner

open Plan Sql

/-- The operand that a column names. -/
def operandOf (column : ColumnRef) : Planning Operand :=
  match Operand.ofText? column.text with
  | some operand => return operand
  | none => throw (.malformedOperand column.text)

/-- What an alias stands for in the scope. -/
def bindingOf? (aliasName : String) : Planning (Option Binding) := do
  return (← get).binding? aliasName

/-! ### Groups -/

/-- The name of the variable for the number of facts in a group. -/
def countName : String :=
  "count"

/-- The only key to group by, which is a column. -/
def groupColumn : List Expr → Except GroupFault ColumnRef
  | [] => .error .noKey
  | [.column column] => .ok column
  | [key] => .error (.notColumn key)
  | _ => .error .manyKeys

/-- The field of the pattern that a column names. A column with an alias has to have that of the
pattern. -/
def groupField (p : Pattern) (column : ColumnRef) : Planning String :=
  match column.qualifier with
  | none => return Text.lowercase column.name
  | some _ => do
    let operand ← operandOf column
    match ← bindingOf? operand.aliasName with
    | some binding =>
      if binding.bound = p.bound then return operand.field
      else throw (.groupBy (.foreignColumn column))
    | none => throw (.groupBy (.foreignColumn column))

/-- **The aggregation that counts the facts of a pattern by a column.** -/
def aggregate (p : Pattern) (column : ColumnRef) : Planning Aggregation := do
  let field ← groupField p column
  let key ← declareUnique field .groupKey
  let result ← declareUnique countName .accumulate
  report (.aggregationCreated field p.table)
  return ⟨p, field, key, .count, result⟩

/-- The body for one relation. -/
def relationBody (t : TableRef) (groupBy : Option (List Expr)) : Planning (List BodyItem) := do
  let p ← bindRelation t
  match groupBy with
  | none => return [.pattern p]
  | some keys =>
    match groupColumn keys with
    | .error fault => throw (.groupBy fault)
    | .ok column => return [.aggregation (← aggregate p column)]

/-! ### Joins -/

/-- The two columns that a condition equates. -/
def equatedColumns : Option Expr → Except JoinFault (ColumnRef × ColumnRef)
  | none => .error .noCondition
  | some (.binary .eq (.column left) (.column right)) => .ok (left, right)
  | some condition => .error (.notColumnEquality condition)

/-- The two sides of a join. -/
inductive Side where
  | first
  | second
deriving DecidableEq, Repr

/-- The side of the pattern that an operand belongs to. -/
def sideOf (first second : Pattern) (operand : Operand) : Planning Side := do
  match ← bindingOf? operand.aliasName with
  | some binding =>
    if binding.bound = first.bound then return .first
    else if binding.bound = second.bound then return .second
    else throw (.unresolvedOperand operand.aliasName)
  | none => throw (.unresolvedOperand operand.aliasName)

/-- The operands of a condition in the order of the two patterns. -/
def orderOperands (first second : Pattern) (left right : Operand) :
    Planning (Operand × Operand) := do
  let leftSide ← sideOf first second left
  let rightSide ← sideOf first second right
  match leftSide, rightSide with
  | .first, .second => return (left, right)
  | .second, .first =>
    report (.operandsReversed left.aliasName)
    return (right, left)
  | _, _ => throw (.joinCondition (.oneSided left.aliasName))

/-- **The second pattern with its join to the first.** -/
def attachJoin (first second : Pattern) (condition : Option Expr) : Planning Pattern := do
  match equatedColumns condition with
  | .error fault => throw (.joinCondition fault)
  | .ok (left, right) =>
    let left ← operandOf left
    let right ← operandOf right
    let (other, own) ← orderOperands first second left right
    report (.joinAttached other.aliasName own.aliasName own.field other.field)
    return second.addConstraint (.join ⟨own.field, .equal, first.bound, other.field⟩)

/-- The two relations of an inner join. -/
def joinedRelations (kind : JoinKind) (left right : Source) :
    Except ShapeFault (TableRef × TableRef) :=
  if kind = .inner then
    match left, right with
    | .relation l, .relation r => .ok (l, r)
    | _, _ => .error (.joinSides left.shape right.shape)
  else .error (.joinKind kind)

/-- The body for a join. -/
def joinBody (kind : JoinKind) (left right : Source) (condition : Option Expr) :
    Planning (List BodyItem) := do
  match joinedRelations kind left right with
  | .error fault => throw (.queryShape fault)
  | .ok (l, r) =>
    let first ← bindRelation l
    let second ← bindRelation r
    return [.pattern first, .pattern (← attachJoin first second condition)]

/-! ### Whole queries -/

/-- **The body for a query.** -/
def body (s : Select) : Planning (List BodyItem) :=
  if s.selection.isSome then throw (.queryShape .selection)
  else if s.orderBy.isEmpty then
    match s.source with
    | .relation t => relationBody t s.groupBy
    | .join kind left right condition =>
      if s.groupBy.isSome then throw (.queryShape .groupedJoin)
      else joinBody kind left right condition
    | .subquery _ _ _ _ _ aliasName => throw (.queryShape (.subquery aliasName))
  else throw (.queryShape .ordering)

end RuleQuery.Planner
