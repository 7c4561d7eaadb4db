import RuleQuery.Plan.Variable

/-!
**Patterns over facts.**

A pattern binds a variable to the facts of a table that meet its constraints. A new pattern has one
constraint, which names its table; a join compares a field of its facts with a field of a variable
that an earlier pattern binds.
-/

namespace RuleQuery.Plan

/-- How two fields are compared. -/
inductive ConstraintOp where
  | equal
deriving DecidableEq, Repr

/-- The sign of a comparison. -/
def ConstraintOp.symbol : ConstraintOp → String
  | equal => "=="

/-- A comparison of a field of the pattern with a field of another variable. -/
structure JoinConstraint where
  /-- The field of the pattern's own facts. -/
  field : String
  /-- The comparison. -/
  operator : ConstraintOp
  /-- The variable of the other side. -/
  otherVariable : VarId
  /-- The field of the other side. -/
  otherField : String
deriving DecidableEq, Repr

/-- A constraint of a pattern. -/
inductive Constraint where
  /-- The fact belongs to the table. -/
  | table (name : String)
  /-- A field agrees with a field of another variable. -/
  | join (comparison : JoinConstraint)
deriving DecidableEq, Repr

/-- The join that a constraint is, if it is one. -/
def Constraint.join? : Constraint → Option JoinConstraint
  | table _ => none
  | join comparison => some comparison

/-- A pattern over the facts of one table. -/
structure Pattern where
  /-- The variable that it binds. -/
  bound : VarId
  /-- The table of its facts. -/
  table : String
  /-- What the facts have to meet, in order. -/
  constraints : List Constraint
deriving DecidableEq, Repr

namespace Pattern

/-- A pattern with the constraint on its table. -/
def ofTable (id : VarId) (table : String) : Pattern :=
  ⟨id, table, [.table table]⟩

/-- The pattern with one more constraint at the end. -/
def addConstraint (pattern : Pattern) (constraint : Constraint) : Pattern :=
  { pattern with constraints := pattern.constraints ++ [constraint] }

/-- The joins among the constraints, in order. -/
def joins (pattern : Pattern) : List JoinConstraint :=
  pattern.constraints.filterMap Constraint.join?

end Pattern

end RuleQuery.Plan
