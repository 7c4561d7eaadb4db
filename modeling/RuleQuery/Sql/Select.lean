import RuleQuery.Sql.Expr

/-!
**SELECT statements.**

A statement has a projection, a source of rows, and optional clauses. The source is a relation, a
join of two sources, or a subquery, which holds the parts of a statement of its own.
-/

namespace RuleQuery.Sql

/-- An item of a projection. -/
inductive SelectItem where
  /-- All columns. -/
  | wildcard
  | expr (e : Expr)
  | aliased (e : Expr) (name : String)
deriving Repr

/-- A table, with or without an alias. -/
structure TableRef where
  /-- The name of the table. -/
  name : String
  /-- The alias under which the query uses it. -/
  aliasName : Option String
deriving DecidableEq, Repr

/-- How two sources are joined. -/
inductive JoinKind where
  | inner
  | left
  | right
  | full
  | cross
  /-- Two sources with a comma between them. -/
  | comma
deriving DecidableEq, Repr

/-- An item of an ordering. -/
structure OrderItem where
  /-- The expression to order by. -/
  expr : Expr
  /-- From the greatest down. -/
  desc : Bool
deriving Repr

/-- Where the rows come from. -/
inductive Source where
  | relation (table : TableRef)
  | join (kind : JoinKind) (left right : Source) (condition : Option Expr)
  | subquery (projection : List SelectItem) (source : Source) (selection : Option Expr)
      (groupBy : Option (List Expr)) (orderBy : List OrderItem) (aliasName : String)
deriving Repr

/-- A SELECT statement. -/
structure Select where
  /-- What is selected. -/
  projection : List SelectItem
  /-- Where it comes from. -/
  source : Source
  /-- The condition after WHERE. -/
  selection : Option Expr
  /-- The keys after GROUP BY. -/
  groupBy : Option (List Expr)
  /-- The items after ORDER BY. -/
  orderBy : List OrderItem
deriving Repr

/-- The statement as a source under an alias. -/
def Select.asSource (s : Select) (aliasName : String) : Source :=
  .subquery s.projection s.source s.selection s.groupBy s.orderBy aliasName

/-- The three kinds of sources. -/
inductive Shape where
  | relation
  | join
  | subquery
deriving DecidableEq, Repr

/-- The word for a kind of source. -/
def Shape.name : Shape → String
  | relation => "relation"
  | join => "join"
  | subquery => "subquery"

/-- The kind of a source. -/
def Source.shape : Source → Shape
  | relation _ => .relation
  | join .. => .join
  | subquery .. => .subquery

end RuleQuery.Sql
