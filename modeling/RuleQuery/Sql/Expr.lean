import RuleQuery.Text.Decimal

/-!
**Expressions and their text.**

An expression is a column, a literal, a comparison or a connective of two expressions, a function
call, or the asterisk that stands for all columns in a call. `Expr.text` writes an expression in one
line. It writes no parentheses, so that it shows the operands but not how they were grouped.
-/

namespace RuleQuery.Sql

/-- An operator between two expressions. -/
inductive BinOp where
  | eq
  | ne
  | lt
  | le
  | gt
  | ge
  | and
  | or
deriving DecidableEq, Repr

/-- The sign of an operator. -/
def BinOp.symbol : BinOp → String
  | eq => "="
  | ne => "<>"
  | lt => "<"
  | le => "<="
  | gt => ">"
  | ge => ">="
  | and => "AND"
  | or => "OR"

/-- A literal value. -/
inductive Value where
  | int (value : Int64)
  | string (text : String)
deriving DecidableEq, Repr

/-- The characters of a string with every quote written twice. -/
def doubleQuotes (text : List Char) : List Char :=
  text.flatMap fun c => if c = '\'' then ['\'', '\''] else [c]

/-- The text of a literal. -/
def Value.text : Value → String
  | int value => String.ofList (Text.decimal value.toInt)
  | string text => "'" ++ String.ofList (doubleQuotes text.toList) ++ "'"

/-- A column, with or without the alias of its relation. -/
structure ColumnRef where
  /-- The alias before the dot. -/
  qualifier : Option String
  /-- The name of the column. -/
  name : String
deriving DecidableEq, Repr

/-- The text of a column. -/
def ColumnRef.text (column : ColumnRef) : String :=
  match column.qualifier with
  | some qualifier => qualifier ++ "." ++ column.name
  | none => column.name

/-- An expression. -/
inductive Expr where
  | column (column : ColumnRef)
  | literal (value : Value)
  | binary (op : BinOp) (left right : Expr)
  | call (name : String) (args : List Expr)
  | wildcard
deriving Repr

mutual

/-- **The text of an expression.** -/
def Expr.text : Expr → String
  | column c => c.text
  | literal v => v.text
  | binary op left right => left.text ++ " " ++ op.symbol ++ " " ++ right.text
  | call name args => name ++ "(" ++ Expr.argumentText args ++ ")"
  | wildcard => "*"

/-- The texts of the arguments, with commas between them. -/
def Expr.argumentText : List Expr → String
  | [] => ""
  | [e] => e.text
  | e :: rest => e.text ++ ", " ++ Expr.argumentText rest

end

end RuleQuery.Sql
