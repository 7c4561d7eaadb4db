import RuleQuery.Sql.Keyword

/-!
**The rules of the query language by name.**

The names are part of what a reader of an error message sees: a message lists the rules that were
expected, in the order of `Rule.all`.
-/

namespace RuleQuery.Sql

/-- A rule of the query language. -/
inductive Rule where
  | endOfInput
  | blank
  | comment
  | identChar
  | keyword
  | word (k : Keyword)
  | ident
  | query
  | selectStmt
  | selectList
  | wildcard
  | selectItem
  | fromClause
  | joinTail
  | joinOp
  | innerJoin
  | leftJoin
  | rightJoin
  | fullJoin
  | crossJoin
  | commaJoin
  | relation
  | tableRef
  | subquery
  | whereClause
  | groupByClause
  | orderByClause
  | orderItem
  | exprList
  | expr
  | orExpr
  | andExpr
  | cmpExpr
  | cmpOp
  | primary
  | funcCall
  | star
  | colRef
  | literal
  | integer
  | string
deriving DecidableEq, Repr

namespace Rule

/-- The rules in the order in which a message lists them. -/
def all : List Rule :=
  [endOfInput, blank, comment, identChar, keyword] ++ Keyword.all.map word ++
    [ident, query, selectStmt, selectList, wildcard, selectItem, fromClause, joinTail, joinOp,
      innerJoin, leftJoin, rightJoin, fullJoin, crossJoin, commaJoin, relation, tableRef, subquery,
      whereClause, groupByClause, orderByClause, orderItem, exprList, expr, orExpr, andExpr, cmpExpr,
      cmpOp, primary, funcCall, star, colRef, literal, integer, string]

/-- The name of a rule in messages. -/
def name : Rule → String
  | endOfInput => "EOI"
  | blank => "WHITESPACE"
  | comment => "COMMENT"
  | identChar => "ident_char"
  | keyword => "keyword"
  | word k => "kw_" ++ String.ofList k.letters
  | ident => "ident"
  | query => "query"
  | selectStmt => "select_stmt"
  | selectList => "select_list"
  | wildcard => "wildcard"
  | selectItem => "select_item"
  | fromClause => "from_clause"
  | joinTail => "join_tail"
  | joinOp => "join_op"
  | innerJoin => "inner_join"
  | leftJoin => "left_join"
  | rightJoin => "right_join"
  | fullJoin => "full_join"
  | crossJoin => "cross_join"
  | commaJoin => "comma_join"
  | relation => "relation"
  | tableRef => "table_ref"
  | subquery => "subquery"
  | whereClause => "where_clause"
  | groupByClause => "group_by_clause"
  | orderByClause => "order_by_clause"
  | orderItem => "order_item"
  | exprList => "expr_list"
  | expr => "expr"
  | orExpr => "or_expr"
  | andExpr => "and_expr"
  | cmpExpr => "cmp_expr"
  | cmpOp => "cmp_op"
  | primary => "primary"
  | funcCall => "func_call"
  | star => "star"
  | colRef => "col_ref"
  | literal => "literal"
  | integer => "integer"
  | string => "string"

/-- The rule with a name. -/
def ofName? (name : String) : Option Rule :=
  all.find? (·.name == name)

/-- The rules of a list in the order of messages, each once. -/
def inOrder (rules : List Rule) : List Rule :=
  all.filter (rules.contains ·)

end Rule

end RuleQuery.Sql
