import RuleQuery.Peg.Matcher
import RuleQuery.Sql.Rule
import RuleQuery.Sql.Select

/-!
**From the tree of a query to its statement.**

Each node of the tree becomes a `Part`, made of the parts of its children: `build` goes up the tree,
and `combine` says what a rule makes of the parts below it. Reserved words leave no trace, apart from
the direction of an ordering. The first integer, in the order of the text, that does not fit into 64
bits is an error. No tree of the grammar has a rule with other parts than those `combine` knows.
-/

namespace RuleQuery.Sql

open Peg

/-- What the tree of a query may lack. -/
inductive BuildError where
  /-- An integer that does not fit into 64 bits. -/
  | integerRange (literal : List Char)
  /-- A node whose children are not those of its rule. -/
  | misshapen (rule : Rule)

/-- What a node of the tree stands for. -/
inductive Part where
  | keyword (k : Keyword)
  | name (text : String)
  | value (v : Value)
  | op (op : BinOp)
  | expr (e : Expr)
  | exprs (es : List Expr)
  | item (i : SelectItem)
  | items (is : List SelectItem)
  | kind (k : JoinKind)
  | source (s : Source)
  | tail (kind : JoinKind) (right : Source) (condition : Option Expr)
  | selection (e : Expr)
  | groupBy (keys : List Expr)
  | order (o : OrderItem)
  | orderBy (os : List OrderItem)
  | select (s : Select)
  | finish

namespace Part

/-- A reserved word that only separates parts. -/
def isSeparator : Part → Bool
  | keyword .ASC | keyword .DESC => false
  | keyword _ => true
  | _ => false

/-- The expression that a part is. -/
def expr? : Part → Option Expr
  | expr e => some e
  | _ => none

/-- The item of a projection that a part is. -/
def item? : Part → Option SelectItem
  | item i => some i
  | _ => none

/-- The item of an ordering that a part is. -/
def order? : Part → Option OrderItem
  | order o => some o
  | _ => none

end Part

/-! ### Words -/

/-- The 64-bit integer that a literal writes. -/
def integer? (literal : List Char) : Option Int64 :=
  let value := Text.decimalValue literal
  if Int64.minValue.toInt ≤ value ∧ value ≤ Int64.maxValue.toInt then some (Int64.ofInt value)
  else none

/-- The characters with every pair of quotes as one quote. -/
def undoubleQuotes : List Char → List Char
  | '\'' :: '\'' :: rest => '\'' :: undoubleQuotes rest
  | c :: rest => c :: undoubleQuotes rest
  | [] => []

/-- The text of a string literal, without the quotes around it. -/
def stringValue (literal : List Char) : String :=
  String.ofList (undoubleQuotes (literal.drop 1).dropLast)

/-- The comparison that a sign stands for. -/
def comparison? (sign : List Char) : Option BinOp :=
  if sign = ['='] then some .eq
  else if sign = ['<', '>'] ∨ sign = ['!', '='] then some .ne
  else if sign = ['<'] then some .lt
  else if sign = ['<', '='] then some .le
  else if sign = ['>'] then some .gt
  else if sign = ['>', '='] then some .ge
  else none

/-! ### Clauses -/

/-- Operands from left to right under one connective. -/
def connect (op : BinOp) (first : Expr) (rest : List Expr) : Expr :=
  rest.foldl (Expr.binary op) first

/-- Joins from left to right: each joins what stands before it. -/
def chain (first : Source) : List Part → Option Source
  | [] => some first
  | .tail kind right condition :: rest => chain (.join kind first right condition) rest
  | _ => none

/-- The optional clauses of a statement, in their order. -/
def clauses? (parts : List Part) :
    Option (Option Expr × Option (List Expr) × List OrderItem) :=
  let (selection, parts) :=
    match parts with
    | .selection e :: rest => (some e, rest)
    | parts => (none, parts)
  let (groupBy, parts) :=
    match parts with
    | .groupBy keys :: rest => (some keys, rest)
    | parts => (none, parts)
  match parts with
  | [] => some (selection, groupBy, [])
  | [.orderBy os] => some (selection, groupBy, os)
  | _ => none

/-- The part that a rule makes of the parts below it, separators left out. -/
def combine? (rule : Rule) (text : List Char) (parts : List Part) : Option Part :=
  match rule, parts with
  | .endOfInput, [] => some .finish
  | .word k, [] => some (.keyword k)
  | .ident, [] => some (.name (String.ofList text))
  | .string, [] => some (.value (.string (stringValue text)))
  | .integer, [] => (integer? text).map fun i => .value (.int i)
  | .literal, [.value v] => some (.expr (.literal v))
  | .star, [] => some (.expr .wildcard)
  | .colRef, [.name n] => some (.expr (.column ⟨none, n⟩))
  | .colRef, [.name q, .name n] => some (.expr (.column ⟨some q, n⟩))
  | .funcCall, .name n :: args => (args.mapM Part.expr?).map fun es => .expr (.call n es)
  | .cmpOp, [] => (comparison? text).map .op
  | .cmpExpr, [.expr e] => some (.expr e)
  | .cmpExpr, [.expr l, .op o, .expr r] => some (.expr (.binary o l r))
  | .andExpr, .expr e :: rest => (rest.mapM Part.expr?).map fun es => .expr (connect .and e es)
  | .orExpr, .expr e :: rest => (rest.mapM Part.expr?).map fun es => .expr (connect .or e es)
  | .expr, [.expr e] => some (.expr e)
  | .exprList, parts => (parts.mapM Part.expr?).map .exprs
  | .wildcard, [] => some (.item .wildcard)
  | .selectItem, [.expr e] => some (.item (.expr e))
  | .selectItem, [.expr e, .name a] => some (.item (.aliased e a))
  | .selectList, parts => (parts.mapM Part.item?).map .items
  | .innerJoin, [] => some (.kind .inner)
  | .leftJoin, [] => some (.kind .left)
  | .rightJoin, [] => some (.kind .right)
  | .fullJoin, [] => some (.kind .full)
  | .crossJoin, [] => some (.kind .cross)
  | .commaJoin, [] => some (.kind .comma)
  | .joinOp, [.kind k] => some (.kind k)
  | .tableRef, [.name n] => some (.source (.relation ⟨n, none⟩))
  | .tableRef, [.name n, .name a] => some (.source (.relation ⟨n, some a⟩))
  | .subquery, [.select s, .name a] => some (.source (s.asSource a))
  | .relation, [.source s] => some (.source s)
  | .joinTail, [.kind k, .source s] => some (.tail k s none)
  | .joinTail, [.kind k, .source s, .expr e] => some (.tail k s (some e))
  | .fromClause, .source s :: tails => (chain s tails).map .source
  | .whereClause, [.expr e] => some (.selection e)
  | .groupByClause, [.exprs es] => some (.groupBy es)
  | .orderItem, [.expr e] => some (.order ⟨e, false⟩)
  | .orderItem, [.expr e, .keyword .ASC] => some (.order ⟨e, false⟩)
  | .orderItem, [.expr e, .keyword .DESC] => some (.order ⟨e, true⟩)
  | .orderByClause, parts => (parts.mapM Part.order?).map .orderBy
  | .selectStmt, .items p :: .source s :: rest =>
    (clauses? rest).map fun (selection, groupBy, orderBy) =>
      .select ⟨p, s, selection, groupBy, orderBy⟩
  | .query, [.select s, .finish] => some (.select s)
  | _, _ => none

/-- **The part of a node made of the parts of its children**, or what is wrong with it. -/
def combine (rule : Rule) (text : List Char) (parts : List Part) : Except BuildError Part :=
  match combine? rule text (parts.filter (!·.isSeparator)) with
  | some part => .ok part
  | none => .error (if rule = .integer then .integerRange text else .misshapen rule)

mutual

/-- **The part that a tree stands for.** -/
def build : Node Rule → Except BuildError Part
  | .mk rule _ text children => do
    let parts ← buildAll children
    combine rule text parts

/-- The parts that trees stand for, in their order. -/
def buildAll : List (Node Rule) → Except BuildError (List Part)
  | [] => .ok []
  | node :: rest => do
    let part ← build node
    let parts ← buildAll rest
    return part :: parts

end

end RuleQuery.Sql
