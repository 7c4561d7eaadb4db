import RuleQuery.Peg.Matcher
import RuleQuery.Sql.Gap
import RuleQuery.Sql.Rule

/-!
**The grammar of the query language.**

The language is one SELECT statement with an optional semicolon. The grammar reads more than can be
planned: conditions, orderings, outer joins, chains of joins and subqueries have their rules, so that
the planner can name what it does not take.

Blanks and comments may stand between words. Inside an identifier, a number, a string or a reserved
word there is no gap, and such a word leaves no nodes below its own.
-/

namespace RuleQuery.Sql

open Peg
open Peg.Expression

/-- What each rule matches. -/
def body : Rule → Expression Rule
  | .endOfInput => absent (char fun _ => true)
  | .blank => char isGapChar
  | .comment =>
    joined [text ['-', '-'], many (joined [absent (text ['\n']), char fun _ => true])]
  | .identChar => char isWordChar
  | .keyword =>
    joined [anyOf (Keyword.all.map fun k => word k.letters), absent (rule .identChar)]
  | .word k => joined [word k.letters, absent (rule .identChar)]
  | .ident => joined [absent (rule .keyword), char isWordStart, many (rule .identChar)]
  | .query => spaced [start, rule .selectStmt, optional (text [';']), rule .endOfInput]
  | .selectStmt =>
    spaced [rule (.word .SELECT), rule .selectList, rule (.word .FROM), rule .fromClause,
      optional (rule .whereClause), optional (rule .groupByClause), optional (rule .orderByClause)]
  | .selectList =>
    choice (rule .wildcard)
      (spaced [rule .selectItem, repeated (spaced [text [','], rule .selectItem])])
  | .wildcard => text ['*']
  | .selectItem =>
    spaced [rule .expr, optional (spaced [optional (rule (.word .AS)), rule .ident])]
  | .fromClause => spaced [rule .relation, repeated (rule .joinTail)]
  | .joinTail =>
    spaced [rule .joinOp, rule .relation, optional (spaced [rule (.word .ON), rule .expr])]
  | .joinOp =>
    anyOf [rule .innerJoin, rule .leftJoin, rule .rightJoin, rule .fullJoin, rule .crossJoin,
      rule .commaJoin]
  | .innerJoin => spaced [optional (rule (.word .INNER)), rule (.word .JOIN)]
  | .leftJoin => spaced [rule (.word .LEFT), optional (rule (.word .OUTER)), rule (.word .JOIN)]
  | .rightJoin => spaced [rule (.word .RIGHT), optional (rule (.word .OUTER)), rule (.word .JOIN)]
  | .fullJoin => spaced [rule (.word .FULL), optional (rule (.word .OUTER)), rule (.word .JOIN)]
  | .crossJoin => spaced [rule (.word .CROSS), rule (.word .JOIN)]
  | .commaJoin => text [',']
  | .relation => choice (rule .subquery) (rule .tableRef)
  | .tableRef =>
    spaced [rule .ident, optional (spaced [optional (rule (.word .AS)), rule .ident])]
  | .subquery =>
    spaced [text ['('], rule .selectStmt, text [')'], optional (rule (.word .AS)), rule .ident]
  | .whereClause => spaced [rule (.word .WHERE), rule .expr]
  | .groupByClause => spaced [rule (.word .GROUP), rule (.word .BY), rule .exprList]
  | .orderByClause =>
    spaced [rule (.word .ORDER), rule (.word .BY), rule .orderItem,
      repeated (spaced [text [','], rule .orderItem])]
  | .orderItem =>
    spaced [rule .expr, optional (choice (rule (.word .ASC)) (rule (.word .DESC)))]
  | .exprList => spaced [rule .expr, repeated (spaced [text [','], rule .expr])]
  | .expr => rule .orExpr
  | .orExpr => spaced [rule .andExpr, repeated (spaced [rule (.word .OR), rule .andExpr])]
  | .andExpr => spaced [rule .cmpExpr, repeated (spaced [rule (.word .AND), rule .cmpExpr])]
  | .cmpExpr => spaced [rule .primary, optional (spaced [rule .cmpOp, rule .primary])]
  | .cmpOp =>
    anyOf [text ['<', '>'], text ['!', '='], text ['<', '='], text ['>', '='], text ['='],
      text ['<'], text ['>']]
  | .primary =>
    anyOf [rule .funcCall, rule .colRef, rule .literal, spaced [text ['('], rule .expr, text [')']]]
  | .funcCall =>
    spaced [rule .ident, text ['('],
      optional (choice (rule .star) (spaced [rule .expr, repeated (spaced [text [','], rule .expr])])),
      text [')']]
  | .star => text ['*']
  | .colRef => spaced [rule .ident, optional (spaced [text ['.'], rule .ident])]
  | .literal => choice (rule .integer) (rule .string)
  | .integer => joined [optional (text ['-']), char Char.isDigit, many (char Char.isDigit)]
  | .string =>
    joined [text ['\''],
      many (choice (text ['\'', '\'']) (joined [absent (text ['\'']), char fun _ => true])),
      text ['\'']]

/-- What a call to each rule leaves in the tree. -/
def visibility : Rule → Visibility
  | .blank | .comment | .identChar | .primary => .silent
  | .keyword | .word _ | .ident | .integer | .string => .atomic
  | _ => .plain

/-- A rule calls only rules of smaller rank at the place where it starts. -/
def rank : Rule → Nat
  | .ident | .literal | .subquery | .selectStmt => 1
  | .innerJoin | .leftJoin | .rightJoin | .fullJoin | .crossJoin => 1
  | .whereClause | .groupByClause | .orderByClause => 1
  | .funcCall | .colRef | .tableRef | .joinOp | .query => 2
  | .primary | .relation | .joinTail => 3
  | .cmpExpr | .fromClause => 4
  | .andExpr => 5
  | .orExpr => 6
  | .expr => 7
  | .selectItem | .orderItem | .exprList => 8
  | .selectList => 9
  | _ => 0

/-- The rules take characters, all but the end of the input. -/
def ranking : Ranking Rule where
  consuming r := r != .endOfInput
  rank := rank
  top := 10
  width := 64

/-- **The grammar of the query language.** -/
def grammar : Grammar Rule where
  toRanking := ranking
  body := body
  visibility := visibility
  splitGap := splitGap
  splitGap_append := splitGap_append
  rank_lt_top r := by cases r <;> (simp only [ranking, rank]; decide)
  body_ranked r := by
    cases r with
    | word k => cases k <;> decide
    | _ => decide
  body_consumes r := by
    cases r with
    | word k => cases k <;> decide
    | _ => decide
  body_size r := by
    cases r with
    | word k => cases k <;> decide
    | _ => decide

end RuleQuery.Sql
