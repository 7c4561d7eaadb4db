/-!
**The reserved words of the query language.**

A reserved word may be written in any letter case and is never an identifier.
-/

namespace RuleQuery.Sql

/-- A reserved word. -/
inductive Keyword where
  | SELECT
  | FROM
  | WHERE
  | GROUP
  | ORDER
  | BY
  | INNER
  | LEFT
  | RIGHT
  | FULL
  | OUTER
  | CROSS
  | JOIN
  | ON
  | AND
  | OR
  | ASC
  | DESC
  | AS
deriving DecidableEq, Repr

namespace Keyword

/-- The reserved words in the order in which the grammar tries them. -/
def all : List Keyword :=
  [SELECT, FROM, WHERE, GROUP, ORDER, BY, INNER, LEFT, RIGHT, FULL, OUTER, CROSS, JOIN, ON, AND, OR,
    ASC, DESC, AS]

/-- The letters of the word, in lower case. -/
def letters : Keyword → List Char
  | SELECT => ['s', 'e', 'l', 'e', 'c', 't']
  | FROM => ['f', 'r', 'o', 'm']
  | WHERE => ['w', 'h', 'e', 'r', 'e']
  | GROUP => ['g', 'r', 'o', 'u', 'p']
  | ORDER => ['o', 'r', 'd', 'e', 'r']
  | BY => ['b', 'y']
  | INNER => ['i', 'n', 'n', 'e', 'r']
  | LEFT => ['l', 'e', 'f', 't']
  | RIGHT => ['r', 'i', 'g', 'h', 't']
  | FULL => ['f', 'u', 'l', 'l']
  | OUTER => ['o', 'u', 't', 'e', 'r']
  | CROSS => ['c', 'r', 'o', 's', 's']
  | JOIN => ['j', 'o', 'i', 'n']
  | ON => ['o', 'n']
  | AND => ['a', 'n', 'd']
  | OR => ['o', 'r']
  | ASC => ['a', 's', 'c']
  | DESC => ['d', 'e', 's', 'c']
  | AS => ['a', 's']

theorem mem_all (k : Keyword) : k ∈ all := by
  cases k <;> decide

end Keyword

end RuleQuery.Sql
