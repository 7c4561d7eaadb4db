import RuleQuery.Proofs.Sql.Word
import RuleQuery.Sql.Build

/-!
**Statements that can be written.**

The types of expressions and statements hold more than the language has texts for. A statement is
well formed when, at every depth,

* every name is an identifier (`IsIdentifier`);
* the projection is the wildcard alone, or one or more items that are not the wildcard;
* the right side of a join is not a join;
* there is no empty list of grouping keys;
* the wildcard as an expression is the only argument of a call and stands nowhere else.

Operators and joins from left to right keep what they join well formed (`connect_wellFormed`,
`chain_wellFormed`).
-/

namespace RuleQuery.Sql

/-- The text is an identifier. -/
def Named (name : String) : Prop :=
  IsIdentifier name.toList

instance (name : String) : Decidable (Named name) :=
  inferInstanceAs (Decidable (IsIdentifier name.toList))

/-- **The expression can be written.** The wildcard is only in a call of its own. -/
inductive Expr.WellFormed : Expr → Prop where
  | column {column : ColumnRef} (qualifier : ∀ q ∈ column.qualifier, Named q)
      (name : Named column.name) : WellFormed (.column column)
  | literal (value : Value) : WellFormed (.literal value)
  | binary (op : BinOp) {left right : Expr} (leftFormed : left.WellFormed)
      (rightFormed : right.WellFormed) : WellFormed (.binary op left right)
  | call {name : String} {args : List Expr} (named : Named name)
      (formed : ∀ arg ∈ args, arg.WellFormed) : WellFormed (.call name args)
  | callAll {name : String} (named : Named name) : WellFormed (.call name [.wildcard])

/-- The item of a projection can be written beside others. -/
inductive SelectItem.WellFormed : SelectItem → Prop where
  | expr {e : Expr} (formed : e.WellFormed) : WellFormed (.expr e)
  | aliased {e : Expr} {name : String} (formed : e.WellFormed) (named : Named name) :
      WellFormed (.aliased e name)

/-- The projection is the wildcard alone, or items without it. -/
inductive WellFormedProjection : List SelectItem → Prop where
  | wildcard : WellFormedProjection [.wildcard]
  | items {items : List SelectItem} (some : items ≠ [])
      (formed : ∀ item ∈ items, item.WellFormed) : WellFormedProjection items

/-- The optional clauses can be written, and keys to group by are at least one. -/
structure WellFormedClauses (selection : Option Expr) (groupBy : Option (List Expr))
    (orderBy : List OrderItem) : Prop where
  selection : ∀ e ∈ selection, e.WellFormed
  grouped : ∀ keys ∈ groupBy, keys ≠ []
  groupBy : ∀ keys ∈ groupBy, ∀ e ∈ keys, e.WellFormed
  orderBy : ∀ item ∈ orderBy, item.expr.WellFormed

/-- **The source can be written.** -/
inductive Source.WellFormed : Source → Prop where
  | relation {table : TableRef} (name : Named table.name)
      (aliasName : ∀ a ∈ table.aliasName, Named a) : WellFormed (.relation table)
  | join (kind : JoinKind) {left right : Source} {condition : Option Expr}
      (leftFormed : left.WellFormed) (rightFormed : right.WellFormed)
      (single : right.shape ≠ .join) (conditionFormed : ∀ e ∈ condition, e.WellFormed) :
      WellFormed (.join kind left right condition)
  | subquery {projection : List SelectItem} {source : Source} {selection : Option Expr}
      {groupBy : Option (List Expr)} {orderBy : List OrderItem} {aliasName : String}
      (projectionFormed : WellFormedProjection projection) (sourceFormed : source.WellFormed)
      (clauses : WellFormedClauses selection groupBy orderBy) (named : Named aliasName) :
      WellFormed (.subquery projection source selection groupBy orderBy aliasName)

/-- **The statement can be written.** -/
structure Select.WellFormed (s : Select) : Prop where
  projection : WellFormedProjection s.projection
  source : s.source.WellFormed
  clauses : WellFormedClauses s.selection s.groupBy s.orderBy

/-! ### Chains -/

theorem connect_wellFormed (op : BinOp) {first : Expr} {others : List Expr}
    (firstFormed : first.WellFormed) (formed : ∀ e ∈ others, e.WellFormed) :
    (connect op first others).WellFormed := by
  induction others generalizing first with
  | nil => exact firstFormed
  | cons e others ih =>
    rw [List.forall_mem_cons] at formed
    exact ih (.binary op firstFormed formed.1) formed.2

/-- What a part of a chain of joins adds to it. -/
def WellFormedTail : Part → Prop
  | .tail _ right condition =>
    right.WellFormed ∧ right.shape ≠ .join ∧ ∀ e ∈ condition, e.WellFormed
  | _ => False

theorem chain_wellFormed {first : Source} {tails : List Part} (firstFormed : first.WellFormed)
    (formed : ∀ tail ∈ tails, WellFormedTail tail) :
    ∃ joined, chain first tails = some joined ∧ joined.WellFormed := by
  induction tails generalizing first with
  | nil => exact ⟨first, rfl, firstFormed⟩
  | cons part tails ih =>
    rw [List.forall_mem_cons] at formed
    cases part with
    | tail kind right condition =>
      obtain ⟨rightFormed, single, conditionFormed⟩ := formed.1
      exact ih (.join kind firstFormed rightFormed single conditionFormed) formed.2
    | _ => exact formed.1.elim

theorem Select.WellFormed.asSource {s : Select} {aliasName : String} (formed : s.WellFormed)
    (named : Named aliasName) : (s.asSource aliasName).WellFormed :=
  .subquery formed.projection formed.source formed.clauses named

end RuleQuery.Sql
