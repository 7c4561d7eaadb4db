import RuleQuery.Proofs.Sql.WellFormed
import RuleQuery.Sql.Parse

/-!
**What the trees of the grammar build.**

`Rule.Gives` says which parts each rule leaves in the tree, with what is known of the names and
clauses inside them. It is an invariant of matching:

* `Allows`: the parts of an expression, given those of the rules that it calls.
* `makes_of_allows`: a rule whose body leaves allowed parts makes one of its own parts from them.
* `matches_builds`: so every match builds allowed parts, or one of its integers is out of range.
-/

namespace RuleQuery.Peg

/-- The rules that an expression calls, apart from those that it only looks ahead for. -/
def Expression.calls {ρ : Type} : Expression ρ → List ρ
  | start | gap | text _ | word _ | char _ | absent _ => []
  | rule r => [r]
  | next a b | choice a b => a.calls ++ b.calls
  | optional a | many a => a.calls

end RuleQuery.Peg

namespace RuleQuery.Sql

open Peg
open Peg.Expression

/-! ### The parts of a rule -/

/-- **The parts that a call to a rule leaves.** -/
def Rule.Gives : Rule → List Part → Prop
  | .endOfInput, parts => parts = [.finish]
  | .blank, parts | .comment, parts | .identChar, parts => parts = []
  | .keyword, _ => False
  | .word k, parts => parts = [.keyword k]
  | .ident, parts => ∃ name, parts = [.name name] ∧ Named name
  | .integer, parts | .string, parts => ∃ value, parts = [.value value]
  | .star, parts => parts = [.expr .wildcard]
  | .cmpOp, parts => ∃ op, parts = [.op op]
  | .literal, parts | .colRef, parts | .funcCall, parts | .primary, parts | .cmpExpr, parts
  | .andExpr, parts | .orExpr, parts | .expr, parts => ∃ e, parts = [.expr e] ∧ e.WellFormed
  | .exprList, parts => ∃ es, parts = [.exprs es] ∧ es ≠ [] ∧ ∀ e ∈ es, e.WellFormed
  | .wildcard, parts => parts = [.item .wildcard]
  | .selectItem, parts => ∃ item, parts = [.item item] ∧ item.WellFormed
  | .selectList, parts => ∃ items, parts = [.items items] ∧ WellFormedProjection items
  | .innerJoin, parts | .leftJoin, parts | .rightJoin, parts | .fullJoin, parts
  | .crossJoin, parts | .commaJoin, parts | .joinOp, parts => ∃ kind, parts = [.kind kind]
  | .tableRef, parts | .subquery, parts | .relation, parts =>
    ∃ source, parts = [.source source] ∧ source.WellFormed ∧ source.shape ≠ .join
  | .joinTail, parts => ∃ tail, parts = [tail] ∧ WellFormedTail tail
  | .fromClause, parts => ∃ source, parts = [.source source] ∧ source.WellFormed
  | .whereClause, parts => ∃ e, parts = [.selection e] ∧ e.WellFormed
  | .groupByClause, parts => ∃ keys, parts = [.groupBy keys] ∧ keys ≠ [] ∧ ∀ e ∈ keys, e.WellFormed
  | .orderItem, parts => ∃ item, parts = [.order item] ∧ item.expr.WellFormed
  | .orderByClause, parts => ∃ items, parts = [.orderBy items] ∧ ∀ item ∈ items, item.expr.WellFormed
  | .selectStmt, parts | .query, parts => ∃ s, parts = [.select s] ∧ s.WellFormed

/-- **The parts that a match of an expression leaves.** -/
def Allows : Expression Rule → List Part → Prop
  | .start, parts | .gap, parts | .text _, parts | .word _, parts | .char _, parts
  | .absent _, parts => parts = []
  | .rule r, parts => r.Gives parts
  | .next a b, parts => ∃ xs ys, parts = xs ++ ys ∧ Allows a xs ∧ Allows b ys
  | .choice a b, parts => Allows a parts ∨ Allows b parts
  | .optional a, parts => parts = [] ∨ Allows a parts
  | .many a, parts => ∃ groups : List (List Part), parts = groups.flatten ∧
      ∀ group ∈ groups, Allows a group

theorem Allows.spaced {a b : Expression Rule} {es : List (Expression Rule)} {parts : List Part}
    (allowed : Allows (spaced (a :: b :: es)) parts) :
    ∃ xs ys, parts = xs ++ ys ∧ Allows a xs ∧ Allows (spaced (b :: es)) ys := by
  obtain ⟨xs, _, rfl, first, _, ys, rfl, rfl, others⟩ := allowed
  exact ⟨xs, ys, rfl, first, others⟩

theorem Allows.repeated {a : Expression Rule} {parts : List Part}
    (allowed : Allows (repeated a) parts) :
    ∃ groups : List (List Part), parts = groups.flatten ∧ ∀ group ∈ groups, Allows a group := by
  rcases allowed with rfl | ⟨xs, _, rfl, first, groups, rfl, others⟩
  · exact ⟨[], rfl, by simp⟩
  · refine ⟨xs :: groups, rfl, ?_⟩
    rw [List.forall_mem_cons]
    refine ⟨first, ?_⟩
    intro group member
    obtain ⟨_, _, rfl, rfl, allowed⟩ := others group member
    exact allowed

/-! ### Parts in a row -/

/-- The parts without the reserved words between them. -/
abbrev significant (parts : List Part) : List Part :=
  parts.filter (!·.isSeparator)

/-- Groups that hold one significant part each make up a list of such parts. -/
theorem exists_map_of_groups {α : Type} (make : α → Part) {good : α → Prop}
    {groups : List (List Part)}
    (each : ∀ group ∈ groups, ∃ a, significant group = [make a] ∧ good a) :
    ∃ as : List α, significant groups.flatten = as.map make ∧ ∀ a ∈ as, good a := by
  induction groups with
  | nil => exact ⟨[], rfl, by simp⟩
  | cons group groups ih =>
    rw [List.forall_mem_cons] at each
    obtain ⟨⟨a, first, goodFirst⟩, others⟩ := each
    obtain ⟨as, rest, goodRest⟩ := ih others
    refine ⟨a :: as, ?_, List.forall_mem_cons.2 ⟨goodFirst, goodRest⟩⟩
    rw [List.flatten_cons, significant, List.filter_append]
    rw [significant] at first rest
    rw [first, rest]
    rfl

/-- Items with a sign or a reserved word before each make up a list of parts. -/
theorem Allows.separated {α : Type} (make : α → Part) {good : α → Prop}
    {separator item : Expression Rule} {parts : List Part}
    (allowed : Allows (.repeated (.spaced [separator, item])) parts)
    (hidden : ∀ xs, Allows separator xs → significant xs = [])
    (single : ∀ ys, Allows item ys → ∃ a, significant ys = [make a] ∧ good a) :
    ∃ as : List α, significant parts = as.map make ∧ ∀ a ∈ as, good a := by
  obtain ⟨groups, rfl, each⟩ := allowed.repeated
  apply exists_map_of_groups make
  intro group member
  obtain ⟨xs, ys, rfl, before, inside⟩ := (each group member).spaced
  have none := hidden xs before
  obtain ⟨a, one, goodOne⟩ := single ys inside
  refine ⟨a, ?_, goodOne⟩
  rw [significant] at none one
  rw [significant, List.filter_append, none, one]
  rfl

theorem mapM_expr? (es : List Expr) : (es.map Part.expr).mapM Part.expr? = some es :=
  Text.mapM_map_of_inverse fun _ _ => rfl

/-! ### Rules over lists of parts -/

section

variable (text : List Char)

theorem combine?_exprList (es : List Expr) :
    combine? .exprList text (es.map Part.expr) = some (.exprs es) := by
  show ((es.map Part.expr).mapM Part.expr?).map Part.exprs = _
  rw [mapM_expr?, Option.map_some]

theorem combine?_call (name : String) (es : List Expr) :
    combine? .funcCall text (.name name :: es.map Part.expr) = some (.expr (.call name es)) := by
  show ((es.map Part.expr).mapM Part.expr?).map _ = _
  rw [mapM_expr?, Option.map_some]

theorem combine?_and (e : Expr) (es : List Expr) :
    combine? .andExpr text (.expr e :: es.map Part.expr) = some (.expr (connect .and e es)) := by
  show ((es.map Part.expr).mapM Part.expr?).map _ = _
  rw [mapM_expr?, Option.map_some]

theorem combine?_or (e : Expr) (es : List Expr) :
    combine? .orExpr text (.expr e :: es.map Part.expr) = some (.expr (connect .or e es)) := by
  show ((es.map Part.expr).mapM Part.expr?).map _ = _
  rw [mapM_expr?, Option.map_some]

theorem combine?_selectList (items : List SelectItem) :
    combine? .selectList text (items.map Part.item) = some (.items items) := by
  have each : (items.map Part.item).mapM Part.item? = some items :=
    Text.mapM_map_of_inverse fun _ _ => rfl
  show ((items.map Part.item).mapM Part.item?).map Part.items = _
  rw [each, Option.map_some]

theorem combine?_orderBy (items : List OrderItem) :
    combine? .orderByClause text (items.map Part.order) = some (.orderBy items) := by
  have each : (items.map Part.order).mapM Part.order? = some items :=
    Text.mapM_map_of_inverse fun _ _ => rfl
  show ((items.map Part.order).mapM Part.order?).map Part.orderBy = _
  rw [each, Option.map_some]

end

/-! ### What a rule makes of its parts -/

/-- The rule makes one of its own parts from the parts below it. -/
def Rule.Makes (r : Rule) (text : List Char) (parts : List Part) : Prop :=
  ∃ part, combine? r text (significant parts) = some part ∧ r.Gives [part]

section

variable {parts : List Part} (text : List Char)

theorem query_makes (allowed : Allows (body .query) parts) : Rule.query.Makes text parts := by
  obtain ⟨_, _, rfl, rfl, whole⟩ := allowed.spaced
  obtain ⟨_, _, rfl, ⟨s, rfl, formed⟩, afterStatement⟩ := whole.spaced
  obtain ⟨_, _, rfl, rfl | rfl, rfl⟩ := afterStatement.spaced
  · exact ⟨.select s, rfl, s, rfl, formed⟩
  · exact ⟨.select s, rfl, s, rfl, formed⟩

/-- The parts of the optional clauses. -/
def clauseParts (selection : Option Expr) (groupBy : Option (List Expr))
    (orderBy : Option (List OrderItem)) : List Part :=
  (selection.map Part.selection).toList ++
    ((groupBy.map Part.groupBy).toList ++ (orderBy.map Part.orderBy).toList)

theorem clauses?_clauseParts (selection : Option Expr) (groupBy : Option (List Expr))
    (orderBy : Option (List OrderItem)) :
    clauses? (clauseParts selection groupBy orderBy) = some (selection, groupBy, orderBy.getD []) := by
  cases selection <;> cases groupBy <;> cases orderBy <;> rfl

theorem significant_clauseParts (selection : Option Expr) (groupBy : Option (List Expr))
    (orderBy : Option (List OrderItem)) :
    significant (clauseParts selection groupBy orderBy) = clauseParts selection groupBy orderBy := by
  cases selection <;> cases groupBy <;> cases orderBy <;> rfl

/-- The optional clauses give the last three fields of a statement. -/
theorem clauses_of_allows
    (allowed : Allows (spaced [optional (rule .whereClause), optional (rule .groupByClause),
      optional (rule .orderByClause)]) parts) :
    ∃ selection groupBy orderBy, clauses? (significant parts) = some (selection, groupBy, orderBy) ∧
      WellFormedClauses selection groupBy orderBy := by
  obtain ⟨first, _, rfl, filtered, others⟩ := allowed.spaced
  obtain ⟨second, third, rfl, grouped, ordered⟩ := others.spaced
  have hasSelection : ∃ selection : Option Expr, first = (selection.map Part.selection).toList ∧
      ∀ e ∈ selection, e.WellFormed := by
    rcases filtered with rfl | ⟨e, rfl, formed⟩
    · exact ⟨none, rfl, by simp⟩
    · exact ⟨some e, rfl, by simpa using formed⟩
  have hasGroups : ∃ groupBy : Option (List Expr), second = (groupBy.map Part.groupBy).toList ∧
      (∀ keys ∈ groupBy, keys ≠ []) ∧ ∀ keys ∈ groupBy, ∀ e ∈ keys, e.WellFormed := by
    rcases grouped with rfl | ⟨keys, rfl, some, formed⟩
    · exact ⟨none, rfl, by simp, by simp⟩
    · exact ⟨Option.some keys, rfl, by simpa using some, by simpa using formed⟩
  have hasOrder : ∃ orderBy : Option (List OrderItem), third = (orderBy.map Part.orderBy).toList ∧
      ∀ item ∈ orderBy.getD [], item.expr.WellFormed := by
    rcases ordered with rfl | ⟨items, rfl, formed⟩
    · exact ⟨none, rfl, by simp⟩
    · exact ⟨some items, rfl, by simpa using formed⟩
  obtain ⟨selection, rfl, selectionFormed⟩ := hasSelection
  obtain ⟨groupBy, rfl, groups, groupByFormed⟩ := hasGroups
  obtain ⟨orderBy, rfl, orderByFormed⟩ := hasOrder
  have found : clauses? (significant (clauseParts selection groupBy orderBy)) =
      some (selection, groupBy, orderBy.getD []) := by
    rw [significant_clauseParts, clauses?_clauseParts]
  exact ⟨_, _, _, found, selectionFormed, groups, groupByFormed, orderByFormed⟩

theorem selectStmt_makes (allowed : Allows (body .selectStmt) parts) :
    Rule.selectStmt.Makes text parts := by
  obtain ⟨_, _, rfl, rfl, afterSelect⟩ := allowed.spaced
  obtain ⟨_, _, rfl, ⟨items, rfl, projection⟩, afterItems⟩ := afterSelect.spaced
  obtain ⟨_, _, rfl, rfl, afterFrom⟩ := afterItems.spaced
  obtain ⟨_, rest, rfl, ⟨source, rfl, formed⟩, afterSource⟩ := afterFrom.spaced
  obtain ⟨selection, groupBy, orderBy, found, clauses⟩ := clauses_of_allows afterSource
  refine ⟨.select ⟨items, source, selection, groupBy, orderBy⟩, ?_, _, rfl,
    projection, formed, clauses⟩
  show (clauses? (significant rest)).map _ = _
  rw [found]
  rfl

theorem selectList_makes (allowed : Allows (body .selectList) parts) :
    Rule.selectList.Makes text parts := by
  rcases allowed with rfl | list
  · exact ⟨.items [.wildcard], rfl, _, rfl, .wildcard⟩
  · obtain ⟨_, rest, rfl, ⟨item, rfl, formed⟩, others⟩ := list.spaced
    obtain ⟨items, found, formedItems⟩ := others.separated Part.item
      (by rintro _ rfl; rfl) (by rintro _ ⟨item, rfl, formed⟩; exact ⟨item, rfl, formed⟩)
    refine ⟨.items (item :: items), ?_, _, rfl, .items (by simp)
      (List.forall_mem_cons.2 ⟨formed, formedItems⟩)⟩
    show combine? _ _ (.item item :: significant rest) = _
    rw [found]
    exact combine?_selectList text (item :: items)

theorem selectItem_makes (allowed : Allows (body .selectItem) parts) :
    Rule.selectItem.Makes text parts := by
  obtain ⟨_, _, rfl, ⟨e, rfl, formed⟩, rfl | others⟩ := allowed.spaced
  · exact ⟨.item (.expr e), rfl, _, rfl, .expr formed⟩
  · obtain ⟨_, _, rfl, rfl | rfl, name, rfl, named⟩ := others.spaced
    · exact ⟨.item (.aliased e name), rfl, _, rfl, .aliased formed named⟩
    · exact ⟨.item (.aliased e name), rfl, _, rfl, .aliased formed named⟩

/-! ### Sources -/

theorem fromClause_makes (allowed : Allows (body .fromClause) parts) :
    Rule.fromClause.Makes text parts := by
  obtain ⟨_, _, rfl, ⟨source, rfl, formed, _⟩, others⟩ := allowed.spaced
  obtain ⟨groups, rfl, each⟩ := others.repeated
  have single : ∀ group ∈ groups, ∃ tail, significant group = [id tail] ∧ WellFormedTail tail := by
    intro group member
    obtain ⟨tail, rfl, formedTail⟩ := each group member
    cases tail with
    | tail kind right condition => exact ⟨_, rfl, formedTail⟩
    | _ => exact formedTail.elim
  obtain ⟨tails, found, formedTails⟩ := exists_map_of_groups id single
  obtain ⟨joined, chained, formedJoin⟩ := chain_wellFormed formed formedTails
  refine ⟨.source joined, ?_, _, rfl, formedJoin⟩
  show (chain source (significant groups.flatten)).map Part.source = _
  rw [found, List.map_id, chained]
  rfl

theorem joinTail_makes (allowed : Allows (body .joinTail) parts) :
    Rule.joinTail.Makes text parts := by
  obtain ⟨_, _, rfl, ⟨kind, rfl⟩, others⟩ := allowed.spaced
  obtain ⟨_, _, rfl, ⟨source, rfl, formed, single⟩, rfl | condition⟩ := others.spaced
  · exact ⟨.tail kind source none, rfl, _, rfl, formed, single, by simp⟩
  · obtain ⟨_, _, rfl, rfl, e, rfl, formedCondition⟩ := condition.spaced
    exact ⟨.tail kind source (some e), rfl, _, rfl, formed, single, by simpa using formedCondition⟩

theorem tableRef_makes (allowed : Allows (body .tableRef) parts) :
    Rule.tableRef.Makes text parts := by
  obtain ⟨_, _, rfl, ⟨name, rfl, named⟩, rfl | others⟩ := allowed.spaced
  · exact ⟨.source (.relation ⟨name, none⟩), rfl, _, rfl, .relation named (by simp),
      by simp [Source.shape]⟩
  · obtain ⟨_, _, rfl, rfl | rfl, a, rfl, namedAlias⟩ := others.spaced
    · exact ⟨.source (.relation ⟨name, some a⟩), rfl, _, rfl,
        .relation named (by simpa using namedAlias), by simp [Source.shape]⟩
    · exact ⟨.source (.relation ⟨name, some a⟩), rfl, _, rfl,
        .relation named (by simpa using namedAlias), by simp [Source.shape]⟩

theorem subquery_makes (allowed : Allows (body .subquery) parts) :
    Rule.subquery.Makes text parts := by
  obtain ⟨_, _, rfl, rfl, afterOpen⟩ := allowed.spaced
  obtain ⟨_, _, rfl, ⟨s, rfl, formed⟩, afterStatement⟩ := afterOpen.spaced
  obtain ⟨_, _, rfl, rfl, afterClose⟩ := afterStatement.spaced
  obtain ⟨_, _, rfl, rfl | rfl, name, rfl, named⟩ := afterClose.spaced
  · exact ⟨.source (s.asSource name), rfl, _, rfl, formed.asSource named,
      by simp [Select.asSource, Source.shape]⟩
  · exact ⟨.source (s.asSource name), rfl, _, rfl, formed.asSource named,
      by simp [Select.asSource, Source.shape]⟩

/-! ### Clauses -/

theorem whereClause_makes (allowed : Allows (body .whereClause) parts) :
    Rule.whereClause.Makes text parts := by
  obtain ⟨_, _, rfl, rfl, e, rfl, formed⟩ := allowed.spaced
  exact ⟨.selection e, rfl, _, rfl, formed⟩

theorem groupByClause_makes (allowed : Allows (body .groupByClause) parts) :
    Rule.groupByClause.Makes text parts := by
  obtain ⟨_, _, rfl, rfl, others⟩ := allowed.spaced
  obtain ⟨_, _, rfl, rfl, keys, rfl, formed⟩ := others.spaced
  exact ⟨.groupBy keys, rfl, _, rfl, formed⟩

theorem orderItem_makes (allowed : Allows (body .orderItem) parts) :
    Rule.orderItem.Makes text parts := by
  obtain ⟨_, _, rfl, ⟨e, rfl, formed⟩, rfl | rfl | rfl⟩ := allowed.spaced
  · exact ⟨.order ⟨e, false⟩, rfl, _, rfl, formed⟩
  · exact ⟨.order ⟨e, false⟩, rfl, _, rfl, formed⟩
  · exact ⟨.order ⟨e, true⟩, rfl, _, rfl, formed⟩

theorem orderByClause_makes (allowed : Allows (body .orderByClause) parts) :
    Rule.orderByClause.Makes text parts := by
  obtain ⟨_, _, rfl, rfl, afterOrder⟩ := allowed.spaced
  obtain ⟨_, _, rfl, rfl, afterBy⟩ := afterOrder.spaced
  obtain ⟨_, rest, rfl, ⟨item, rfl, formed⟩, others⟩ := afterBy.spaced
  obtain ⟨items, found, formedItems⟩ := others.separated Part.order
    (by rintro _ rfl; rfl) (by rintro _ ⟨item, rfl, formed⟩; exact ⟨item, rfl, formed⟩)
  refine ⟨.orderBy (item :: items), ?_, _, rfl, List.forall_mem_cons.2 ⟨formed, formedItems⟩⟩
  show combine? _ _ (.order item :: significant rest) = _
  rw [found]
  exact combine?_orderBy text (item :: items)

/-! ### Expressions -/

/-- Expressions with a sign or a reserved word before each. -/
theorem Allows.exprs {separator : Expression Rule} {r : Rule}
    (allowed : Allows (.repeated (.spaced [separator, .rule r])) parts)
    (hidden : ∀ xs, Allows separator xs → significant xs = [])
    (single : ∀ ys, r.Gives ys → ∃ e, ys = [.expr e] ∧ e.WellFormed) :
    ∃ es : List Expr, significant parts = es.map Part.expr ∧ ∀ e ∈ es, e.WellFormed := by
  refine Allows.separated Part.expr allowed hidden ?_
  intro ys gives
  obtain ⟨e, rfl, formed⟩ := single ys gives
  exact ⟨e, rfl, formed⟩

theorem exprList_makes (allowed : Allows (body .exprList) parts) :
    Rule.exprList.Makes text parts := by
  obtain ⟨_, rest, rfl, ⟨e, rfl, formed⟩, others⟩ := allowed.spaced
  obtain ⟨es, found, formedOthers⟩ := others.exprs (by rintro _ rfl; rfl) (fun _ gives => gives)
  refine ⟨.exprs (e :: es), ?_, _, rfl, by simp, List.forall_mem_cons.2 ⟨formed, formedOthers⟩⟩
  show combine? _ _ (.expr e :: significant rest) = _
  rw [found]
  exact combine?_exprList text (e :: es)

theorem orExpr_makes (allowed : Allows (body .orExpr) parts) : Rule.orExpr.Makes text parts := by
  obtain ⟨_, rest, rfl, ⟨e, rfl, formed⟩, others⟩ := allowed.spaced
  obtain ⟨es, found, formedOthers⟩ := others.exprs (by rintro _ rfl; rfl) (fun _ gives => gives)
  refine ⟨.expr (connect .or e es), ?_, _, rfl, connect_wellFormed .or formed formedOthers⟩
  show combine? _ _ (.expr e :: significant rest) = _
  rw [found]
  exact combine?_or text e es

theorem andExpr_makes (allowed : Allows (body .andExpr) parts) : Rule.andExpr.Makes text parts := by
  obtain ⟨_, rest, rfl, ⟨e, rfl, formed⟩, others⟩ := allowed.spaced
  obtain ⟨es, found, formedOthers⟩ := others.exprs (by rintro _ rfl; rfl) (fun _ gives => gives)
  refine ⟨.expr (connect .and e es), ?_, _, rfl, connect_wellFormed .and formed formedOthers⟩
  show combine? _ _ (.expr e :: significant rest) = _
  rw [found]
  exact combine?_and text e es

theorem cmpExpr_makes (allowed : Allows (body .cmpExpr) parts) : Rule.cmpExpr.Makes text parts := by
  obtain ⟨_, _, rfl, ⟨left, rfl, leftFormed⟩, rfl | others⟩ := allowed.spaced
  · exact ⟨.expr left, rfl, _, rfl, leftFormed⟩
  · obtain ⟨_, _, rfl, ⟨op, rfl⟩, right, rfl, rightFormed⟩ := others.spaced
    exact ⟨.expr (.binary op left right), rfl, _, rfl, .binary op leftFormed rightFormed⟩

theorem colRef_makes (allowed : Allows (body .colRef) parts) : Rule.colRef.Makes text parts := by
  obtain ⟨_, _, rfl, ⟨name, rfl, named⟩, rfl | others⟩ := allowed.spaced
  · exact ⟨.expr (.column ⟨none, name⟩), rfl, _, rfl, .column (by simp) named⟩
  · obtain ⟨_, _, rfl, rfl, column, rfl, namedColumn⟩ := others.spaced
    exact ⟨.expr (.column ⟨some name, column⟩), rfl, _, rfl,
      .column (by simpa using named) namedColumn⟩

theorem funcCall_makes (allowed : Allows (body .funcCall) parts) :
    Rule.funcCall.Makes text parts := by
  obtain ⟨_, _, rfl, ⟨name, rfl, named⟩, afterName⟩ := allowed.spaced
  obtain ⟨_, _, rfl, rfl, afterOpen⟩ := afterName.spaced
  obtain ⟨_, _, rfl, rfl | rfl | list, rfl⟩ := afterOpen.spaced
  · exact ⟨.expr (.call name []), rfl, _, rfl, .call named (by simp)⟩
  · exact ⟨.expr (.call name [.wildcard]), rfl, _, rfl, .callAll named⟩
  · obtain ⟨_, rest, rfl, ⟨e, rfl, formed⟩, others⟩ := list.spaced
    obtain ⟨es, found, formedOthers⟩ := others.exprs (by rintro _ rfl; rfl) (fun _ gives => gives)
    refine ⟨.expr (.call name (e :: es)), ?_, _, rfl,
      .call named (List.forall_mem_cons.2 ⟨formed, formedOthers⟩)⟩
    show combine? _ _ (.name name :: .expr e :: significant (rest ++ [])) = _
    rw [List.append_nil, found]
    exact combine?_call text name (e :: es)

theorem literal_makes (allowed : Allows (body .literal) parts) : Rule.literal.Makes text parts := by
  rcases allowed with ⟨value, rfl⟩ | ⟨value, rfl⟩
  · exact ⟨.expr (.literal value), rfl, _, rfl, .literal value⟩
  · exact ⟨.expr (.literal value), rfl, _, rfl, .literal value⟩

theorem primary_gives (allowed : Allows (body .primary) parts) : Rule.primary.Gives parts := by
  rcases allowed with gives | gives | gives | grouped
  · exact gives
  · exact gives
  · exact gives
  · obtain ⟨_, _, rfl, rfl, others⟩ := grouped.spaced
    obtain ⟨_, _, rfl, ⟨e, rfl, formed⟩, rfl⟩ := others.spaced
    exact ⟨e, rfl, formed⟩

/-- The signs of comparisons, in the order in which the grammar tries them. -/
def comparisonSigns : List (List Char) :=
  [['<', '>'], ['!', '='], ['<', '='], ['>', '='], ['='], ['<'], ['>']]

theorem comparison?_isSome : ∀ sign ∈ comparisonSigns, (comparison? sign).isSome = true := by
  decide

theorem cmpOp_makes {position : Nat} {s rest : List Char} {nodes : List (Node Rule)}
    (inside : Matches grammar (body .cmpOp) position s (.ok nodes text rest))
    (allowed : Allows (body .cmpOp) parts) : Rule.cmpOp.Makes text parts := by
  have none : parts = [] := by
    rcases allowed with rfl | rfl | rfl | rfl | rfl | rfl | rfl <;> rfl
  have choice : Matches grammar (anyOf (comparisonSigns.map .text)) position s
      (.ok nodes text rest) := inside
  have sign := choice.mem_of_anyOf_text
  obtain ⟨op, found⟩ := Option.isSome_iff_exists.1 (comparison?_isSome text sign)
  refine ⟨.op op, ?_, op, rfl⟩
  rw [none]
  show (comparison? text).map Part.op = _
  rw [found]
  rfl

/-! ### Joins -/

theorem innerJoin_makes (allowed : Allows (body .innerJoin) parts) :
    Rule.innerJoin.Makes text parts := by
  obtain ⟨_, _, rfl, rfl | rfl, rfl⟩ := allowed.spaced
  · exact ⟨.kind .inner, rfl, _, rfl⟩
  · exact ⟨.kind .inner, rfl, _, rfl⟩

/-- A word for a side, and OUTER or not, before JOIN. -/
theorem Allows.outer {k : Keyword} (side : (Part.keyword k).isSeparator = true)
    (allowed : Allows (.spaced [.rule (.word k), .optional (.rule (.word .OUTER)),
      .rule (.word .JOIN)]) parts) : significant parts = [] := by
  obtain ⟨_, _, rfl, rfl, others⟩ := allowed.spaced
  obtain ⟨_, _, rfl, rfl | rfl, rfl⟩ := others.spaced
  · exact List.filter_cons_of_neg (by rw [side]; decide)
  · exact List.filter_cons_of_neg (by rw [side]; decide)

theorem crossJoin_makes (allowed : Allows (body .crossJoin) parts) :
    Rule.crossJoin.Makes text parts := by
  obtain ⟨_, _, rfl, rfl, rfl⟩ := allowed.spaced
  exact ⟨.kind .cross, rfl, _, rfl⟩

theorem joinOp_makes (allowed : Allows (body .joinOp) parts) : Rule.joinOp.Makes text parts := by
  have single : ∃ kind, parts = [.kind kind] := by
    rcases allowed with gives | gives | gives | gives | gives | gives <;> exact gives
  obtain ⟨kind, rfl⟩ := single
  exact ⟨.kind kind, rfl, _, rfl⟩

theorem relation_makes (allowed : Allows (body .relation) parts) :
    Rule.relation.Makes text parts := by
  have single : ∃ source, parts = [.source source] ∧ source.WellFormed ∧ source.shape ≠ .join := by
    rcases allowed with gives | gives <;> exact gives
  obtain ⟨source, rfl, formed⟩ := single
  exact ⟨.source source, rfl, _, rfl, formed⟩

/-! ### All rules -/

/-- **A rule with a node of its own makes one of its parts from the allowed parts below it.** -/
theorem makes_of_allows {r : Rule} {position : Nat} {s rest : List Char} {nodes : List (Node Rule)}
    (seen : visibility r = .plain)
    (inside : Matches grammar (body r) position s (.ok nodes text rest))
    (allowed : Allows (body r) parts) : r.Makes text parts := by
  cases r with
  | endOfInput => cases allowed; exact ⟨.finish, rfl, rfl⟩
  | query => exact query_makes text allowed
  | selectStmt => exact selectStmt_makes text allowed
  | selectList => exact selectList_makes text allowed
  | wildcard => cases allowed; exact ⟨.item .wildcard, rfl, rfl⟩
  | selectItem => exact selectItem_makes text allowed
  | fromClause => exact fromClause_makes text allowed
  | joinTail => exact joinTail_makes text allowed
  | joinOp => exact joinOp_makes text allowed
  | innerJoin => exact innerJoin_makes text allowed
  | leftJoin => exact ⟨.kind .left, by rw [allowed.outer rfl]; rfl, _, rfl⟩
  | rightJoin => exact ⟨.kind .right, by rw [allowed.outer rfl]; rfl, _, rfl⟩
  | fullJoin => exact ⟨.kind .full, by rw [allowed.outer rfl]; rfl, _, rfl⟩
  | crossJoin => exact crossJoin_makes text allowed
  | commaJoin => cases allowed; exact ⟨.kind .comma, rfl, _, rfl⟩
  | relation => exact relation_makes text allowed
  | tableRef => exact tableRef_makes text allowed
  | subquery => exact subquery_makes text allowed
  | whereClause => exact whereClause_makes text allowed
  | groupByClause => exact groupByClause_makes text allowed
  | orderByClause => exact orderByClause_makes text allowed
  | orderItem => exact orderItem_makes text allowed
  | exprList => exact exprList_makes text allowed
  | expr =>
    obtain ⟨e, rfl, formed⟩ := allowed
    exact ⟨.expr e, rfl, e, rfl, formed⟩
  | orExpr => exact orExpr_makes text allowed
  | andExpr => exact andExpr_makes text allowed
  | cmpExpr => exact cmpExpr_makes text allowed
  | cmpOp => exact cmpOp_makes text inside allowed
  | funcCall => exact funcCall_makes text allowed
  | star => cases allowed; exact ⟨.expr .wildcard, rfl, rfl⟩
  | colRef => exact colRef_makes text allowed
  | literal => exact literal_makes text allowed
  | blank => cases seen
  | comment => cases seen
  | identChar => cases seen
  | primary => cases seen
  | keyword => cases seen
  | word => cases seen
  | ident => cases seen
  | integer => cases seen
  | string => cases seen

end

/-! ### Trees -/

theorem buildAll_append (xs ys : List (Node Rule)) :
    buildAll (xs ++ ys) = do return (← buildAll xs) ++ (← buildAll ys) := by
  induction xs with
  | nil =>
    rw [List.nil_append, buildAll]
    cases buildAll ys <;> rfl
  | cons node xs ih =>
    rw [List.cons_append, buildAll, ih, buildAll]
    simp

theorem buildAll_single (r : Rule) (position : Nat) (literal : List Char) (nodes : List (Node Rule)) :
    buildAll [.mk r position literal nodes] =
      (buildAll nodes >>= combine r literal) >>= fun part => .ok [part] := by
  rw [buildAll, build, buildAll]
  rfl

/-- A node builds what its rule makes of the parts of its children. -/
theorem buildAll_node {r : Rule} {text : List Char} {nodes : List (Node Rule)} {parts : List Part}
    {part : Part} (position : Nat) (built : buildAll nodes = .ok parts)
    (made : combine r text parts = .ok part) :
    buildAll [.mk r position text nodes] = .ok [part] := by
  rw [buildAll, build, built]
  show (combine r text parts >>= fun part => buildAll [] >>= fun rest => _) = _
  rw [made]
  rfl

/-- The trees build allowed parts, or one of their integers is out of range. -/
def Builds (allowed : List Part → Prop) (nodes : List (Node Rule)) : Prop :=
  (∃ parts, buildAll nodes = .ok parts ∧ allowed parts) ∨
    ∃ literal, buildAll nodes = .error (.integerRange literal)

namespace Builds

variable {good better : List Part → Prop} {nodes nodes' : List (Node Rule)}

theorem imp (builds : Builds good nodes) (implies : ∀ parts, good parts → better parts) :
    Builds better nodes := by
  rcases builds with ⟨parts, built, allowed⟩ | failed
  · exact .inl ⟨parts, built, implies parts allowed⟩
  · exact .inr failed

theorem nil (allowed : good []) : Builds good [] :=
  .inl ⟨[], rfl, allowed⟩

theorem append (builds : Builds good nodes) (builds' : Builds better nodes') :
    Builds (fun parts => ∃ xs ys, parts = xs ++ ys ∧ good xs ∧ better ys) (nodes ++ nodes') := by
  unfold Builds
  rw [buildAll_append]
  rcases builds with ⟨xs, built, allowed⟩ | ⟨literal, failed⟩
  · rcases builds' with ⟨ys, built', allowed'⟩ | ⟨literal, failed⟩
    · rw [built, built']
      exact .inl ⟨xs ++ ys, rfl, xs, ys, rfl, allowed, allowed'⟩
    · rw [built, failed]
      exact .inr ⟨literal, rfl⟩
  · rw [failed]
    exact .inr ⟨literal, rfl⟩

/-- A node builds what its rule makes of the parts below it. -/
theorem node {r : Rule} {position : Nat} {text : List Char} (builds : Builds good nodes)
    (makes : ∀ parts, good parts → r.Makes text parts) :
    Builds r.Gives [.mk r position text nodes] := by
  rcases builds with ⟨parts, built, allowed⟩ | ⟨literal, failed⟩
  · obtain ⟨part, made, gives⟩ := makes parts allowed
    have combined : combine r text parts = .ok part := by rw [combine, made]
    exact .inl ⟨[part], buildAll_node position built combined, gives⟩
  · refine .inr ⟨literal, ?_⟩
    rw [buildAll, build, failed]
    rfl

end Builds

section

variable {r : Rule} {e : Expression Rule} {position : Nat} {s text rest : List Char}
  {nodes : List (Node Rule)}

/-- What the rule for identifiers takes is an identifier. -/
theorem isIdentifier_of_matches
    (inside : Matches grammar (body .ident) position s (.ok nodes text rest)) :
    IsIdentifier text := by
  have found : Matches grammar (.rule .ident) position s
      (.ok [.mk .ident position text []] text rest) := .atomic rfl inside
  by_cases named : IsIdentifier (leadingWord s)
  · have same := found.rule_unique (ident_matches position named)
    injection same with _ taken _
    rwa [taken]
  · have never := found.rule_unique (ident_fails position named)
    cases never

/-- A rule without nodes below its own builds its part from the text, unless it is an integer out
of range. -/
theorem atomic_builds (seen : visibility r = .atomic) (kept : r ≠ .keyword)
    (inside : Matches grammar (body r) position s (.ok nodes text rest)) :
    Builds r.Gives [.mk r position text []] := by
  have leaf : Builds (· = []) ([] : List (Node Rule)) := .nil rfl
  cases r with
  | keyword => exact absurd rfl kept
  | word k => exact leaf.node (by rintro _ rfl; exact ⟨.keyword k, rfl, rfl⟩)
  | ident =>
    have named := isIdentifier_of_matches inside
    refine leaf.node ?_
    rintro _ rfl
    refine ⟨.name (String.ofList text), rfl, _, rfl, ?_⟩
    rwa [Named, String.toList_ofList]
  | string => exact leaf.node (by rintro _ rfl; exact ⟨_, rfl, _, rfl⟩)
  | integer =>
    cases fits : integer? text with
    | some i =>
      refine leaf.node ?_
      rintro _ rfl
      refine ⟨.value (.int i), ?_, _, rfl⟩
      show (integer? text).map _ = _
      rw [fits]
      rfl
    | none =>
      have failed : combine .integer text [] = .error (.integerRange text) := by
        have unread : combine? .integer text [] = none := by
          show (integer? text).map _ = none
          rw [fits]
          rfl
        rw [combine, List.filter_nil, unread]
        rfl
      refine .inr ⟨text, ?_⟩
      rw [buildAll, build, buildAll]
      show (combine .integer text [] >>= fun part => _) = _
      rw [failed]
      rfl
  | _ => cases seen

theorem keyword_notMem_calls (r : Rule) : Rule.keyword ∉ (body r).calls := by
  cases r with
  | word k => exact List.not_mem_nil
  | _ => decide

/-- A call builds the parts of its rule if the body builds allowed parts. -/
theorem rule_builds {outcome : Outcome Rule} {taken : List Char} (kept : r ≠ .keyword)
    (inside : Matches grammar (body r) position s outcome)
    (below : ∀ inner taken rest, outcome = .ok inner taken rest → Builds (Allows (body r)) inner)
    (ends : outcome.close r position (visibility r) = .ok nodes taken rest) :
    Builds r.Gives nodes := by
  cases outcome with
  | fail => cases ends
  | ok inner taken' rest' =>
    have builds := below inner taken' rest' rfl
    cases seen : visibility r with
    | silent =>
      rw [seen] at ends
      cases ends
      refine builds.imp ?_
      intro parts allowed
      cases r with
      | primary => exact primary_gives allowed
      | blank => exact allowed
      | identChar => exact allowed
      | comment =>
        obtain ⟨_, _, rfl, rfl, groups, rfl, each⟩ := allowed
        rw [Rule.Gives, List.nil_append, List.flatten_eq_nil_iff]
        intro group member
        obtain ⟨_, _, rfl, rfl, rfl⟩ := each group member
        rfl
      | _ => cases seen
    | plain =>
      rw [seen] at ends
      cases ends
      exact builds.node fun parts allowed => makes_of_allows _ seen inside allowed
    | atomic =>
      rw [seen] at ends
      cases ends
      exact atomic_builds seen kept inside

/-- **Every match builds allowed parts, or one of its integers is out of range.** -/
theorem matches_builds {outcome : Outcome Rule} (derivation : Matches grammar e position s outcome)
    (ends : outcome = .ok nodes text rest) (kept : Rule.keyword ∉ e.calls) :
    Builds (Allows e) nodes := by
  induction derivation generalizing nodes text rest with
  | start => cases ends; exact .nil rfl
  | gap => cases ends; exact .nil rfl
  | text => cases ends; exact .nil rfl
  | word => cases ends; exact .nil rfl
  | char => cases ends; exact .nil rfl
  | absent => cases ends; exact .nil rfl
  | rule inside ih =>
    -- a reserved word of any kind is only looked ahead for, so that no tree of it is left
    refine rule_builds (fun same => kept (List.mem_singleton.2 same.symm)) inside ?_ ends
    intro inner taken rest ends
    exact ih ends (keyword_notMem_calls _)
  | next _ _ first second =>
    rw [calls, List.mem_append, not_or] at kept
    obtain ⟨nodes', taken', rfl, rfl, rfl⟩ := Outcome.exists_of_after_eq_ok ends
    exact (first rfl kept.1).append (second rfl kept.2)
  | first _ _ found =>
    rw [calls, List.mem_append, not_or] at kept
    exact (found ends kept.1).imp fun _ => .inl
  | second _ _ _ other =>
    rw [calls, List.mem_append, not_or] at kept
    exact (other ends kept.2).imp fun _ => .inr
  | optional _ found => exact (found ends kept).imp fun _ => .inr
  | skip => cases ends; exact .nil (.inl rfl)
  | again _ _ first others =>
    obtain ⟨nodes', taken', rfl, rfl, rfl⟩ := Outcome.exists_of_after_eq_ok ends
    refine ((first rfl kept).append (others rfl kept)).imp ?_
    rintro _ ⟨xs, _, rfl, allowed, groups, rfl, each⟩
    exact ⟨xs :: groups, rfl, List.forall_mem_cons.2 ⟨allowed, each⟩⟩
  | stop => cases ends; exact .nil ⟨[], rfl, by simp⟩
  | _ => cases ends

end

end RuleQuery.Sql
