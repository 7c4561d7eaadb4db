import RuleQuery.Proofs.Planner.Calls

/-!
**Which queries have plans, and which plans.**

* `Planned` gives the plans of queries, form by form: one relation, one relation grouped by one
  column, an inner join of two relations on the equality of two columns. It speaks of the aliases, the
  tables and the fields in lower case only, and not of scopes and steps.
* `planned_of_verdict` and `verdict_of_planned`: the queries with a scheme are those with a plan.
* `plan_eq_ok_iff_planned`: **a session gives a plan exactly if it is the plan of the query**, after
  any calls.
-/

namespace RuleQuery.Planner

open Plan Sql

/-! ### The plans of queries -/

/-- The pattern on a table that binds the variable at a place, without joins. -/
def plainPattern (place : Nat) (t : TableRef) : Pattern :=
  ⟨⟨place⟩, tableOf t, [.table (tableOf t)]⟩

/-- The field of a relation that a column to group by names. Only a column with an alias is read as
an operand, and that has to be the alias of the relation. -/
def NamesField (t : TableRef) (column : ColumnRef) (field : String) : Prop :=
  (column.qualifier = none ∧ field = Text.lowercase column.name) ∨
    (column.qualifier ≠ none ∧ Operand.ofText? column.text = some ⟨aliasOf t, field⟩)

/-- Two columns name a field of the first relation and a field of the second, in either order. -/
def NameFields (left right : TableRef) (x y : ColumnRef) (leftField rightField : String) : Prop :=
  (Operand.ofText? x.text = some ⟨aliasOf left, leftField⟩ ∧
      Operand.ofText? y.text = some ⟨aliasOf right, rightField⟩) ∨
    (Operand.ofText? y.text = some ⟨aliasOf left, leftField⟩ ∧
      Operand.ofText? x.text = some ⟨aliasOf right, rightField⟩)

/-- **The plan of a query**, under a name and in a package. -/
inductive Planned (query : Config.QuerySettings) : Select → Descriptor → Prop where
  /-- A relation is one pattern. -/
  | relation (projection : List SelectItem) (t : TableRef) :
      Planned query ⟨projection, .relation t, none, none, []⟩
        ⟨query.name, query.package, ⟨[⟨aliasOf t, .fact (tableOf t)⟩]⟩,
          [.pattern (plainPattern 0 t)]⟩
  /-- A relation with a column to group by is an aggregation. The variables of the key and of the
  count have the first names that are free. -/
  | grouped (projection : List SelectItem) (t : TableRef) (column : ColumnRef)
      (field key count : String) (named : NamesField t column field)
      (keyFree : FreeName [aliasOf t] field key)
      (countFree : FreeName [aliasOf t, key] "count" count) :
      Planned query ⟨projection, .relation t, none, some [.column column], []⟩
        ⟨query.name, query.package,
          ⟨[⟨aliasOf t, .fact (tableOf t)⟩, ⟨key, .groupKey⟩, ⟨count, .accumulate⟩]⟩,
          [.aggregation ⟨plainPattern 0 t, field, ⟨1⟩, .count, ⟨2⟩⟩]⟩
  /-- An inner join of relations with different aliases is two patterns. The second one has the join,
  whichever way the condition is written. -/
  | joined (projection : List SelectItem) (left right : TableRef) (x y : ColumnRef)
      (leftField rightField : String) (distinct : aliasOf left ≠ aliasOf right)
      (named : NameFields left right x y leftField rightField) :
      Planned query
        ⟨projection,
          .join .inner (.relation left) (.relation right)
            (some (.binary .eq (.column x) (.column y))), none, none, []⟩
        ⟨query.name, query.package,
          ⟨[⟨aliasOf left, .fact (tableOf left)⟩, ⟨aliasOf right, .fact (tableOf right)⟩]⟩,
          [.pattern (plainPattern 0 left),
            .pattern ⟨⟨1⟩, tableOf right,
              [.table (tableOf right), .join ⟨rightField, .equal, ⟨0⟩, leftField⟩]⟩]⟩

/-! ### The parts of a verdict -/

section Parts

variable {α fault : Type}

theorem mapError_eq_ok_iff {x : Except fault α} {cause : fault → Error} {a : α} :
    x.mapError cause = .ok a ↔ x = .ok a := by
  cases x with
  | error => exact ⟨nofun, nofun⟩
  | ok b => constructor <;> (rintro ⟨⟩; rfl)

theorem columnOperand_eq_ok_iff {column : ColumnRef} {operand : Operand} :
    columnOperand column = .ok operand ↔ Operand.ofText? column.text = some operand := by
  unfold columnOperand
  cases Operand.ofText? column.text <;> simp

theorem groupColumn_eq_ok_iff {keys : List Expr} {column : ColumnRef} :
    groupColumn keys = .ok column ↔ keys = [.column column] := by
  unfold groupColumn
  split <;> simp_all

theorem equatedColumns_eq_ok_iff {condition : Option Expr} {x y : ColumnRef} :
    equatedColumns condition = .ok (x, y) ↔
      condition = some (.binary .eq (.column x) (.column y)) := by
  unfold equatedColumns
  split <;> simp_all

theorem joinedRelations_eq_ok_iff {kind : JoinKind} {left right : Source} {l r : TableRef} :
    joinedRelations kind left right = .ok (l, r) ↔
      kind = .inner ∧ left = .relation l ∧ right = .relation r := by
  unfold joinedRelations
  split
  · split <;> simp_all
  · simp_all

/-- A key has a field exactly if it names one. -/
theorem keyField_eq_ok_iff {t : TableRef} {column : ColumnRef} {field : String} :
    keyField t column = .ok field ↔ NamesField t column field := by
  unfold keyField NamesField
  cases column.qualifier with
  | none => simp [eq_comm]
  | some qualifier =>
    simp only [bind_eq_ok_iff, columnOperand_eq_ok_iff]
    constructor
    · rintro ⟨operand, found, own⟩
      by_cases same : operand.aliasName = aliasOf t
      · rw [if_pos same] at own
        cases own
        exact .inr ⟨by simp, by rw [found, ← same]⟩
      · rw [if_neg same] at own
        cases own
    · rintro (⟨absurd, _⟩ | ⟨_, found⟩)
      · cases absurd
      · exact ⟨_, found, if_pos rfl⟩

theorem operandSide_eq_first_iff {left right : TableRef} {operand : Operand} :
    operandSide left right operand = .ok .first ↔ operand.aliasName = aliasOf left := by
  unfold operandSide
  split
  · simp_all
  · split <;> simp_all

theorem operandSide_eq_second_iff {left right : TableRef} {operand : Operand}
    (distinct : aliasOf left ≠ aliasOf right) :
    operandSide left right operand = .ok .second ↔ operand.aliasName = aliasOf right := by
  unfold operandSide
  split
  · simp_all
  · split <;> simp_all

/-- Operands can be sorted exactly if one belongs to each relation. -/
theorem sortOperands_eq_ok_iff {left right : TableRef} (distinct : aliasOf left ≠ aliasOf right)
    {x y first second : Operand} :
    sortOperands left right x y = .ok (first, second) ↔
      (first.aliasName = aliasOf left ∧ second.aliasName = aliasOf right) ∧
        ((x = first ∧ y = second) ∨ (y = first ∧ x = second)) := by
  simp only [sortOperands, bind_eq_ok_iff]
  constructor
  · rintro ⟨xSide, xFound, ySide, yFound, sorted⟩
    cases xSide with
    | first =>
      cases ySide with
      | first => cases sorted
      | second =>
        cases sorted
        exact ⟨⟨operandSide_eq_first_iff.1 xFound, (operandSide_eq_second_iff distinct).1 yFound⟩,
          .inl ⟨rfl, rfl⟩⟩
    | second =>
      cases ySide with
      | first =>
        cases sorted
        exact ⟨⟨operandSide_eq_first_iff.1 yFound, (operandSide_eq_second_iff distinct).1 xFound⟩,
          .inr ⟨rfl, rfl⟩⟩
      | second => cases sorted
  · rintro ⟨⟨own, other⟩, ⟨rfl, rfl⟩ | ⟨rfl, rfl⟩⟩
    · exact ⟨_, operandSide_eq_first_iff.2 own, _, (operandSide_eq_second_iff distinct).2 other, rfl⟩
    · exact ⟨_, (operandSide_eq_second_iff distinct).2 other, _, operandSide_eq_first_iff.2 own, rfl⟩

/-- A condition has operands exactly if it equates columns that name fields of the two relations. -/
theorem conditionOperands_eq_ok_iff {left right : TableRef}
    (distinct : aliasOf left ≠ aliasOf right) {condition : Option Expr} {first second : Operand} :
    conditionOperands left right condition = .ok (first, second) ↔
      (first.aliasName = aliasOf left ∧ second.aliasName = aliasOf right) ∧
        ∃ x y, condition = some (.binary .eq (.column x) (.column y)) ∧
          NameFields left right x y first.field second.field := by
  simp only [conditionOperands, bind_eq_ok_iff, mapError_eq_ok_iff, columnOperand_eq_ok_iff,
    sortOperands_eq_ok_iff distinct, Prod.exists, equatedColumns_eq_ok_iff]
  constructor
  · rintro ⟨x, y, equated, xOperand, xFound, yOperand, yFound, sides, order⟩
    refine ⟨sides, x, y, equated, ?_⟩
    obtain ⟨rfl, rfl⟩ | ⟨rfl, rfl⟩ := order
    · exact .inl ⟨by rw [xFound, ← sides.1], by rw [yFound, ← sides.2]⟩
    · exact .inr ⟨by rw [yFound, ← sides.1], by rw [xFound, ← sides.2]⟩
  · rintro ⟨⟨own, other⟩, x, y, equated, named⟩
    have firstEq : first = ⟨aliasOf left, first.field⟩ := by rw [← own]
    have secondEq : second = ⟨aliasOf right, second.field⟩ := by rw [← other]
    obtain ⟨xFound, yFound⟩ | ⟨yFound, xFound⟩ := named
    · exact ⟨x, y, equated, _, xFound, _, yFound, ⟨own, other⟩, .inl ⟨firstEq.symm, secondEq.symm⟩⟩
    · exact ⟨x, y, equated, _, xFound, _, yFound, ⟨own, other⟩, .inr ⟨firstEq.symm, secondEq.symm⟩⟩

end Parts

/-! ### Verdicts and plans -/

section Plans

variable {query : Config.QuerySettings} {s : Select} {scheme : Scheme} {d : Descriptor}

/-- The plan of a grouped relation, with the names that are free. -/
theorem planned_grouped (projection : List SelectItem) {t : TableRef} {column : ColumnRef}
    {field : String} (named : NamesField t column field) :
    Planned query ⟨projection, .relation t, none, some [.column column], []⟩
      ((Scheme.grouped t field).descriptor query) :=
  .grouped projection t column field _ _ named
    (Arena.uniqueName_free ⟨[Scheme.factOf t]⟩ field)
    (Arena.uniqueName_free (Arena.declareUnique ⟨[Scheme.factOf t]⟩ field .groupKey) countName)

/-- **A query with a scheme has the plan of the scheme.** -/
theorem planned_of_verdict (accepted : verdict s = .ok scheme) :
    Planned query s (scheme.descriptor query) := by
  obtain ⟨projection, source, selection, groupBy, orderBy⟩ := s
  unfold verdict at accepted
  dsimp only at accepted
  cases selection with
  | some condition => cases accepted
  | none =>
  cases orderBy with
  | cons item rest => cases accepted
  | nil =>
  cases source with
  | subquery => cases accepted
  | relation t =>
    cases groupBy with
    | none =>
      cases accepted
      exact .relation projection t
    | some keys =>
      have grouped : groupVerdict t keys = .ok scheme := accepted
      simp only [groupVerdict, bind_eq_ok_iff, mapError_eq_ok_iff, groupColumn_eq_ok_iff,
        keyField_eq_ok_iff] at grouped
      obtain ⟨column, rfl, field, named, made⟩ := grouped
      cases made
      exact planned_grouped projection named
  | join kind left right condition =>
    cases groupBy with
    | some keys => cases accepted
    | none =>
      simp only [Option.isSome, Bool.false_eq_true, if_false, List.isEmpty, if_true, bind_eq_ok_iff,
        mapError_eq_ok_iff, Prod.exists, joinedRelations_eq_ok_iff] at accepted
      obtain ⟨l, r, ⟨rfl, rfl, rfl⟩, accepted⟩ := accepted
      unfold pairVerdict at accepted
      by_cases same : aliasOf l = aliasOf r
      · rw [dif_pos same] at accepted
        cases accepted
      · simp only [dif_neg same, bind_eq_ok_iff, Prod.exists, conditionOperands_eq_ok_iff same]
          at accepted
        obtain ⟨first, second, ⟨_, x, y, rfl, named⟩, made⟩ := accepted
        cases made
        exact .joined projection l r x y _ _ same named

/-- **A query with a plan has a scheme for it.** -/
theorem verdict_of_planned (planned : Planned query s d) :
    ∃ scheme, verdict s = .ok scheme ∧ scheme.descriptor query = d := by
  cases planned with
  | relation projection t => exact ⟨.single t, rfl, rfl⟩
  | grouped projection t column field key count named keyFree countFree =>
    refine ⟨.grouped t field, ?_, ?_⟩
    · show groupVerdict t [.column column] = _
      simp only [groupVerdict, bind_eq_ok_iff, mapError_eq_ok_iff, groupColumn_eq_ok_iff,
        keyField_eq_ok_iff]
      exact ⟨column, rfl, field, named, rfl⟩
    · have sameKey := keyFree.unique (Arena.uniqueName_free ⟨[Scheme.factOf t]⟩ field)
      subst sameKey
      have sameCount := countFree.unique
        (Arena.uniqueName_free (Arena.declareUnique ⟨[Scheme.factOf t]⟩ field .groupKey) countName)
      subst sameCount
      rfl
  | joined projection left right x y leftField rightField distinct named =>
    refine ⟨.joined left right distinct leftField rightField, ?_, rfl⟩
    show pairVerdict left right _ = _
    unfold pairVerdict
    simp only [dif_neg distinct, bind_eq_ok_iff, Prod.exists, conditionOperands_eq_ok_iff distinct]
    exact ⟨⟨aliasOf left, leftField⟩, ⟨aliasOf right, rightField⟩,
      ⟨⟨rfl, rfl⟩, x, y, rfl, named⟩, rfl⟩

end Plans

/-- **A session gives a plan for a query exactly if it is the plan of the query**, whatever calls it
has answered before. -/
theorem plan_eq_ok_iff_planned (settings : Config.Settings) (calls : List Call) (s : Select)
    (d : Descriptor) :
    (((Session.new settings).afterCalls calls).plan s).result = .ok d ↔
      Planned settings.query s d := by
  rw [plan_afterCalls]
  constructor
  · intro given
    cases outcome : verdict s with
    | error error =>
      rw [outcome] at given
      cases given
    | ok scheme =>
      rw [outcome] at given
      cases given
      exact planned_of_verdict outcome
  · intro planned
    obtain ⟨scheme, outcome, rfl⟩ := verdict_of_planned planned
    rw [outcome]
    rfl

end RuleQuery.Planner
