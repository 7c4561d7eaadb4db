import RuleQuery.Proofs.Planner.Planned

/-!
**Queries that are out of reach.**

* `NonGoal`: a condition on the rows, an ordering, a subquery, a join in a join, a join that is not an
  inner one or has another condition than the equality of two columns, more than one key. What a source
  has counts at any depth (`PartOf`).
* `Planned.not_nonGoal`: no query with a plan has any of these, so a session refuses them all.
* `verdict_projection`: the projection is the one part of a query that no check looks at.
* `plan_refuses_nonGoals`: **a session refuses every query out of reach, and its answer does not depend
  on the projection.** So `sum_planned_as_count`: a sum over groups gets the plan of a count.
-/

namespace RuleQuery.Planner

open Plan Sql

/-! ### The parts of a source -/

/-- A source is a part of another, at any depth. -/
inductive PartOf (part : Source) : Source → Prop where
  | whole : PartOf part part
  | left {kind : JoinKind} {left right : Source} {condition : Option Expr} (inside : PartOf part left) :
      PartOf part (.join kind left right condition)
  | right {kind : JoinKind} {left right : Source} {condition : Option Expr}
      (inside : PartOf part right) : PartOf part (.join kind left right condition)
  | subquery {projection : List SelectItem} {source : Source} {selection : Option Expr}
      {groupBy : Option (List Expr)} {orderBy : List OrderItem} {aliasName : String}
      (inside : PartOf part source) :
      PartOf part (.subquery projection source selection groupBy orderBy aliasName)

/-- **A source within reach**: a relation, or an inner join of two relations on the equality of two
columns. -/
inductive WithinReach : Source → Prop where
  | relation (t : TableRef) : WithinReach (.relation t)
  | join (left right : TableRef) (x y : ColumnRef) :
      WithinReach (.join .inner (.relation left) (.relation right)
        (some (.binary .eq (.column x) (.column y))))

/-- Every part of a source within reach is within reach. -/
theorem WithinReach.part {part source : Source} (within : WithinReach source)
    (inside : PartOf part source) : WithinReach part := by
  cases within with
  | relation t =>
    cases inside
    exact .relation t
  | join left right x y =>
    cases inside with
    | whole => exact .join left right x y
    | left inside =>
      cases inside
      exact .relation left
    | right inside =>
      cases inside
      exact .relation right

/-! ### Queries out of reach -/

/-- **The query has something that is out of reach.** -/
inductive NonGoal (s : Select) : Prop where
  /-- A condition on the rows. -/
  | selection (given : s.selection.isSome)
  /-- An ordering. -/
  | ordering (given : s.orderBy ≠ [])
  /-- A subquery. -/
  | subquery {part : Source} (inside : PartOf part s.source) (shape : part.shape = .subquery)
  /-- A join in a join. -/
  | nestedJoin {kind : JoinKind} {left right : Source} {condition : Option Expr}
      (inside : PartOf (.join kind left right condition) s.source)
      (nested : left.shape = .join ∨ right.shape = .join)
  /-- A join that is not an inner one. -/
  | joinKind {kind : JoinKind} {left right : Source} {condition : Option Expr}
      (inside : PartOf (.join kind left right condition) s.source) (other : kind ≠ .inner)
  /-- A join without a condition, or on something else than the equality of two columns. -/
  | joinCondition {kind : JoinKind} {left right : Source} {condition : Option Expr}
      (inside : PartOf (.join kind left right condition) s.source)
      (other : ∀ x y, condition ≠ some (.binary .eq (.column x) (.column y)))
  /-- More than one key to group by. -/
  | keys {keys : List Expr} (given : s.groupBy = some keys) (many : 1 < keys.length)

/-- A query with a source within reach and at most one key, without other clauses, is not out of
reach. -/
theorem not_nonGoal_of_withinReach {projection : List SelectItem} {source : Source}
    {groupBy : Option (List Expr)} (within : WithinReach source)
    (single : ∀ keys ∈ groupBy, keys.length ≤ 1) :
    ¬ NonGoal ⟨projection, source, none, groupBy, []⟩ := by
  intro beyond
  cases beyond with
  | selection given => cases given
  | ordering given => exact given rfl
  | subquery inside shape =>
    cases within.part inside with
    | relation => cases shape
    | join => cases shape
  | nestedJoin inside nested =>
    cases within.part inside with
    | join => rcases nested with shape | shape <;> cases shape
  | joinKind inside other =>
    cases within.part inside with
    | join => exact other rfl
  | joinCondition inside other =>
    cases within.part inside with
    | join _ _ x y => exact other x y rfl
  | keys given many => exact absurd many (Nat.not_lt.2 (single _ given))

/-- **No query with a plan is out of reach.** -/
theorem Planned.not_nonGoal {query : Config.QuerySettings} {s : Select} {d : Descriptor}
    (planned : Planned query s d) : ¬ NonGoal s := by
  cases planned with
  | relation projection t => exact not_nonGoal_of_withinReach (.relation t) nofun
  | grouped projection t column =>
    refine not_nonGoal_of_withinReach (.relation t) ?_
    rintro keys ⟨⟩
    exact Nat.le_refl 1
  | joined projection left right x y => exact not_nonGoal_of_withinReach (.join left right x y) nofun

/-! ### Projections -/

/-- **No check looks at the projection.** -/
theorem verdict_projection (s : Select) (projection : List SelectItem) :
    verdict { s with projection := projection } = verdict s :=
  rfl

/-- **A session refuses every query out of reach**, whatever calls came before. Its answer does not
depend on the projection. -/
theorem plan_refuses_nonGoals (settings : Config.Settings) (calls : List Call) (s : Select) :
    (NonGoal s → ∃ e, (((Session.new settings).afterCalls calls).plan s).result = .error e) ∧
      ∀ projection,
        (((Session.new settings).afterCalls calls).plan { s with projection := projection }).result =
          (((Session.new settings).afterCalls calls).plan s).result := by
  rw [plan_afterCalls]
  constructor
  · intro beyond
    cases outcome : verdict s with
    | error e => exact ⟨e, rfl⟩
    | ok scheme =>
      have planned : Planned settings.query s _ := planned_of_verdict outcome
      exact absurd beyond planned.not_nonGoal
  · intro projection
    rw [plan_afterCalls, verdict_projection]

/-- The name of the function that an item of a projection calls, with an alias or without one. -/
def calledName? : SelectItem → Option String
  | .expr (.call name _) | .aliased (.call name _) _ => some name
  | _ => none

/-- An item of the projection calls a function over groups that is not the count, in any letter
case. -/
def CallsOtherAggregate (s : Select) : Prop :=
  ∃ item ∈ s.projection, ∃ name ∈ calledName? item,
    name.toLower ∈ ["sum", "avg", "min", "max"]

/-- The orders with the sum of their amounts by status. -/
def summedOrders : Select :=
  ⟨[.expr (.column ⟨none, "status"⟩), .expr (.call "SUM" [.column ⟨none, "amount"⟩])],
    .relation ⟨"orders", none⟩, none, some [.column ⟨none, "status"⟩], []⟩

/-- **A sum over groups gets the plan of a count**, so that not every function over groups other than
the count is refused. -/
theorem sum_planned_as_count :
    CallsOtherAggregate summedOrders ∧
    ((Session.new .default).plan summedOrders).result =
      .ok ⟨"Q0", "sqlrule.materialized",
        ⟨[⟨"orders", .fact "orders"⟩, ⟨"status", .groupKey⟩, ⟨"count", .accumulate⟩]⟩,
        [.aggregation ⟨.ofTable ⟨0⟩ "orders", "status", ⟨1⟩, .count, ⟨2⟩⟩]⟩ ∧
    ¬ ∀ (settings : Config.Settings) (calls : List Call) (s : Select),
      NonGoal s ∨ CallsOtherAggregate s →
        ∃ e, (((Session.new settings).afterCalls calls).plan s).result = .error e := by
  have calls : CallsOtherAggregate summedOrders :=
    ⟨.expr (.call "SUM" [.column ⟨none, "amount"⟩]), by simp [summedOrders], "SUM", rfl,
      by decide +kernel⟩
  have planned : (((Session.new .default).afterCalls []).plan summedOrders).result =
      .ok (Scheme.descriptor .default (.grouped ⟨"orders", none⟩ (Text.lowercase "status"))) :=
    plan_afterCalls ..
  have plan : Scheme.descriptor .default (.grouped ⟨"orders", none⟩ (Text.lowercase "status")) =
      ⟨"Q0", "sqlrule.materialized",
        ⟨[⟨"orders", .fact "orders"⟩, ⟨"status", .groupKey⟩, ⟨"count", .accumulate⟩]⟩,
        [.aggregation ⟨.ofTable ⟨0⟩ "orders", "status", ⟨1⟩, .count, ⟨2⟩⟩]⟩ := by
    decide +kernel
  refine ⟨calls, planned.trans (congrArg _ plan), fun refused => ?_⟩
  obtain ⟨e, failed⟩ := refused .default [] summedOrders (.inr calls)
  rw [planned] at failed
  cases failed

end RuleQuery.Planner
