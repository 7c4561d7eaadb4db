import RuleQuery.Proofs.Planner.Verdict

/-!
**The planner reaches the verdict.**

`Ends` compares a step of planning with what is expected of it: the step ends with the expected error,
or with a value and a scope that meet a condition. It goes along with the sequence of steps
(`Ends.bind`), so that each step is followed once:

* `bindRelation_ends`: a relation whose alias is free enters the scope;
* `aggregate_ends` and `attachJoin_ends`: groups and joins need only the aliases of the scope;
* `body_ends`: **the body of a query is that of its scheme**, and the variables and the registry of
  the scope are those of the scheme;
* `assemble_ends`: so is the plan, because the plan of a scheme is valid.
-/

namespace RuleQuery.Planner

open Plan Sql

/-! ### Comparison of steps -/

/-- **A step of planning ends as expected.** -/
inductive Ends {α β : Type} (final : β → α → Scope → Prop) :
    EStateM.Result Error Scope α → Except Error β → Prop where
  /-- A value is expected, and the step gives one that fits. -/
  | value {a : α} {b : β} {scope : Scope} (holds : final b a scope) :
      Ends final (.ok a scope) (.ok b)
  /-- The expected error. -/
  | failure {error : Error} {scope : Scope} : Ends final (.error error scope) (.error error)

/-- The step gives the expected value and leaves the scope alone. -/
def Reads {α : Type} (scope : Scope) (expected given : α) (after : Scope) : Prop :=
  expected = given ∧ scope = after

namespace Ends

variable {α β γ δ : Type} {scope : Scope}

/-- **Steps in sequence.** -/
theorem bind {x : Planning α} {f : α → Planning γ} {expected : Except Error β}
    {next : β → Except Error δ} {middle : β → α → Scope → Prop} {final : δ → γ → Scope → Prop}
    (first : Ends middle (x.run scope) expected)
    (second : ∀ b a after, middle b a after → Ends final ((f a).run after) (next b)) :
    Ends final ((x >>= f).run scope) (expected >>= next) := by
  rw [EStateM.run_bind]
  generalize x.run scope = result at first
  cases first with
  | value holds => exact second _ _ _ holds
  | failure => exact .failure

/-- A step after a value that is known. -/
theorem after_ok {fault : Type} {cause : fault → Error} {b : β} {next : β → Except Error δ}
    {result : EStateM.Result Error Scope γ} {final : δ → γ → Scope → Prop}
    (ends : Ends final result (next b)) :
    Ends final result ((Except.ok b : Except fault β).mapError cause >>= next) :=
  ends

end Ends

/-! ### Steps that change the scope -/

theorem report_run (scope : Scope) (event : Event) :
    (report event).run scope = .ok () (scope.report event) := rfl

theorem declareUnique_run (scope : Scope) (base : String) (kind : VariableKind) :
    (declareUnique base kind).run scope =
      .ok scope.arena.nextId { scope with arena := scope.arena.declareUnique base kind } := rfl

/-! ### Relations -/

/-- The scope after a relation has been bound. -/
def Scope.enter (scope : Scope) (t : TableRef) : Scope :=
  ((scope.useTable (tableOf t)).bindAlias (aliasOf t) (tableOf t)).report
    (.patternCreated (aliasOf t) (tableOf t) scope.arena.nextId)

namespace Scope

variable {scope : Scope} {t : TableRef}

@[simp]
theorem enter_aliases :
    (scope.enter t).aliases =
      scope.aliases ++ [(aliasOf t, ⟨tableOf t, scope.arena.nextId⟩)] := rfl

/-- The variable of a relation has the name of its table as its prototype. -/
theorem enter_arena (faithful : scope.registry.Faithful) :
    (scope.enter t).arena = ⟨scope.arena.toList ++ [Scheme.factOf t]⟩ := by
  have prototype := (faithful.ensure (tableOf t)).prototype_eq (tableOf t)
  show scope.arena.declare (aliasOf t)
    (.fact ((scope.registry.ensure (tableOf t)).prototype (tableOf t)).name) = _
  rw [prototype]
  rfl

end Scope

/-- A relation whose alias is free gets its pattern. -/
theorem bindRelation_ends {scope : Scope} {t : TableRef}
    (free : scope.binding? (aliasOf t) = none) :
    (bindRelation t).run scope =
      .ok (Pattern.ofTable scope.arena.nextId (tableOf t)) (scope.enter t) := by
  unfold bindRelation
  rw [EStateM.run_bind, EStateM.run_get]
  simp only [free]
  rfl

/-- A relation whose alias is bound is an error. -/
theorem bindRelation_fails {scope : Scope} {t : TableRef} {existing : Binding}
    (taken : scope.binding? (aliasOf t) = some existing) :
    (bindRelation t).run scope =
      .error (.duplicateAlias (aliasOf t) existing.table (tableOf t)) scope := by
  unfold bindRelation
  rw [EStateM.run_bind, EStateM.run_get]
  simp only [taken]
  rfl

/-! ### Operands -/

theorem operandOf_ends (scope : Scope) (column : ColumnRef) :
    Ends (Reads scope) ((operandOf column).run scope) (columnOperand column) := by
  unfold operandOf columnOperand
  cases Operand.ofText? column.text with
  | none => exact .failure
  | some operand => exact .value ⟨rfl, rfl⟩

theorem bindingOf?_run (scope : Scope) (aliasName : String) :
    (bindingOf? aliasName).run scope = .ok (scope.binding? aliasName) scope := rfl

/-! ### Groups -/

section Groups

variable {scope : Scope} {t : TableRef}

theorem binding?_single {id : VarId} (known : scope.aliases = [(aliasOf t, ⟨tableOf t, id⟩)])
    (aliasName : String) :
    scope.binding? aliasName = if aliasName = aliasOf t then some ⟨tableOf t, id⟩ else none := by
  unfold Scope.binding?
  rw [known, List.lookup_cons]
  split <;> simp_all

/-- The field of a key depends on the only alias in scope. -/
theorem groupField_ends (known : scope.aliases = [(aliasOf t, ⟨tableOf t, ⟨0⟩⟩)])
    (column : ColumnRef) :
    Ends (Reads scope) ((groupField (.ofTable ⟨0⟩ (tableOf t)) column).run scope)
      (keyField t column) := by
  unfold groupField keyField
  cases column.qualifier with
  | none => exact .value ⟨rfl, rfl⟩
  | some qualifier =>
    dsimp only
    refine Ends.bind (operandOf_ends scope column) ?_
    rintro operand _ _ ⟨rfl, rfl⟩
    rw [EStateM.run_bind, bindingOf?_run, binding?_single known]
    by_cases own : operand.aliasName = aliasOf t
    · rw [if_pos own, if_pos own]
      exact .value ⟨rfl, rfl⟩
    · rw [if_neg own, if_neg own]
      exact .failure

/-- **The aggregation of a relation** has the variables of its scheme. -/
theorem aggregate_ends (known : scope.aliases = [(aliasOf t, ⟨tableOf t, ⟨0⟩⟩)])
    (declared : scope.arena = ⟨[Scheme.factOf t]⟩) (column : ColumnRef) :
    Ends (fun scheme a after =>
        scheme.body = [.aggregation a] ∧ after.arena = scheme.arena ∧
          after.registry = scope.registry ∧ scheme.tables = [tableOf t])
      ((aggregate (.ofTable ⟨0⟩ (tableOf t)) column).run scope)
      (do return Scheme.grouped t (← keyField t column)) := by
  unfold aggregate
  refine Ends.bind (groupField_ends known column) ?_
  rintro field _ _ ⟨rfl, rfl⟩
  simp only [EStateM.run_bind, declareUnique_run, report_run, declared]
  exact .value ⟨rfl, rfl, rfl, rfl⟩

end Groups

/-! ### Joins -/

section Joins

variable {scope : Scope} {left right : TableRef}

/-- The aliases of two relations. -/
def pairAliases (left right : TableRef) : List (String × Binding) :=
  [(aliasOf left, ⟨tableOf left, ⟨0⟩⟩), (aliasOf right, ⟨tableOf right, ⟨1⟩⟩)]

theorem binding?_pair (known : scope.aliases = pairAliases left right) (aliasName : String) :
    scope.binding? aliasName =
      if aliasName = aliasOf left then some ⟨tableOf left, ⟨0⟩⟩
      else if aliasName = aliasOf right then some ⟨tableOf right, ⟨1⟩⟩ else none := by
  unfold Scope.binding?
  rw [known, pairAliases, List.lookup_cons, List.lookup_cons]
  split <;> split <;> simp_all

/-- **The side of an operand** is found by the variable of its alias, and so by the alias. -/
theorem sideOf_ends (known : scope.aliases = pairAliases left right) (operand : Operand) :
    Ends (Reads scope)
      ((sideOf (.ofTable ⟨0⟩ (tableOf left)) (.ofTable ⟨1⟩ (tableOf right)) operand).run scope)
      (operandSide left right operand) := by
  unfold sideOf operandSide
  rw [EStateM.run_bind, bindingOf?_run, binding?_pair known]
  by_cases first : operand.aliasName = aliasOf left
  · rw [if_pos first, if_pos first]
    exact .value ⟨rfl, rfl⟩
  · rw [if_neg first, if_neg first]
    by_cases second : operand.aliasName = aliasOf right
    · rw [if_pos second, if_pos second]
      exact .value ⟨rfl, rfl⟩
    · rw [if_neg second, if_neg second]
      exact .failure

/-- The scope after a step that only reports. -/
def Unchanged (scope after : Scope) : Prop :=
  after.arena = scope.arena ∧ after.registry = scope.registry

theorem orderOperands_ends (known : scope.aliases = pairAliases left right) (x y : Operand) :
    Ends (fun sorted given after => sorted = given ∧ Unchanged scope after)
      ((orderOperands (.ofTable ⟨0⟩ (tableOf left)) (.ofTable ⟨1⟩ (tableOf right)) x y).run scope)
      (sortOperands left right x y) := by
  unfold orderOperands sortOperands
  refine Ends.bind (sideOf_ends known x) ?_
  rintro xSide _ _ ⟨rfl, rfl⟩
  refine Ends.bind (sideOf_ends known y) ?_
  rintro ySide _ _ ⟨rfl, rfl⟩
  cases xSide with
  | first =>
    cases ySide with
    | first => exact .failure
    | second => exact .value ⟨rfl, rfl, rfl⟩
  | second =>
    cases ySide with
    | first =>
      simp only [EStateM.run_bind, report_run]
      exact .value ⟨rfl, rfl, rfl⟩
    | second => exact .failure

/-- **The join of the second pattern** compares the fields that the condition names. -/
theorem attachJoin_ends (known : scope.aliases = pairAliases left right) (condition : Option Expr) :
    Ends (fun (first, second) p after =>
        p = (Pattern.ofTable ⟨1⟩ (tableOf right)).addConstraint
            (.join ⟨second.field, .equal, ⟨0⟩, first.field⟩) ∧ Unchanged scope after)
      ((attachJoin (.ofTable ⟨0⟩ (tableOf left)) (.ofTable ⟨1⟩ (tableOf right)) condition).run scope)
      (conditionOperands left right condition) := by
  unfold attachJoin conditionOperands
  cases equatedColumns condition with
  | error fault => exact .failure
  | ok columns =>
    obtain ⟨xColumn, yColumn⟩ := columns
    dsimp only
    refine Ends.after_ok (Ends.bind (operandOf_ends scope xColumn) ?_)
    rintro x _ _ ⟨rfl, rfl⟩
    refine Ends.bind (operandOf_ends scope yColumn) ?_
    rintro y _ _ ⟨rfl, rfl⟩
    rw [← bind_pure (sortOperands left right x y)]
    refine Ends.bind (orderOperands_ends known x y) ?_
    rintro ⟨first, second⟩ _ after ⟨rfl, same⟩
    simp only [EStateM.run_bind, report_run]
    exact .value ⟨rfl, same⟩

end Joins

/-! ### Whole queries -/

/-- **A scope in which a query begins.** -/
structure Scope.Fresh (scope : Scope) : Prop where
  /-- No alias is bound. -/
  aliases : scope.aliases = []
  /-- No variable is declared. -/
  arena : scope.arena = .empty
  /-- The prototypes are those of their tables. -/
  faithful : scope.registry.Faithful

/-- The items and the scope after them are those of a scheme. -/
structure Realised (scope : Scope) (scheme : Scheme) (items : List BodyItem) (after : Scope) :
    Prop where
  items : items = scheme.body
  arena : after.arena = scheme.arena
  registry : after.registry = scheme.tables.foldl Registry.ensure scope.registry

section Queries

variable {scope : Scope}

/-- The first relation of a query always enters, with the first variable. -/
theorem bindRelation_first (fresh : scope.Fresh) (t : TableRef) :
    (bindRelation t).run scope = .ok (.ofTable ⟨0⟩ (tableOf t)) (scope.enter t) ∧
      (scope.enter t).aliases = [(aliasOf t, ⟨tableOf t, ⟨0⟩⟩)] ∧
      (scope.enter t).arena = ⟨[Scheme.factOf t]⟩ := by
  have free : scope.binding? (aliasOf t) = none := by
    unfold Scope.binding?
    rw [fresh.aliases]
    rfl
  have first : scope.arena.nextId = ⟨0⟩ := by
    rw [fresh.arena]
    rfl
  refine ⟨?_, ?_, ?_⟩
  · rw [bindRelation_ends free, first]
  · rw [Scope.enter_aliases, fresh.aliases, first]
    rfl
  · rw [Scope.enter_arena fresh.faithful, fresh.arena]
    rfl

/-- **One relation**, with keys or without. -/
theorem relationBody_ends (fresh : scope.Fresh) (t : TableRef) (groupBy : Option (List Expr)) :
    Ends (Realised scope) ((relationBody t groupBy).run scope)
      (match groupBy with
        | none => .ok (.single t)
        | some keys => groupVerdict t keys) := by
  obtain ⟨bound, known, declared⟩ := bindRelation_first fresh t
  unfold relationBody
  rw [EStateM.run_bind, bound]
  cases groupBy with
  | none => exact .value ⟨rfl, declared, rfl⟩
  | some keys =>
    simp only [groupVerdict]
    cases groupColumn keys with
    | error fault => exact .failure
    | ok column =>
      refine Ends.after_ok ?_
      rw [← bind_pure (keyField t column >>= fun field => pure (Scheme.grouped t field))]
      refine Ends.bind (aggregate_ends known declared column) ?_
      rintro scheme a after ⟨items, arena, registry, tables⟩
      refine .value ⟨items.symm, arena, ?_⟩
      rw [registry, tables]
      rfl

/-- **Two relations under a condition.** -/
theorem joinBody_ends (fresh : scope.Fresh) (kind : JoinKind) (left right : Source)
    (condition : Option Expr) :
    Ends (Realised scope) ((joinBody kind left right condition).run scope)
      (do
        let (l, r) ← (joinedRelations kind left right).mapError .queryShape
        pairVerdict l r condition) := by
  unfold joinBody
  cases joinedRelations kind left right with
  | error fault => exact .failure
  | ok relations =>
    obtain ⟨l, r⟩ := relations
    obtain ⟨bound, known, declared⟩ := bindRelation_first fresh l
    refine Ends.after_ok ?_
    simp only [EStateM.run_bind, bound, pairVerdict]
    by_cases same : aliasOf l = aliasOf r
    · have taken : (scope.enter l).binding? (aliasOf r) = some ⟨tableOf l, ⟨0⟩⟩ := by
        rw [binding?_single known, if_pos same.symm]
      rw [dif_pos same, bindRelation_fails taken]
      exact .failure
    · have free : (scope.enter l).binding? (aliasOf r) = none := by
        rw [binding?_single known, if_neg (Ne.symm same)]
      have next : (scope.enter l).arena.nextId = ⟨1⟩ := by
        rw [declared]
        rfl
      have pair : ((scope.enter l).enter r).aliases = pairAliases l r := by
        rw [Scope.enter_aliases, known, next]
        rfl
      have arena : ((scope.enter l).enter r).arena = ⟨[Scheme.factOf l, Scheme.factOf r]⟩ := by
        rw [Scope.enter_arena (fresh.faithful.ensure (tableOf l)), declared]
        rfl
      rw [dif_neg same, bindRelation_ends free, next]
      refine Ends.bind (attachJoin_ends pair condition) ?_
      rintro ⟨first, second⟩ p after ⟨rfl, sameArena, sameRegistry⟩
      exact .value ⟨rfl, sameArena.trans arena, sameRegistry⟩

/-- **The body of a query is that of its scheme.** -/
theorem body_ends (fresh : scope.Fresh) (s : Select) :
    Ends (Realised scope) ((body s).run scope) (verdict s) := by
  unfold body verdict
  by_cases selected : s.selection.isSome = true
  · rw [if_pos selected, if_pos selected]
    exact .failure
  · rw [if_neg selected, if_neg selected]
    by_cases unordered : s.orderBy.isEmpty = true
    · rw [if_pos unordered, if_pos unordered]
      cases s.source with
      | relation t => exact relationBody_ends fresh t s.groupBy
      | join kind left right condition =>
        by_cases grouped : s.groupBy.isSome = true
        · simp only [if_pos grouped]
          exact .failure
        · simp only [if_neg grouped]
          exact joinBody_ends fresh kind left right condition
      | subquery => exact .failure
    · rw [if_neg unordered, if_neg unordered]
      exact .failure

theorem foldl_ensure_package (tables : List String) (r : Registry) :
    (tables.foldl Registry.ensure r).package = r.package := by
  induction tables generalizing r with
  | nil => rfl
  | cons table rest ih => rw [List.foldl_cons, ih, Registry.ensure_package]

/-- **The plan of a query is that of its scheme**, whatever aliases and variables the scope has. The
last check always passes. -/
theorem assemble_ends (faithful : scope.registry.Faithful) (query : Config.QuerySettings)
    (package : scope.registry.package = query.package) (s : Select) :
    Ends (fun scheme d after =>
        d = scheme.descriptor query ∧
          after.registry = scheme.tables.foldl Registry.ensure scope.registry)
      ((assemble query.name s).run scope) (verdict s) := by
  have fresh : scope.clear.Fresh := ⟨rfl, rfl, faithful⟩
  have cleared : scope.clear.registry.package = query.package := package
  unfold assemble
  rw [EStateM.run_bind, EStateM.run_modify, ← bind_pure (verdict s)]
  refine Ends.bind (body_ends fresh s) ?_
  rintro scheme items after ⟨rfl, arena, registry⟩
  have same : (⟨query.name, after.registry.package, after.arena, scheme.body⟩ : Descriptor) =
      scheme.descriptor query := by
    rw [registry, foldl_ensure_package, cleared, arena]
    rfl
  rw [EStateM.run_bind, EStateM.run_get]
  simp only [same, scheme.descriptor_valid query, EStateM.run_bind, EStateM.run_set, report_run]
  exact .value ⟨rfl, registry⟩

end Queries

end RuleQuery.Planner
