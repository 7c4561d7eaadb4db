import RuleQuery.Proofs.Planner.Planned

/-!
**Why a query has no plan.**

* `Obstacle`: what may stand in the way of a plan, said of the query alone, with the kind of error;
  `obstacles` lists all of them in their order.
* `FirstObstacle`: the first one of a list that stands in the way of a query.
* `plan_fails_iff_firstObstacle`: **a session refuses a query exactly if an obstacle stands in its
  way, with the kind of the first one**. So the last check of a plan never fails.
-/

namespace RuleQuery.Planner

open Plan Sql

/-- What may stand in the way of a plan. -/
structure Obstacle where
  /-- It stands in the way of the query. -/
  stands : Select → Prop
  /-- The kind of error that it causes. -/
  kind : ErrorKind

namespace Obstacle

/-! ### Obstacles of the form -/

/-- There is a condition on the rows. -/
def selection : Obstacle where
  stands s := s.selection.isSome
  kind := .queryShape

/-- There is an ordering. -/
def ordering : Obstacle where
  stands s := s.orderBy ≠ []
  kind := .queryShape

/-- The source is a subquery, or a join with a list of keys, even an empty one. -/
def source : Obstacle where
  stands s := s.source.shape = .subquery ∨ (s.source.shape = .join ∧ s.groupBy.isSome)
  kind := .queryShape

/-- The join is not an inner one, or a side of it is not a relation. -/
def join : Obstacle where
  stands s := ∃ kind left right condition, s.source = .join kind left right condition ∧
    (kind ≠ .inner ∨ left.shape ≠ .relation ∨ right.shape ≠ .relation)
  kind := .queryShape

/-! ### Obstacles of a join -/

/-- The two relations have one alias. -/
def sharedAlias : Obstacle where
  stands s := ∃ kind left right condition,
    s.source = .join kind (.relation left) (.relation right) condition ∧
      aliasOf left = aliasOf right
  kind := .duplicateAlias

/-- The query joins two relations where two columns are equal. -/
def Equates (s : Select) (left right : TableRef) (x y : ColumnRef) : Prop :=
  ∃ kind, s.source = .join kind (.relation left) (.relation right)
    (some (.binary .eq (.column x) (.column y)))

/-- There is no condition, or it is not an equality of two columns. -/
def condition : Obstacle where
  stands s := ∃ kind left right condition, s.source = .join kind left right condition ∧
    ∀ x y, condition ≠ some (.binary .eq (.column x) (.column y))
  kind := .joinCondition

/-- One of the two columns does not have the form of an operand. -/
def malformedOperand : Obstacle where
  stands s := ∃ left right x y, Equates s left right x y ∧
    (Operand.ofText? x.text = none ∨ Operand.ofText? y.text = none)
  kind := .malformedOperand

/-- The alias of one of the two operands belongs to neither relation. -/
def unboundOperand : Obstacle where
  stands s := ∃ left right x y operand, Equates s left right x y ∧
    (Operand.ofText? x.text = some operand ∨ Operand.ofText? y.text = some operand) ∧
      operand.aliasName ≠ aliasOf left ∧ operand.aliasName ≠ aliasOf right
  kind := .unresolvedOperand

/-- Both operands belong to one relation. -/
def oneSided : Obstacle where
  stands s := ∃ left right x y xOperand yOperand, Equates s left right x y ∧
    Operand.ofText? x.text = some xOperand ∧ Operand.ofText? y.text = some yOperand ∧
      ((xOperand.aliasName = aliasOf left ∧ yOperand.aliasName = aliasOf left) ∨
        (xOperand.aliasName = aliasOf right ∧ yOperand.aliasName = aliasOf right))
  kind := .joinCondition

/-! ### Obstacles of a group -/

/-- There is not exactly one key, or the key is not a column. -/
def keys : Obstacle where
  stands s := ∃ t keys, s.source = .relation t ∧ s.groupBy = some keys ∧
    ∀ column, keys ≠ [.column column]
  kind := .groupBy

/-- The key has an alias but not the form of an operand. -/
def malformedKey : Obstacle where
  stands s := ∃ t column, s.source = .relation t ∧ s.groupBy = some [.column column] ∧
    column.qualifier ≠ none ∧ Operand.ofText? column.text = none
  kind := .malformedOperand

/-- The key has the alias of another relation. -/
def foreignKey : Obstacle where
  stands s := ∃ t column operand, s.source = .relation t ∧ s.groupBy = some [.column column] ∧
    column.qualifier ≠ none ∧ Operand.ofText? column.text = some operand ∧
      operand.aliasName ≠ aliasOf t
  kind := .groupBy

end Obstacle

/-- **All obstacles, in the order in which they count.** -/
def obstacles : List Obstacle :=
  [.selection, .ordering, .source, .join, .sharedAlias, .condition, .malformedOperand,
    .unboundOperand, .oneSided, .keys, .malformedKey, .foreignKey]

/-- **The first obstacle of a list that stands in the way of a query** has the kind. -/
inductive FirstObstacle (s : Select) : List Obstacle → ErrorKind → Prop where
  | here {o : Obstacle} {rest : List Obstacle} (stands : o.stands s) :
      FirstObstacle s (o :: rest) o.kind
  | later {o : Obstacle} {rest : List Obstacle} {kind : ErrorKind} (absent : ¬ o.stands s)
      (first : FirstObstacle s rest kind) : FirstObstacle s (o :: rest) kind

/-! ### Verdicts by obstacles -/

/-- A verdict goes with a list of obstacles: it is a scheme if none of them stands in the way, and
else an error of the kind of the first one. -/
inductive Justified (s : Select) : List Obstacle → Except Error Scheme → Prop where
  | clear (scheme : Scheme) : Justified s [] (.ok scheme)
  | refused {o : Obstacle} {rest : List Obstacle} {error : Error} (stands : o.stands s)
      (kind : error.kind = o.kind) : Justified s (o :: rest) (.error error)
  | passed {o : Obstacle} {rest : List Obstacle} {result : Except Error Scheme}
      (absent : ¬ o.stands s) (others : Justified s rest result) : Justified s (o :: rest) result

namespace Justified

variable {s : Select} {list : List Obstacle} {error : Error} {scheme : Scheme}

theorem first (justified : Justified s list (.error error)) : FirstObstacle s list error.kind := by
  generalize given : Except.error error = result at justified
  induction justified with
  | clear scheme => cases given
  | refused stands kind =>
    cases given
    rw [kind]
    exact .here stands
  | passed absent _ ih => exact .later absent (ih given)

theorem none (justified : Justified s list (.ok scheme)) (kind : ErrorKind) :
    ¬ FirstObstacle s list kind := by
  generalize given : Except.ok scheme = result at justified
  induction justified with
  | clear _ =>
    intro first
    cases first
  | refused _ _ => cases given
  | passed absent _ ih =>
    intro first
    cases first with
    | here stands => exact absent stands
    | later _ first => exact ih given first

end Justified

theorem FirstObstacle.unique {s : Select} {list : List Obstacle} {kind other : ErrorKind}
    (first : FirstObstacle s list kind) (second : FirstObstacle s list other) : kind = other := by
  induction first with
  | here stands =>
    cases second with
    | here _ => rfl
    | later absent _ => exact absurd stands absent
  | later absent _ ih =>
    cases second with
    | here stands => exact absurd stands absent
    | later _ second => exact ih second

/-- The kind of the first obstacle is one of the list. -/
theorem FirstObstacle.mem {s : Select} {list : List Obstacle} {kind : ErrorKind}
    (first : FirstObstacle s list kind) : kind ∈ list.map Obstacle.kind := by
  induction first with
  | here _ => exact List.mem_cons_self
  | later _ _ ih => exact List.mem_cons_of_mem _ ih

/-! ### The obstacles of the kinds of sources -/

section Sources

open Obstacle

variable {projection : List SelectItem}

/-- The keys of a relation meet their obstacles in order. -/
theorem groupVerdict_justified (t : TableRef) (given : List Expr) :
    Justified ⟨projection, .relation t, none, some given, []⟩ [.keys, .malformedKey, .foreignKey]
      (groupVerdict t given) := by
  unfold groupVerdict
  cases found : groupColumn given with
  | error fault =>
    refine .refused ⟨t, given, rfl, rfl, ?_⟩ rfl
    intro column single
    rw [groupColumn_eq_ok_iff.2 single] at found
    cases found
  | ok column =>
    obtain rfl := groupColumn_eq_ok_iff.1 found
    refine .passed (by simp [keys]) ?_
    show Justified _ _ (keyField t column >>= fun field => pure (.grouped t field))
    unfold keyField
    cases qualified : column.qualifier with
    | none =>
      exact .passed (by simp [malformedKey, qualified])
        (.passed (by simp [foreignKey, qualified]) (.clear _))
    | some qualifier =>
      have own : column.qualifier ≠ none := by simp [qualified]
      dsimp only
      unfold columnOperand
      cases read : Operand.ofText? column.text with
      | none => exact .refused ⟨t, column, rfl, rfl, own, read⟩ rfl
      | some operand =>
        refine .passed (by simp [malformedKey, read]) ?_
        show Justified _ _ ((if operand.aliasName = aliasOf t then _ else _) >>= _)
        by_cases same : operand.aliasName = aliasOf t
        · rw [if_pos same]
          exact .passed (by simp [foreignKey, read, same]) (.clear _)
        · rw [if_neg same]
          exact .refused ⟨t, column, operand, rfl, rfl, own, read, same⟩ rfl

/-- The query that joins two relations under a condition. -/
def joinQuery (projection : List SelectItem) (left right : TableRef) (condition : Option Expr) :
    Select :=
  ⟨projection, .join .inner (.relation left) (.relation right) condition, none, none, []⟩

variable {left right : TableRef}

/-- A join without an obstacle of joins has none at all. -/
theorem joinQuery_clear {condition : Option Expr} (scheme : Scheme) :
    Justified (joinQuery projection left right condition) [.keys, .malformedKey, .foreignKey]
      (.ok scheme) :=
  .passed (by simp [keys, joinQuery]) (.passed (by simp [malformedKey, joinQuery])
    (.passed (by simp [foreignKey, joinQuery]) (.clear _)))

theorem operandSide_error {operand : Operand} {error : Error}
    (unbound : operandSide left right operand = .error error) :
    error = .unresolvedOperand operand.aliasName ∧ operand.aliasName ≠ aliasOf left ∧
      operand.aliasName ≠ aliasOf right := by
  unfold operandSide at unbound
  split at unbound
  · cases unbound
  · split at unbound
    · cases unbound
    · cases unbound
      exact ⟨rfl, by assumption, by assumption⟩

/-- The alias of an operand on a side. -/
theorem operandSide_ok {operand : Operand} {side : Side}
    (bound : operandSide left right operand = .ok side) :
    operand.aliasName = match side with
      | .first => aliasOf left
      | .second => aliasOf right := by
  unfold operandSide at bound
  split at bound
  · cases bound
    assumption
  · split at bound
    · cases bound
      assumption
    · cases bound

theorem operandSide_bound {operand : Operand} {side : Side}
    (bound : operandSide left right operand = .ok side) :
    operand.aliasName = aliasOf left ∨ operand.aliasName = aliasOf right := by
  cases side with
  | first => exact .inl (operandSide_ok bound)
  | second => exact .inr (operandSide_ok bound)

/-- A join equates only the columns of its condition. -/
theorem equates_joinQuery {l r : TableRef} {x y x' y' : ColumnRef}
    (equates : Equates (joinQuery projection left right
      (some (.binary .eq (.column x) (.column y)))) l r x' y') :
    left = l ∧ right = r ∧ x = x' ∧ y = y' := by
  obtain ⟨kind, same⟩ := equates
  cases same
  exact ⟨rfl, rfl, rfl, rfl⟩

/-- Operands with the aliases of the two relations do not belong to one of them. -/
theorem not_oneSided (projection : List SelectItem) (distinct : aliasOf left ≠ aliasOf right)
    {x y : ColumnRef} {xOperand yOperand : Operand} (xRead : Operand.ofText? x.text = some xOperand)
    (yRead : Operand.ofText? y.text = some yOperand)
    (apart : (xOperand.aliasName = aliasOf left ∧ yOperand.aliasName = aliasOf right) ∨
      (xOperand.aliasName = aliasOf right ∧ yOperand.aliasName = aliasOf left)) :
    ¬ oneSided.stands
      (joinQuery projection left right (some (.binary .eq (.column x) (.column y)))) := by
  rintro ⟨l, r, x', y', first, second, other, firstRead, secondRead, together⟩
  obtain ⟨rfl, rfl, rfl, rfl⟩ := equates_joinQuery other
  rw [xRead] at firstRead
  rw [yRead] at secondRead
  cases firstRead
  cases secondRead
  grind

/-- **The two operands of a join meet their obstacles in order.** -/
theorem sortOperands_justified (distinct : aliasOf left ≠ aliasOf right) {x y : ColumnRef}
    {xOperand yOperand : Operand} (xRead : Operand.ofText? x.text = some xOperand)
    (yRead : Operand.ofText? y.text = some yOperand) (finish : Operand × Operand → Scheme) :
    Justified (joinQuery projection left right (some (.binary .eq (.column x) (.column y))))
      [.unboundOperand, .oneSided, .keys, .malformedKey, .foreignKey]
      (sortOperands left right xOperand yOperand >>= fun sorted => pure (finish sorted)) := by
  have equates : Equates
      (joinQuery projection left right (some (.binary .eq (.column x) (.column y))))
      left right x y := ⟨.inner, rfl⟩
  unfold sortOperands
  cases xSide : operandSide left right xOperand with
  | error error =>
    obtain ⟨rfl, notLeft, notRight⟩ := operandSide_error xSide
    exact .refused ⟨left, right, x, y, xOperand, equates, .inl xRead, notLeft, notRight⟩ rfl
  | ok xSide' =>
  cases ySide : operandSide left right yOperand with
  | error error =>
    obtain ⟨rfl, notLeft, notRight⟩ := operandSide_error ySide
    exact .refused ⟨left, right, x, y, yOperand, equates, .inr yRead, notLeft, notRight⟩ rfl
  | ok ySide' =>
  have xAlias := operandSide_ok xSide
  have yAlias := operandSide_ok ySide
  have apart := not_oneSided projection distinct xRead yRead
  refine .passed ?_ ?_
  · rintro ⟨l, r, x', y', operand, other, read, notLeft, notRight⟩
    obtain ⟨rfl, rfl, rfl, rfl⟩ := equates_joinQuery other
    have known : operand = xOperand ∨ operand = yOperand := by
      rw [xRead, yRead, Option.some.injEq, Option.some.injEq] at read
      exact read.imp Eq.symm Eq.symm
    rcases known with rfl | rfl
    · exact (operandSide_bound xSide).elim notLeft notRight
    · exact (operandSide_bound ySide).elim notLeft notRight
  cases xSide' with
  | first =>
    cases ySide' with
    | first =>
      exact .refused ⟨left, right, x, y, xOperand, yOperand, equates, xRead, yRead,
        .inl ⟨xAlias, yAlias⟩⟩ rfl
    | second => exact .passed (apart (.inl ⟨xAlias, yAlias⟩)) (joinQuery_clear _)
  | second =>
    cases ySide' with
    | first => exact .passed (apart (.inr ⟨xAlias, yAlias⟩)) (joinQuery_clear _)
    | second =>
      exact .refused ⟨left, right, x, y, xOperand, yOperand, equates, xRead, yRead,
        .inr ⟨xAlias, yAlias⟩⟩ rfl

/-- **Two relations under a condition meet the obstacles of joins in order.** -/
theorem pairVerdict_justified (condition : Option Expr) :
    Justified (joinQuery projection left right condition)
      [.sharedAlias, .condition, .malformedOperand, .unboundOperand, .oneSided, .keys, .malformedKey,
        .foreignKey] (pairVerdict left right condition) := by
  unfold pairVerdict
  by_cases same : aliasOf left = aliasOf right
  · rw [dif_pos same]
    exact .refused ⟨.inner, left, right, condition, rfl, same⟩ rfl
  rw [dif_neg same]
  refine .passed (by simpa [sharedAlias, joinQuery] using same) ?_
  cases equated : equatedColumns condition with
  | error fault =>
    rw [conditionOperands, equated]
    refine .refused ⟨.inner, _, _, condition, rfl, fun x y given => ?_⟩ rfl
    rw [equatedColumns_eq_ok_iff.2 given] at equated
    cases equated
  | ok columns =>
  obtain ⟨x, y⟩ := columns
  obtain rfl := equatedColumns_eq_ok_iff.1 equated
  refine .passed ?_ ?_
  · rintro ⟨_, _, _, _, given, other⟩
    cases given
    exact other x y rfl
  have operands : conditionOperands left right (some (.binary .eq (.column x) (.column y))) =
      columnOperand x >>= fun first => columnOperand y >>= fun second =>
        sortOperands left right first second := by
    rw [conditionOperands, equated]
    rfl
  rw [operands]
  unfold columnOperand
  cases xRead : Operand.ofText? x.text with
  | none => exact .refused ⟨left, right, x, y, ⟨.inner, rfl⟩, .inl xRead⟩ rfl
  | some xOperand =>
  cases yRead : Operand.ofText? y.text with
  | none => exact .refused ⟨left, right, x, y, ⟨.inner, rfl⟩, .inr yRead⟩ rfl
  | some yOperand =>
  refine .passed ?_ (sortOperands_justified same xRead yRead
    fun sorted => .joined left right same sorted.1.field sorted.2.field)
  rintro ⟨l, r, x', y', other, malformed⟩
  obtain ⟨rfl, rfl, rfl, rfl⟩ := equates_joinQuery other
  simp [xRead, yRead] at malformed

end Sources

/-- **Every verdict goes with the obstacles.** -/
theorem verdict_justified (s : Select) : Justified s obstacles (verdict s) := by
  obtain ⟨projection, source, selection, groupBy, orderBy⟩ := s
  unfold verdict obstacles
  dsimp only
  cases selection with
  | some condition => exact .refused rfl rfl
  | none =>
  refine .passed (by simp [Obstacle.selection]) ?_
  cases orderBy with
  | cons item rest => exact .refused (by simp [Obstacle.ordering]) rfl
  | nil =>
  refine .passed (by simp [Obstacle.ordering]) ?_
  cases source with
  | subquery => exact .refused (.inl rfl) rfl
  | relation t =>
    -- The obstacles of joins do not stand in the way of a relation.
    refine .passed (by simp [Obstacle.source, Source.shape]) ?_
    refine .passed (by simp [Obstacle.join]) ?_
    refine .passed (by simp [Obstacle.sharedAlias]) ?_
    refine .passed (by simp [Obstacle.condition]) ?_
    refine .passed (by simp [Obstacle.malformedOperand, Obstacle.Equates]) ?_
    refine .passed (by simp [Obstacle.unboundOperand, Obstacle.Equates]) ?_
    refine .passed (by simp [Obstacle.oneSided, Obstacle.Equates]) ?_
    cases groupBy with
    | some keys => exact groupVerdict_justified t keys
    | none =>
      exact .passed (by simp [Obstacle.keys]) (.passed (by simp [Obstacle.malformedKey])
        (.passed (by simp [Obstacle.foreignKey]) (.clear _)))
  | join kind left right condition =>
    cases groupBy with
    | some keys => exact .refused (.inr ⟨rfl, rfl⟩) rfl
    | none =>
    refine .passed (by simp [Obstacle.source, Source.shape]) ?_
    show Justified _ _ ((joinedRelations kind left right).mapError .queryShape >>= fun relations =>
      pairVerdict relations.1 relations.2 condition)
    cases found : joinedRelations kind left right with
    | error fault =>
      show Justified _ (.join :: _) (.error (.queryShape fault))
      refine .refused ⟨kind, left, right, condition, rfl, ?_⟩ rfl
      unfold joinedRelations at found
      split at found
      · cases left <;> cases right <;> simp_all [Source.shape]
      · exact .inl (by assumption)
    | ok relations =>
      obtain ⟨l, r⟩ := relations
      obtain ⟨rfl, rfl, rfl⟩ := joinedRelations_eq_ok_iff.1 found
      exact .passed (by simp [Obstacle.join, Source.shape]) (pairVerdict_justified condition)

/-- **A session refuses a query exactly if an obstacle stands in its way, with the kind of the first
one**, whatever calls it has answered before. It never finds that a plan of its own is not valid. -/
theorem plan_fails_iff_firstObstacle (settings : Config.Settings) (calls : List Call) (s : Select) :
    let result := (((Session.new settings).afterCalls calls).plan s).result
    (∀ kind, (∃ error, result = .error error ∧ error.kind = kind) ↔
        FirstObstacle s obstacles kind) ∧
      (∀ error, result ≠ .error (.plan error)) ∧ ∀ error, result ≠ .error (.parse error) := by
  intro result
  have outcome : result = (verdict s).map (Scheme.descriptor settings.query) :=
    plan_afterCalls settings calls s
  cases found : verdict s with
  | ok scheme =>
    have clear := (found ▸ verdict_justified s : Justified s obstacles (.ok scheme)).none
    rw [found] at outcome
    have given : result = .ok (scheme.descriptor settings.query) := outcome
    simp [given, clear]
  | error error =>
    have first := (found ▸ verdict_justified s : Justified s obstacles (.error error)).first
    rw [found] at outcome
    have given : result = .error error := outcome
    refine ⟨fun kind => ?_, ?_, ?_⟩
    · constructor
      · rintro ⟨_, same, rfl⟩
        rw [given] at same
        cases same
        exact first
      · intro other
        exact ⟨error, given, first.unique other⟩
    · intro fault same
      rw [given] at same
      cases same
      exact absurd first.mem (by decide : ErrorKind.plan ∉ obstacles.map Obstacle.kind)
    · intro fault same
      rw [given] at same
      cases same
      exact absurd first.mem (by decide : ErrorKind.parse ∉ obstacles.map Obstacle.kind)

end RuleQuery.Planner
