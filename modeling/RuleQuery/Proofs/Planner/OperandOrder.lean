import RuleQuery.Proofs.Planner.Lettercase

/-!
**The order of the operands of a join.**

A condition is read from left to right, and the first fault counts. Exchanging its operands can only
exchange faults of one kind:

* `Alike.bind_swap`: two readings in sequence may be exchanged, if their faults are of one kind;
* `sortOperands_swap` and `conditionOperands_swap`: so the two operands come out in the order of the
  relations either way;
* `plan_swap_operands`: **a session has the same answer for an equality and its mirror image**, and
  the same registry afterwards.
-/

namespace RuleQuery.Planner

open Plan Sql

/-! ### Readings in either order -/

/-- **Two readings may be exchanged**, if their errors are of one kind and what follows does not
depend on their order. -/
theorem Alike.bind_swap {α β γ δ : Type} {same : γ → δ → Prop} {x : Except Error α}
    {y : Except Error β} {next : α → β → Except Error γ} {next' : β → α → Except Error δ}
    (faults : ∀ e e', x = .error e → y = .error e' → e.Like e')
    (rest : ∀ a b, Alike same (next a b) (next' b a)) :
    Alike same (x >>= fun a => y >>= next a) (y >>= fun b => x >>= next' b) := by
  cases x with
  | ok a =>
    cases y with
    | ok b => exact rest a b
    | error e' => exact .error ⟨rfl, rfl⟩
  | error e =>
    cases y with
    | ok b => exact .error ⟨rfl, rfl⟩
    | error e' => exact .error (faults e e' rfl rfl)

theorem columnOperand_eq_error {column : ColumnRef} {e : Error}
    (failed : columnOperand column = .error e) : e = .malformedOperand column.text := by
  unfold columnOperand at failed
  split at failed <;> cases failed
  rfl

theorem operandSide_eq_error {left right : TableRef} {operand : Operand} {e : Error}
    (failed : operandSide left right operand = .error e) :
    e = .unresolvedOperand operand.aliasName := by
  unfold operandSide at failed
  split at failed
  · cases failed
  · split at failed <;> cases failed
    rfl

/-! ### Conditions -/

/-- **Two operands are sorted in the same way from either order.** -/
theorem sortOperands_swap (left right : TableRef) (x y : Operand) :
    Alike (· = ·) (sortOperands left right x y) (sortOperands left right y x) := by
  unfold sortOperands
  refine Alike.bind_swap ?_ ?_
  · intro e e' first second
    rw [operandSide_eq_error first, operandSide_eq_error second]
    exact ⟨rfl, rfl⟩
  · intro xSide ySide
    cases xSide with
    | first =>
      cases ySide with
      | first => exact .error ⟨rfl, rfl⟩
      | second => exact .ok rfl
    | second =>
      cases ySide with
      | first => exact .ok rfl
      | second => exact .error ⟨rfl, rfl⟩

/-- Both orders equate columns, or neither does. -/
theorem equatedColumns_swap (x y : Expr) :
    Alike (fun pair pair' => pair' = pair.swap)
      ((equatedColumns (some (.binary .eq x y))).mapError .joinCondition)
      ((equatedColumns (some (.binary .eq y x))).mapError .joinCondition) := by
  cases x with
  | column =>
    cases y with
    | column => exact .ok rfl
    | _ => exact .error ⟨rfl, rfl⟩
  | _ => cases y <;> exact .error ⟨rfl, rfl⟩

theorem conditionOperands_swap (left right : TableRef) (x y : Expr) :
    Alike (· = ·) (conditionOperands left right (some (.binary .eq x y)))
      (conditionOperands left right (some (.binary .eq y x))) := by
  refine (equatedColumns_swap x y).bind ?_
  rintro ⟨first, second⟩ _ rfl
  refine Alike.bind_swap ?_ fun xOperand yOperand => sortOperands_swap left right xOperand yOperand
  intro e e' firstFailed secondFailed
  rw [columnOperand_eq_error firstFailed, columnOperand_eq_error secondFailed]
  exact ⟨rfl, rfl⟩

theorem pairVerdict_swap (left right : TableRef) (x y : Expr) :
    Alike (· = ·) (pairVerdict left right (some (.binary .eq x y)))
      (pairVerdict left right (some (.binary .eq y x))) := by
  by_cases equal : aliasOf left = aliasOf right
  · rw [pairVerdict, dif_pos equal, pairVerdict, dif_pos equal]
    exact .error ⟨rfl, rfl⟩
  · rw [pairVerdict, dif_neg equal, pairVerdict, dif_neg equal]
    refine (conditionOperands_swap left right x y).bind ?_
    rintro ⟨first, second⟩ _ rfl
    exact .ok rfl

/-! ### Queries -/

/-- **The scheme of a query does not depend on the order of the operands** of its join, nor does the
kind of what stands in its way. -/
theorem verdict_swap (s : Select) (kind : JoinKind) (left right : Source) (x y : Expr) :
    Alike (· = ·) (verdict { s with source := .join kind left right (some (.binary .eq x y)) })
      (verdict { s with source := .join kind left right (some (.binary .eq y x)) }) := by
  obtain ⟨projection, source, selection, groupBy, orderBy⟩ := s
  cases selection with
  | some => exact .error ⟨rfl, rfl⟩
  | none =>
    cases orderBy with
    | cons => exact .error ⟨rfl, rfl⟩
    | nil =>
      cases groupBy with
      | some => exact .error ⟨rfl, rfl⟩
      | none =>
        refine (Alike.refl ((joinedRelations kind left right).mapError .queryShape)).bind ?_
        rintro ⟨l, r⟩ _ rfl
        exact pairVerdict_swap l r x y

/-- **The operands of a join may be written in either order**: after any calls, the two queries
leave the same registry, and they have the same plan or errors of one kind. -/
theorem plan_swap_operands (settings : Config.Settings) (calls : List Call) (s : Select)
    (kind : JoinKind) (left right : Source) (x y : Expr) :
    let session := (Session.new settings).afterCalls calls
    let given := session.plan
      { s with source := .join kind left right (some (.binary .eq x y)) }
    let mirrored := session.plan
      { s with source := .join kind left right (some (.binary .eq y x)) }
    given.session.registry = mirrored.session.registry ∧
      ((∃ d, given.result = .ok d ∧ mirrored.result = .ok d) ∨
        ∃ e e', given.result = .error e ∧ mirrored.result = .error e' ∧ e.kind = e'.kind) := by
  intro session given mirrored
  have steady : Session.Steady settings session :=
    (Session.Steady.new settings).afterCalls calls
  have alike := verdict_swap s kind left right x y
  generalize outcome :
    verdict { s with source := .join kind left right (some (.binary .eq x y)) } = found at alike
  generalize outcome' :
    verdict { s with source := .join kind left right (some (.binary .eq y x)) } = found' at alike
  cases alike with
  | @ok scheme scheme' equal =>
    subst equal
    obtain ⟨result, registry⟩ := plan_of_verdict_ok steady outcome
    obtain ⟨result', registry'⟩ := plan_of_verdict_ok steady outcome'
    exact ⟨registry.trans registry'.symm, .inl ⟨_, result, result'⟩⟩
  | @error e e' like =>
    obtain ⟨result, registry⟩ := plan_of_verdict_error steady outcome
    obtain ⟨result', registry'⟩ := plan_of_verdict_error steady outcome'
    exact ⟨registry.trans registry'.symm, .inr ⟨e, e', result, result', like.kind⟩⟩

end RuleQuery.Planner
