import RuleQuery.Proofs.Planner.GroupKeys
import RuleQuery.Proofs.Planner.Planned

/-!
**Columns with the alias of their relation.**

A relation is known under the lower-case form of its alias. A column reads its alias in the lower-case
form of the whole text, alias, dot and name.

* `RunsOn`: the alias ends in a capital sigma, and the name after the dot goes on with a letter. The dot
  does not end the word then, so the alias is read without a final sigma;
* `readAlias_eq_iff`: in every other case the column reads the alias of the relation, and in this case
  it reads neither that one nor that of the other relation (`readAlias_not_exchanged`);
* `plan_resolves_aliases_iff`: **an equality between columns with the aliases of two joined relations
  has a plan exactly if neither alias runs on into the name after it**, and a key with the alias of its
  relation exactly if that alias does not.
-/

namespace RuleQuery.Planner

open Plan Sql

/-! ### The alias that a column reads -/

/-- **The last word of the alias ends in a capital sigma, and a letter follows after the dot.** -/
def RunsOn (q n : String) : Prop :=
  Text.EndsInSigma [] q.toList ∧ Text.startsCased n.toList = true

/-- The alias that a column reads. -/
def readAlias (q n : String) : String :=
  String.ofList (Text.lowercaseBetween [] q.toList n.toList)

theorem lowercase_eq (text : String) :
    Text.lowercase text = String.ofList (Text.lowercaseBetween [] text.toList []) := by
  rw [Text.lowercase, Text.lowercaseAfter_eq]

/-- **A column reads the form of its alias** exactly if the alias does not run on. -/
theorem readAlias_eq_iff {q n : String} : readAlias q n = Text.lowercase q ↔ ¬ RunsOn q n := by
  rw [lowercase_eq, readAlias, String.ofList_inj, Text.lowercaseBetween_eq_iff, RunsOn]

instance (q n : String) : Decidable (RunsOn q n) :=
  decidable_of_iff (readAlias q n ≠ Text.lowercase q) (by rw [Ne, readAlias_eq_iff, not_not])

/-- An alias that runs on is read with one final sigma less. -/
theorem count_readAlias {q n : String} (runs : RunsOn q n) :
    (readAlias q n).toList.count '\u03C2' + 1 = (Text.lowercase q).toList.count '\u03C2' := by
  rw [lowercase_eq, readAlias, String.toList_ofList, String.toList_ofList]
  exact Text.count_finalSigma runs.1 runs.2

/-- **Two columns never read the aliases of each other**, if the aliases have different forms. -/
theorem readAlias_not_exchanged {a b x y : String} (distinct : Text.lowercase a ≠ Text.lowercase b)
    (first : readAlias a x = Text.lowercase b) : readAlias b y ≠ Text.lowercase a := by
  intro second
  have runs : RunsOn a x := by
    by_contra keeps
    exact distinct ((readAlias_eq_iff.2 keeps).symm.trans first)
  have runs' : RunsOn b y := by
    by_contra keeps
    exact distinct (second.symm.trans (readAlias_eq_iff.2 keeps))
  -- Each alias would have one final sigma less than the other.
  have fewer := count_readAlias runs
  have fewer' := count_readAlias runs'
  rw [first] at fewer
  rw [second] at fewer'
  omega

theorem columnOperand_alias {q n : String} (formed : IsQualifier q)
    (solid : ∃ c ∈ n.toList, Text.isBlank c = false) :
    ∃ field, columnOperand ⟨some q, n⟩ = .ok ⟨readAlias q n, field⟩ := by
  obtain ⟨field, read⟩ := ofText?_alias formed solid
  exact ⟨field, by rw [columnOperand, ColumnRef.text, read, readAlias]⟩

/-! ### Queries -/

/-- An inner join of two relations on the equality of two columns. -/
def joinOn (projection : List SelectItem) (left right : TableRef) (x y : ColumnRef) : Select :=
  ⟨projection,
    .join .inner (.relation left) (.relation right) (some (.binary .eq (.column x) (.column y))), none,
    none, []⟩

theorem verdict_joinOn (projection : List SelectItem) (left right : TableRef) (x y : ColumnRef) :
    verdict (joinOn projection left right x y) =
      pairVerdict left right (some (.binary .eq (.column x) (.column y))) := by
  have relations : joinedRelations .inner (.relation left) (.relation right) = .ok (left, right) :=
    joinedRelations_eq_ok_iff.2 ⟨rfl, rfl, rfl⟩
  simp only [verdict, joinOn, Option.isSome_none, Bool.false_eq_true, if_false, List.isEmpty_nil,
    if_true, relations, Except.mapError, ok_bind]

theorem conditionOperands_columns (left right : TableRef) (x y : ColumnRef) :
    conditionOperands left right (some (.binary .eq (.column x) (.column y))) =
      columnOperand x >>= fun first => columnOperand y >>= sortOperands left right first := by
  rw [conditionOperands, equatedColumns, Except.mapError, ok_bind]

/-- Relations with different aliases are joined exactly if the columns name a field of each. -/
theorem verdict_joinOn_isOk_iff {projection : List SelectItem} {left right : TableRef}
    {x y : ColumnRef} (distinct : aliasOf left ≠ aliasOf right) :
    (∃ scheme, verdict (joinOn projection left right x y) = .ok scheme) ↔
      ∃ leftField rightField, NameFields left right x y leftField rightField := by
  constructor
  · rintro ⟨scheme, accepted⟩
    have planned : Planned .default (joinOn projection left right x y) (scheme.descriptor .default) :=
      planned_of_verdict accepted
    generalize scheme.descriptor .default = d at planned
    cases planned with
    | joined _ _ _ _ _ leftField rightField _ named => exact ⟨leftField, rightField, named⟩
  · rintro ⟨leftField, rightField, named⟩
    have planned : Planned .default (joinOn projection left right x y) _ :=
      .joined projection left right x y leftField rightField distinct named
    obtain ⟨scheme, accepted, _⟩ := verdict_of_planned planned
    exact ⟨scheme, accepted⟩

variable {a b x y t u : String} {projection : List SelectItem}

theorem aliasOf_some (t q : String) : aliasOf ⟨t, some q⟩ = Text.lowercase q := rfl

/-- **Columns with the aliases of two relations** can be joined exactly if neither alias runs on. -/
theorem verdict_joinOn_aliases (formed : IsQualifier a) (formed' : IsQualifier b)
    (distinct : Text.lowercase a ≠ Text.lowercase b) (solid : ∃ c ∈ x.toList, Text.isBlank c = false)
    (solid' : ∃ c ∈ y.toList, Text.isBlank c = false) :
    (∃ scheme,
      verdict (joinOn projection ⟨t, some a⟩ ⟨u, some b⟩ ⟨some a, x⟩ ⟨some b, y⟩) = .ok scheme) ↔
      ¬ RunsOn a x ∧ ¬ RunsOn b y := by
  obtain ⟨field, read⟩ := ofText?_alias formed solid
  obtain ⟨field', read'⟩ := ofText?_alias formed' solid'
  have differ : aliasOf ⟨t, some a⟩ ≠ aliasOf ⟨u, some b⟩ := distinct
  rw [verdict_joinOn_isOk_iff differ, ← readAlias_eq_iff, ← readAlias_eq_iff]
  simp only [NameFields, ColumnRef.text, read, read', Option.some.injEq, Operand.mk.injEq,
    aliasOf_some]
  constructor
  · rintro ⟨_, _, ⟨⟨first, _⟩, second, _⟩ | ⟨⟨second, _⟩, first, _⟩⟩
    · exact ⟨first, second⟩
    · exact absurd second (readAlias_not_exchanged distinct first)
  · rintro ⟨first, second⟩
    exact ⟨field, field', .inl ⟨⟨first, rfl⟩, second, rfl⟩⟩

/-- An alias that is read as that of neither relation stands in the way of the join. -/
theorem verdict_joinOn_unresolved (formed : IsQualifier a) (formed' : IsQualifier b)
    (distinct : Text.lowercase a ≠ Text.lowercase b) (solid : ∃ c ∈ x.toList, Text.isBlank c = false)
    (solid' : ∃ c ∈ y.toList, Text.isBlank c = false) (runs : RunsOn a x)
    (foreign : readAlias a x ≠ Text.lowercase b) :
    verdict (joinOn projection ⟨t, some a⟩ ⟨u, some b⟩ ⟨some a, x⟩ ⟨some b, y⟩) =
      .error (.unresolvedOperand (readAlias a x)) := by
  obtain ⟨field, read⟩ := columnOperand_alias formed solid
  obtain ⟨field', read'⟩ := columnOperand_alias formed' solid'
  have differ : aliasOf ⟨t, some a⟩ ≠ aliasOf ⟨u, some b⟩ := distinct
  have own : readAlias a x ≠ aliasOf ⟨t, some a⟩ := fun same => readAlias_eq_iff.1 same runs
  have other : readAlias a x ≠ aliasOf ⟨u, some b⟩ := foreign
  have side : operandSide ⟨t, some a⟩ ⟨u, some b⟩ ⟨readAlias a x, field⟩ =
      .error (.unresolvedOperand (readAlias a x)) := by
    rw [operandSide, if_neg own, if_neg other]
  rw [verdict_joinOn, pairVerdict, dif_neg differ, conditionOperands_columns, read, ok_bind, read',
    ok_bind, sortOperands, side, error_bind, error_bind]

/-- **A key with the alias of its relation** has a field exactly if the alias does not run on, and else
it is taken for a column of another relation. -/
theorem keyField_alias (formed : IsQualifier a) (solid : ∃ c ∈ x.toList, Text.isBlank c = false) :
    ∃ field, keyField ⟨t, some a⟩ ⟨some a, x⟩ =
      if RunsOn a x then .error (.groupBy (.foreignColumn ⟨some a, x⟩)) else .ok field := by
  obtain ⟨field, read⟩ := ofText?_alias formed solid
  refine ⟨field, ?_⟩
  rw [keyField_qualified read]
  by_cases runs : RunsOn a x
  · rw [if_pos runs, if_neg]
    exact fun same => readAlias_eq_iff.1 same runs
  · rw [if_neg runs, if_pos]
    exact readAlias_eq_iff.2 runs

theorem verdict_countBy_alias (formed : IsQualifier a)
    (solid : ∃ c ∈ x.toList, Text.isBlank c = false) :
    (∃ scheme, verdict (countBy projection ⟨t, some a⟩ ⟨some a, x⟩) = .ok scheme) ↔
      ¬ RunsOn a x := by
  obtain ⟨field, found⟩ := keyField_alias (t := t) formed solid
  rw [verdict_countBy, found]
  by_cases runs : RunsOn a x
  · rw [if_pos runs]
    exact ⟨nofun, fun keeps => absurd runs keeps⟩
  · rw [if_neg runs]
    exact ⟨fun _ => runs, fun _ => ⟨_, rfl⟩⟩

/-! ### Plans -/

/-- **The alias of a relation is found again exactly if it does not run on into the name after it**:
after any calls, an equality between columns with the aliases of two relations joins them exactly if
neither alias runs on, and a key with the alias of its relation groups it exactly if that alias does
not. -/
theorem plan_resolves_aliases_iff (settings : Config.Settings) (calls : List Call)
    (projection projection' : List SelectItem) (t u a b x y : String) (formed : IsQualifier a)
    (formed' : IsQualifier b) (distinct : Text.lowercase a ≠ Text.lowercase b)
    (solid : ∃ c ∈ x.toList, Text.isBlank c = false)
    (solid' : ∃ c ∈ y.toList, Text.isBlank c = false) :
    ((∃ d, (((Session.new settings).afterCalls calls).plan
        (joinOn projection ⟨t, some a⟩ ⟨u, some b⟩ ⟨some a, x⟩ ⟨some b, y⟩)).result = .ok d) ↔
      ¬ RunsOn a x ∧ ¬ RunsOn b y) ∧
    ((∃ d, (((Session.new settings).afterCalls calls).plan
        (countBy projection' ⟨t, some a⟩ ⟨some a, x⟩)).result = .ok d) ↔ ¬ RunsOn a x) := by
  rw [plan_isOk_iff, plan_isOk_iff]
  exact ⟨verdict_joinOn_aliases formed formed' distinct solid solid',
    verdict_countBy_alias formed solid⟩

/-- An alias that does not run on into a name that starts with an underscore, and one that runs on into
a name that starts with a letter. -/
theorem sigmaAliases_resolved :
    (¬ ∃ d, (((Session.new .default).afterCalls [.reset]).plan
        (joinOn [.wildcard] ⟨"streets", some "ΟΔΟΣ"⟩ ⟨"towns", some "ΑΣ"⟩
          ⟨some "ΟΔΟΣ", "_town"⟩ ⟨some "ΑΣ", "id"⟩)).result = .ok d) ∧
      ∃ d, (((Session.new .default).afterCalls [.reset]).plan
        (countBy [.wildcard] ⟨"streets", some "ΟΔΟΣ"⟩ ⟨some "ΟΔΟΣ", "_town"⟩)).result = .ok d := by
  obtain ⟨joins, groups⟩ := plan_resolves_aliases_iff .default [.reset] [.wildcard] [.wildcard]
    "streets" "towns" "ΟΔΟΣ" "ΑΣ" "_town" "id" (by decide +kernel) (by decide +kernel)
    (by decide +kernel) ⟨'_', by decide, by decide⟩ ⟨'i', by decide, by decide⟩
  have keeps : ¬ RunsOn "ΟΔΟΣ" "_town" := by decide +kernel
  have runs : RunsOn "ΑΣ" "id" := by decide +kernel
  exact ⟨fun planned => (joins.1 planned).2 runs, groups.2 keeps⟩

/-- **An alias is lost although both texts are well formed**: before a letter, the one in this query is
read without its final sigma, and belongs to no relation. -/
theorem finalSigma_alias_lost :
    (IsQualifier "ΟΔΟΣ" ∧ IsQualifier "t" ∧ Text.lowercase "ΟΔΟΣ" ≠ Text.lowercase "t" ∧
      ∃ c ∈ "id".toList, Text.isBlank c = false) ∧
    (((Session.new .default).afterCalls []).plan
        (joinOn [.wildcard] ⟨"streets", some "ΟΔΟΣ"⟩ ⟨"towns", some "t"⟩
          ⟨some "ΟΔΟΣ", "id"⟩ ⟨some "t", "id"⟩)).result = .error (.unresolvedOperand "οδοσ") ∧
    (((Session.new .default).afterCalls []).plan
        (countBy [.wildcard] ⟨"streets", some "ΟΔΟΣ"⟩ ⟨some "ΟΔΟΣ", "id"⟩)).result =
      .error (.groupBy (.foreignColumn ⟨some "ΟΔΟΣ", "id"⟩)) := by
  have formed : IsQualifier "ΟΔΟΣ" := by decide +kernel
  have formed' : IsQualifier "t" := by decide +kernel
  have distinct : Text.lowercase "ΟΔΟΣ" ≠ Text.lowercase "t" := by decide +kernel
  have solid : ∃ c ∈ "id".toList, Text.isBlank c = false := ⟨'i', by decide, by decide⟩
  have runs : RunsOn "ΟΔΟΣ" "id" := by decide +kernel
  have lost : readAlias "ΟΔΟΣ" "id" = "οδοσ" := by decide +kernel
  have foreign : "οδοσ" ≠ Text.lowercase "t" := by decide +kernel
  refine ⟨⟨formed, formed', distinct, solid⟩, ?_, ?_⟩
  · rw [← lost] at foreign
    rw [plan_afterCalls, verdict_joinOn_unresolved formed formed' distinct solid solid runs foreign,
      lost]
    rfl
  · obtain ⟨field, found⟩ := keyField_alias (t := "streets") formed solid
    rw [plan_afterCalls, verdict_countBy, found, if_pos runs]
    rfl

end RuleQuery.Planner
