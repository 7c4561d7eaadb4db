import RuleQuery.Proofs.Planner.Bindings
import RuleQuery.Proofs.Planner.Calls
import RuleQuery.Proofs.Sql.Operand

/-!
**Keys with and without the alias of the relation.**

* `verdict_countBy`: what a relation counted by a column becomes depends on the field that the column
  names;
* `keyField_own`: an identifier names the same field with the alias of the relation before it, in any
  letter case, and without;
* `boundNames_grouped`: the plan binds the alias, the free form of the field and the free form of the
  name for counts, in this order;
* `plan_countBy_either_way`: **the two ways to write the key have the same plan**, and its three names
  differ, whatever the alias and the key are.
-/

namespace RuleQuery.Planner

open Plan Sql

/-- The count of the rows of a relation by a column. -/
def countBy (projection : List SelectItem) (t : TableRef) (column : ColumnRef) : Select :=
  ⟨projection, .relation t, none, some [.column column], []⟩

theorem verdict_countBy (projection : List SelectItem) (t : TableRef) (column : ColumnRef) :
    verdict (countBy projection t column) = (keyField t column).map (Scheme.grouped t) := by
  show (keyField t column >>= fun field => .ok (Scheme.grouped t field)) = _
  cases keyField t column <;> rfl

/-- The field of a column whose text names an operand. -/
theorem keyField_qualified {t : TableRef} {q n : String} {operand : Operand}
    (read : Operand.ofText? (q ++ "." ++ n) = some operand) :
    keyField t ⟨some q, n⟩ =
      if operand.aliasName = aliasOf t then .ok operand.field
      else .error (.groupBy (.foreignColumn ⟨some q, n⟩)) := by
  have found : columnOperand ⟨some q, n⟩ = .ok operand := by
    rw [columnOperand, ColumnRef.text, read]
  rw [keyField, found]
  rfl

/-- **An identifier names its lower-case form**, with the alias of the relation before it in any
letter case or without. -/
theorem keyField_own {t : TableRef} {q n : String} (qualifier : Named q) (named : Named n)
    (own : q.toLower = (t.aliasName.getD t.name).toLower) :
    keyField t ⟨none, n⟩ = .ok n.toLower ∧ keyField t ⟨some q, n⟩ = .ok n.toLower := by
  have same : Text.lowercase q = aliasOf t := by
    rw [← Text.lowercase_toLower, own, Text.lowercase_toLower, aliasOf]
  constructor
  · rw [keyField, named.lowercase_eq]
  · rw [keyField_qualified (ofText?_qualified qualifier named), if_pos same, named.lowercase_eq]

/-- **The names of a count**: the alias, the key and the result, each of them free beside those
before it. -/
theorem boundNames_grouped (query : Config.QuerySettings) (t : TableRef) (field : String) :
    ∃ key count, ((Scheme.grouped t field).descriptor query).boundNames = [aliasOf t, key, count] ∧
      FreeName [aliasOf t] field key ∧ FreeName [aliasOf t, key] countName count :=
  ⟨_, _, rfl, Arena.uniqueName_free ⟨[Scheme.factOf t]⟩ field,
    Arena.uniqueName_free (Arena.declareUnique ⟨[Scheme.factOf t]⟩ field .groupKey) countName⟩

/-- **A key may be written with the alias of its relation or without.** After any calls, both counts
have one plan, whose field is the key in lower case. Its three names differ, even if the key is the
alias, or one of them is the name for counts or a numbered form of it. -/
theorem plan_countBy_either_way (settings : Config.Settings) (calls : List Call)
    (projection : List SelectItem) (t : TableRef) (q n : String) (qualifier : Named q)
    (named : Named n) (own : q.toLower = (t.aliasName.getD t.name).toLower) :
    ∃ d a key count,
      (((Session.new settings).afterCalls calls).plan (countBy projection t ⟨none, n⟩)).result =
        .ok d ∧
      (((Session.new settings).afterCalls calls).plan (countBy projection t ⟨some q, n⟩)).result =
        .ok d ∧
      d.body = [.aggregation a] ∧ a.groupKeyField = n.toLower ∧
      d.boundNames = [aliasOf t, key, count] ∧ [aliasOf t, key, count].Nodup ∧
      FreeName [aliasOf t] n.toLower key ∧ FreeName [aliasOf t, key] "count" count := by
  obtain ⟨plain, qualified⟩ := keyField_own qualifier named own
  obtain ⟨key, count, names, keyFree, countFree⟩ :=
    boundNames_grouped settings.query t n.toLower
  refine ⟨(Scheme.grouped t n.toLower).descriptor settings.query, _, key, count, ?_, ?_, rfl, rfl,
    names, ?_, keyFree, countFree⟩
  · rw [plan_afterCalls, verdict_countBy, plain]
    rfl
  · rw [plan_afterCalls, verdict_countBy, qualified]
    rfl
  · have first := keyFree.not_mem
    have second := countFree.not_mem
    grind

/-- A relation with the alias that the count would get, counted by a column that takes the name for
counts. -/
theorem countedCounts_either_way :
    ∃ d,
      (((Session.new .default).afterCalls [.reset]).plan
        (countBy [.wildcard] ⟨"Orders", some "Count_1"⟩ ⟨none, "COUNT"⟩)).result = .ok d ∧
      (((Session.new .default).afterCalls [.reset]).plan
        (countBy [.wildcard] ⟨"Orders", some "Count_1"⟩ ⟨some "COUNT_1", "COUNT"⟩)).result = .ok d ∧
      d.boundNames = ["count_1", "count", "count_2"] := by
  have own : "COUNT_1".toLower = "Count_1".toLower := by
    rw [← String.toList_inj, Text.toList_toLower, Text.toList_toLower]
    decide
  obtain ⟨d, _, key, count, plain, qualified, _, _, names, _, keyFree, countFree⟩ :=
    plan_countBy_either_way .default [.reset] [.wildcard] ⟨"Orders", some "Count_1"⟩ "COUNT_1" "COUNT"
      (by decide +kernel) (by decide +kernel) own
  have aliasName : aliasOf ⟨"Orders", some "Count_1"⟩ = "count_1" := by decide +kernel
  have field : "COUNT".toLower = "count" := by decide +kernel
  have numbered : Arena.numbered "count" 1 = "count_1" ∧ Arena.numbered "count" 2 = "count_2" := by
    decide +kernel
  rw [aliasName] at names keyFree countFree
  rw [field] at keyFree
  have keyName : key = "count" := keyFree.unique (.wanted (by decide))
  subst keyName
  have countName : count = Arena.numbered "count" 2 := by
    refine countFree.unique (.numbered 1 (by decide) ?_ ?_)
    · intro smaller less
      rw [Nat.lt_one_iff.1 less, numbered.1]
      decide
    · rw [numbered.2]
      decide
  rw [countName, numbered.2] at names
  exact ⟨d, plain, qualified, names⟩

end RuleQuery.Planner
