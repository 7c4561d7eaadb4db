import RuleQuery.Proofs.Plan.Lookup
import RuleQuery.Proofs.Plan.RuleSource
import RuleQuery.Proofs.Planner.Planned
import RuleQuery.Proofs.Sql.Integers
import RuleQuery.Proofs.Sql.Operand
import RuleQuery.Proofs.Sql.Statement

/-!
**Plans have small names only.**

Names are written into the rule source as they are. Nothing from the text of a query can leave its
place there:

* `FreeName.small`: the number after a taken name keeps it a small name;
* `Planned.identifiers_small`: so every name in the plan of a statement that can be written is a small
  name, wherever it comes from;
* `planText_names_harmless`: **no name in the plan of a text has a blank, a quote, a dot or a
  parenthesis**, and the rule source has one line for each item of the body, whatever the text is.
-/

namespace RuleQuery.Plan

/-- **The free form of a small name is a small name.** -/
theorem FreeName.small {taken : List String} {base name : String} (free : FreeName taken base name)
    (named : Text.IsSmallName base) : Text.IsSmallName name := by
  cases free with
  | wanted => exact named
  | numbered number =>
    constructor
    · obtain ⟨c, rest, letters⟩ := List.exists_cons_of_ne_nil named.ne_nil
      have starts := named.starts
      rw [letters] at starts
      rw [Arena.numbered_toList, letters]
      exact starts
    · intro c member
      rw [Arena.numbered_toList, List.mem_append, List.mem_cons] at member
      rcases member with inside | rfl | digit
      · exact named.inside c inside
      · decide
      · have digit := Nat.isDigit_of_mem_toDigits (by decide) (by decide) digit
        rw [Text.isSmallChar, digit, Bool.or_true, Bool.true_or]

end RuleQuery.Plan

namespace RuleQuery.Planner

open Plan Sql

/-! ### The names of a plan -/

section Names

variable {query : Config.QuerySettings} {s : Select} {d : Descriptor} {t : TableRef}

theorem tableOf_small (formed : (Source.relation t).WellFormed) : Text.IsSmallName (tableOf t) := by
  cases formed with
  | relation name => exact name.lowercase_small

theorem aliasOf_small (formed : (Source.relation t).WellFormed) : Text.IsSmallName (aliasOf t) := by
  obtain ⟨table, aliasName⟩ := t
  cases formed with
  | relation named aliased =>
    cases aliasName with
    | none => exact named.lowercase_small
    | some a => exact (aliased a rfl).lowercase_small

theorem NamesField.small {column : ColumnRef} {field : String}
    (formed : (Expr.column column).WellFormed) (named : NamesField t column field) :
    Text.IsSmallName field := by
  rcases named with ⟨-, rfl⟩ | ⟨-, read⟩
  · cases formed with
    | column _ name => exact name.lowercase_small
  · exact (operand_small formed read).2

theorem NameFields.small {left right : TableRef} {x y : ColumnRef} {leftField rightField : String}
    (xFormed : (Expr.column x).WellFormed) (yFormed : (Expr.column y).WellFormed)
    (named : NameFields left right x y leftField rightField) :
    Text.IsSmallName leftField ∧ Text.IsSmallName rightField := by
  rcases named with ⟨first, second⟩ | ⟨first, second⟩
  · exact ⟨(operand_small xFormed first).2, (operand_small yFormed second).2⟩
  · exact ⟨(operand_small yFormed first).2, (operand_small xFormed second).2⟩

/-- **Every name in the plan of a statement that can be written is a small name.** -/
theorem Planned.identifiers_small (planned : Planned query s d) (formed : s.WellFormed) :
    ∀ name ∈ d.identifiers, Text.IsSmallName name := by
  cases planned with
  | relation projection t =>
    have table := tableOf_small formed.source
    have named := aliasOf_small formed.source
    simp [Descriptor.identifiers, Variable.identifiers, VariableKind.prototype?, BodyItem.identifiers,
      Pattern.identifiers, Constraint.identifiers, plainPattern, table, named]
  | grouped projection t column field key count fieldNamed keyFree countFree =>
    have table := tableOf_small formed.source
    have named := aliasOf_small formed.source
    have columnFormed := formed.clauses.groupBy _ rfl _ (List.mem_singleton_self _)
    have field := fieldNamed.small columnFormed
    have key := keyFree.small field
    have count := countFree.small (by decide)
    simp [Descriptor.identifiers, Variable.identifiers, VariableKind.prototype?, BodyItem.identifiers,
      Pattern.identifiers, Constraint.identifiers, plainPattern, table, named, field, key, count]
  | joined projection left right x y leftField rightField distinct fieldsNamed =>
    cases formed.source with
    | join _ leftFormed rightFormed _ conditionFormed =>
      cases conditionFormed _ rfl with
      | binary _ xFormed yFormed =>
        have fields := fieldsNamed.small xFormed yFormed
        have leftTable := tableOf_small leftFormed
        have leftNamed := aliasOf_small leftFormed
        have rightTable := tableOf_small rightFormed
        have rightNamed := aliasOf_small rightFormed
        simp [Descriptor.identifiers, Variable.identifiers, VariableKind.prototype?,
          BodyItem.identifiers, Pattern.identifiers, Constraint.identifiers, plainPattern, fields,
          leftTable, leftNamed, rightTable, rightNamed]

end Names

/-! ### The plan of a text -/

/-- **The plan of a text is that of a scheme with small names**, whatever calls came before. -/
theorem exists_scheme_of_planText {settings : Config.Settings} {calls : List Call} {text : String}
    {d : Descriptor}
    (planned : (((Session.new settings).afterCalls calls).planText text).result = .ok d) :
    ∃ scheme : Scheme, d = scheme.descriptor settings.query ∧
      ∀ name ∈ d.identifiers, Text.IsSmallName name := by
  unfold Session.planText at planned
  have read := parse_read text
  generalize parse text = result at read planned
  cases read with
  | rejected => cases planned
  | unbuilt => cases planned
  | @statement nodes s found fit formed =>
    dsimp only at planned
    rw [plan_afterCalls] at planned
    cases outcome : verdict s with
    | error error =>
      rw [outcome] at planned
      cases planned
    | ok scheme =>
      rw [outcome] at planned
      cases planned
      have found : Planned settings.query s _ := planned_of_verdict outcome
      exact ⟨scheme, rfl, found.identifiers_small formed⟩

/-- **Nothing in a text can leave its place in the rule source**: every name in the plan of a text is
a small name, without blanks, quotes, dots and parentheses, and the rule source has four lines beside
one for each item of the body, if the names of the settings have no line breaks. -/
theorem planText_names_harmless (settings : Config.Settings) (calls : List Call) (text : String)
    (d : Descriptor)
    (planned : (((Session.new settings).afterCalls calls).planText text).result = .ok d) :
    (∀ name ∈ d.identifiers,
      Text.IsSmallName name ∧ ∀ c ∈ name.toList, Text.isHarmful c = false) ∧
    ∃ source, d.ruleSource settings.query.factType = .ok source ∧
      (Unbroken settings.query.name → Unbroken settings.query.package →
        Unbroken settings.query.factType → breaks source = 4 + d.body.length) := by
  obtain ⟨scheme, rfl, small⟩ := exists_scheme_of_planText planned
  obtain ⟨source, written⟩ :=
    ruleSource_of_valid settings.query.factType (scheme.descriptor_valid settings.query)
  refine ⟨fun name member => ⟨small name member, (small name member).harmless⟩, source, written, ?_⟩
  intro name package facts
  exact breaks_ruleSource (fun name member => unbroken_of_small (small name member)) name package facts
    written

/-- A text with the end of a rule in a string, whose alias is taken by the column to group by. -/
theorem writes_countedOrders :
    Writes ⟨[.expr (.literal (.string "\" )\nend"))], .relation ⟨"Orders", some "Count"⟩, none,
      some [.column ⟨none, "COUNT"⟩], []⟩
    "SELECT '\" )\nend' FROM Orders Count GROUP BY COUNT" := by
  have item : Listed ItemTokens [.expr (.literal (.string "\" )\nend"))]
      [.value (.string "\" )\nend")] :=
    @Listed.mk _ ItemTokens [(_, _)] nofun
      (List.forall_mem_singleton.2 (.expr (.ofAnd (.ofComparison (.ofPrimary (.literal _))))))
  have key : Listed (Phrase .or) [.column ⟨none, "COUNT"⟩] [.name "COUNT"] :=
    @Listed.mk _ (Phrase .or) [(_, _)] nofun
      (List.forall_mem_singleton.2 (.ofAnd (.ofComparison (.ofPrimary (.column _)))))
  refine ⟨_, [], .mk (.items item) (.aliased "Orders" "Count" (.inl rfl))
    (.mk .absent (.present key) .absent), .inl rfl, ?_⟩
  have blank : Gap [' '] := .blank rfl .none
  have select : (Token.keyword .SELECT).Spelled "SELECT".toList := .keyword (by decide)
  have origin : (Token.keyword .FROM).Spelled "FROM".toList := .keyword (by decide)
  have group : (Token.keyword .GROUP).Spelled "GROUP".toList := .keyword (by decide)
  have keys : (Token.keyword .BY).Spelled "BY".toList := .keyword (by decide)
  simp only [String.reduceToList]
  refine .token .none select (by decide) ?_
  refine .token blank (.string _) (by decide) ?_
  refine .token blank origin (by decide) ?_
  refine .token blank (.name (by decide)) (by decide) ?_
  refine .token blank (.name (by decide)) (by decide) ?_
  refine .token blank group (by decide) ?_
  refine .token blank keys (by decide) ?_
  refine .token blank (.name (by decide)) (by decide) ?_
  exact .finish (.closed .none)

theorem countedOrders_harmless :
    ∃ d source,
      (((Session.new .default).afterCalls [.reset]).planText
        "SELECT '\" )\nend' FROM Orders Count GROUP BY COUNT").result = .ok d ∧
      d.arena.names = ["count", "count_1", "count_2"] ∧
      (∀ name ∈ d.identifiers, Text.IsSmallName name) ∧
      d.ruleSource "Fact" = .ok source ∧ breaks source = 5 := by
  have planned : (((Session.new .default).afterCalls [.reset]).planText
        "SELECT '\" )\nend' FROM Orders Count GROUP BY COUNT").result =
      .ok (Scheme.descriptor .default (.grouped ⟨"Orders", some "Count"⟩ "count")) := by
    unfold Session.planText
    rw [parse_of_writes writes_countedOrders]
    dsimp only
    rw [plan_afterCalls]
    rfl
  obtain ⟨small, source, written, lines⟩ := planText_names_harmless .default [.reset] _ _ planned
  exact ⟨_, source, planned, by decide +kernel, fun name member => (small name member).1, written,
    lines (by decide) (by decide) (by decide)⟩

end RuleQuery.Planner
