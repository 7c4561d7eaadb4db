import RuleQuery.Proofs.Planner.Lettercase
import RuleQuery.Proofs.Planner.SmallNames

/-!
**The rule source tells the plan.**

The rule source of a scheme is a series of names with fixed texts between them. The names are small
names and no fixed text goes on with a character of such names, so that the names can be read off from
left to right:

* `ruleSource_descriptor`: the rule source of a scheme as such a series;
* `descriptor_eq_of_text`: two schemes with the same text have the same plan. A text after `groupby` and
  one after a name differ in the next character, and one pattern and two differ in the next line;
* `plan_eq_of_ruleSource`: **two texts with plans of one rule source have the same plan**, with all that
  the rule source does not show.
-/

namespace RuleQuery.Planner

open Plan Sql Text

/-! ### The rule source of a scheme -/

/-- What stands before the body. -/
def ruleHead (query : Config.QuerySettings) : String :=
  "package " ++ query.package ++ ";\n\nquery " ++ enquoted query.name ++ "\n    "

/-- What stands between the variable of a pattern and its table. -/
def tableGap (factType : String) : String :=
  " : " ++ factType ++ "( table == \""

namespace Scheme

/-- The name of the key in a grouped plan. -/
def keyName (t : TableRef) (field : String) : String :=
  Arena.uniqueName ⟨[factOf t]⟩ field

/-- The name of the count in a grouped plan. -/
def resultName (t : TableRef) (field : String) : String :=
  (Arena.declareUnique ⟨[factOf t]⟩ field .groupKey).uniqueName countName

/-- The names in the body of the rule source, in order. The word of a grouping stands where a name
could. -/
def names : Scheme → List String
  | single t => [aliasOf t, tableOf t]
  | grouped t field =>
    ["groupby", aliasOf t, tableOf t, keyName t field, aliasOf t, field, resultName t field]
  | joined left right _ leftField rightField =>
    [aliasOf left, tableOf left, aliasOf right, tableOf right, rightField, aliasOf left, leftField]

/-- The texts after the names. -/
def gaps (factType : String) : Scheme → List String
  | single _ => [tableGap factType, "\" )\nend\n"]
  | grouped .. =>
    ["( ", tableGap factType, "\" ); ", " : ", ".get(\"", "\"); ", " : count() )\nend\n"]
  | joined .. =>
    [tableGap factType, "\" )\n    ", tableGap factType, "\", get(\"", "\") == ", ".get(\"",
      "\") )\nend\n"]

/-- The body of the rule source, after its first indent. -/
def text (factType : String) (scheme : Scheme) : List Char :=
  fillIn scheme.names (scheme.gaps factType)

end Scheme

/-- **The rule source of a scheme.** -/
theorem ruleSource_descriptor (query : Config.QuerySettings) (factType : String) (scheme : Scheme) :
    (scheme.descriptor query).ruleSource factType =
      .ok (String.ofList ((ruleHead query).toList ++ scheme.text factType)) := by
  cases scheme <;> refine congrArg Except.ok (String.toList_inj.1 ?_) <;>
    simp [Scheme.text, Scheme.names, Scheme.gaps, fillIn, ruleHead, tableGap, enquoted, fieldAccess,
      Scheme.descriptor, Scheme.factOf, Scheme.keyName, Scheme.resultName, Accumulator.functionName,
      ConstraintOp.symbol]

/-- If the names of the plan are small names, then those of the rule source are. -/
theorem Scheme.names_small {query : Config.QuerySettings} {scheme : Scheme}
    (small : ∀ name ∈ (scheme.descriptor query).identifiers, IsSmallName name) :
    ∀ name ∈ scheme.names, IsSmallName name := by
  have word : IsSmallName "groupby" := by decide
  have inside : scheme.names ⊆ "groupby" :: (scheme.descriptor query).identifiers := by
    cases scheme <;>
      simp [names, descriptor, arena, body, factOf, keyName, resultName, Arena.declareUnique,
        Arena.declare, Pattern.ofTable, Pattern.addConstraint, Descriptor.identifiers,
        Variable.identifiers, VariableKind.prototype?, BodyItem.identifiers, Pattern.identifiers,
        Constraint.identifiers]
  intro name member
  rcases List.mem_cons.1 (inside member) with rfl | member
  · exact word
  · exact small name member

/-! ### Schemes of one text -/

section OneText

variable {query : Config.QuerySettings} {factType : String} {scheme scheme' : Scheme}

theorem head?_tableGap (factType : String) : (tableGap factType).toList.head? = some ' ' := by
  simp [tableGap]

theorem endsName_tableGap (factType : String) : EndsName (tableGap factType) := by
  rw [EndsName, head?_tableGap]
  decide

theorem endsName_gaps (factType : String) (scheme : Scheme) :
    scheme.names.length = (scheme.gaps factType).length ∧
      ∀ gap ∈ scheme.gaps factType, EndsName gap := by
  cases scheme <;> simp +decide [Scheme.names, Scheme.gaps, endsName_tableGap]

/-- **The names of schemes with the same texts between them are told by the whole.** -/
theorem names_eq_of_text (small : ∀ name ∈ scheme.names, IsSmallName name)
    (small' : ∀ name ∈ scheme'.names, IsSmallName name)
    (shape : scheme.gaps factType = scheme'.gaps factType)
    (same : scheme.text factType = scheme'.text factType) : scheme.names = scheme'.names := by
  obtain ⟨length, apart⟩ := endsName_gaps factType scheme
  have length' := (endsName_gaps factType scheme').1
  unfold Scheme.text at same
  rw [← shape] at length' same
  have whole := congrArg (· ++ ([] : List Char)) same
  exact (fillIn_inj small small' length length' apart whole).1

/-- After one pattern the text goes on otherwise than before a second one. -/
theorem single_text_ne_joined {t left right : TableRef} {distinct : aliasOf left ≠ aliasOf right}
    {leftField rightField : String} (small : ∀ name ∈ (Scheme.single t).names, IsSmallName name)
    (small' : ∀ name ∈ (Scheme.joined left right distinct leftField rightField).names,
      IsSmallName name) :
    (Scheme.single t).text factType ≠
      (Scheme.joined left right distinct leftField rightField).text factType := by
  intro same
  have apart : ∀ gap ∈ [tableGap factType, "\" )\n"], EndsName gap := by
    simp +decide [endsName_tableGap]
  have split : fillIn [aliasOf t, tableOf t] [tableGap factType, "\" )\n"] ++ "end\n".toList =
      fillIn [aliasOf left, tableOf left] [tableGap factType, "\" )\n"] ++ ("    ".toList ++
        fillIn [aliasOf right, tableOf right, rightField, aliasOf left, leftField]
          [tableGap factType, "\", get(\"", "\") == ", ".get(\"", "\") )\nend\n"]) := by
    simpa [Scheme.text, Scheme.names, Scheme.gaps, fillIn] using same
  have single : ∀ name ∈ [aliasOf t, tableOf t], IsSmallName name := small
  have first : ∀ name ∈ [aliasOf left, tableOf left], IsSmallName name :=
    fun name member => small' name (List.mem_append_left [_, _, _, _, _] member)
  have after := (fillIn_inj single first (by simp) (by simp) apart split).2
  simp at after

/-- The text after `groupby` goes on otherwise than the text after the name of a pattern. -/
theorem text_ne_grouped {name : String} {names gaps : List String} (small : IsSmallName name)
    (t : TableRef) (field : String) :
    fillIn (name :: names) (tableGap factType :: gaps) ≠ (Scheme.grouped t field).text factType := by
  refine fillIn_ne small (by decide) (endsName_tableGap factType) (by decide) ?_
  rw [head?_tableGap]
  decide

/-- **Schemes of one text have the same plan.** -/
theorem descriptor_eq_of_text (small : ∀ name ∈ scheme.names, IsSmallName name)
    (small' : ∀ name ∈ scheme'.names, IsSmallName name)
    (same : scheme.text factType = scheme'.text factType) :
    scheme.descriptor query = scheme'.descriptor query := by
  -- two schemes of one shape are told by their names, and two shapes never have one text
  cases scheme with
  | single t =>
    cases scheme' with
    | single t' =>
      have names := names_eq_of_text small small' rfl same
      simp only [Scheme.names, List.cons.injEq] at names
      simp [Scheme.descriptor, Scheme.arena, Scheme.body, Scheme.factOf, names]
    | grouped t' field' => exact absurd same (text_ne_grouped (small _ (List.mem_cons_self ..)) _ _)
    | joined => exact absurd same (single_text_ne_joined small small')
  | grouped t field =>
    cases scheme' with
    | single t' => exact absurd same.symm (text_ne_grouped (small' _ (List.mem_cons_self ..)) _ _)
    | grouped t' field' =>
      have names := names_eq_of_text small small' rfl same
      simp only [Scheme.names, List.cons.injEq] at names
      simp [Scheme.descriptor, Scheme.arena, Scheme.body, Scheme.factOf, names]
    | joined => exact absurd same.symm (text_ne_grouped (small' _ (List.mem_cons_self ..)) _ _)
  | joined left right distinct leftField rightField =>
    cases scheme' with
    | single t' => exact absurd same.symm (single_text_ne_joined small' small)
    | grouped t' field' => exact absurd same (text_ne_grouped (small _ (List.mem_cons_self ..)) _ _)
    | joined left' right' distinct' leftField' rightField' =>
      have names := names_eq_of_text small small' rfl same
      simp only [Scheme.names, List.cons.injEq] at names
      simp [Scheme.descriptor, Scheme.arena, Scheme.body, Scheme.factOf, names]

end OneText

/-- **The rule source tells the plan**: if the plans of two texts under the same settings have the same
rule source, then they are the same plan, whatever the settings are and whatever calls came before. -/
theorem plan_eq_of_ruleSource (settings : Config.Settings) (calls calls' : List Call)
    (text text' : String) (d d' : Descriptor)
    (planned : (((Session.new settings).afterCalls calls).planText text).result = .ok d)
    (planned' : (((Session.new settings).afterCalls calls').planText text').result = .ok d')
    (same : d.ruleSource settings.query.factType = d'.ruleSource settings.query.factType) :
    d = d' := by
  obtain ⟨scheme, rfl, small⟩ := exists_scheme_of_planText planned
  obtain ⟨scheme', rfl, small'⟩ := exists_scheme_of_planText planned'
  rw [ruleSource_descriptor, ruleSource_descriptor] at same
  have whole := String.ofList_injective (Except.ok.inj same)
  exact descriptor_eq_of_text (Scheme.names_small small) (Scheme.names_small small')
    (List.append_cancel_left whole)

/-- Settings that are written like parts of a rule. -/
def misleadingSettings : Config.Settings :=
  ⟨⟨"Q\"\n", "p;\n\nquery \"Q\"", "F( table == \"t\" )\nend\n"⟩, .default⟩

theorem writes_aliasedOrders :
    Writes ⟨[.expr (.column ⟨none, "id"⟩)], .relation ⟨"orders", some "ORDERS"⟩, none, none, []⟩
    "SELECT id FROM orders AS ORDERS;" := by
  have item : Listed ItemTokens [.expr (.column ⟨none, "id"⟩)] [.name "id"] :=
    @Listed.mk _ ItemTokens [(_, _)] nofun
      (List.forall_mem_singleton.2 (.expr (.ofAnd (.ofComparison (.ofPrimary (.column _))))))
  refine ⟨_, [.sign ';'], .mk (.items item) (.aliased "orders" "ORDERS" (.inr rfl))
    (.mk .absent .absent .absent), .inr rfl, ?_⟩
  have blank : Gap [' '] := .blank rfl .none
  have select : (Token.keyword .SELECT).Spelled "SELECT".toList := .keyword (by decide)
  have origin : (Token.keyword .FROM).Spelled "FROM".toList := .keyword (by decide)
  have named : (Token.keyword .AS).Spelled "AS".toList := .keyword (by decide)
  simp only [String.reduceToList]
  refine .token .none select (by decide) ?_
  refine .token blank (.name (by decide)) (by decide) ?_
  refine .token blank origin (by decide) ?_
  refine .token blank (.name (by decide)) (by decide) ?_
  refine .token blank named (by decide) ?_
  refine .token blank (.name (by decide)) (by decide) ?_
  refine .token .none (.sign (by decide)) (by decide) ?_
  exact .finish (.closed .none)

theorem orders_told_by_ruleSource :
    ∃ d d',
      (((Session.new misleadingSettings).afterCalls []).planText "SELECT * FROM Orders").result =
        .ok d ∧
      (((Session.new misleadingSettings).afterCalls [.reset]).planText
        "SELECT id FROM orders AS ORDERS;").result = .ok d' ∧
      d.ruleSource misleadingSettings.query.factType =
        d'.ruleSource misleadingSettings.query.factType ∧
      d = d' := by
  have planned :
      (((Session.new misleadingSettings).afterCalls []).planText "SELECT * FROM Orders").result =
        .ok (Scheme.descriptor misleadingSettings.query (.single ⟨"Orders", none⟩)) := by
    unfold Session.planText
    rw [parse_of_writes writes_orders]
    exact plan_afterCalls ..
  have planned' :
      (((Session.new misleadingSettings).afterCalls [.reset]).planText
        "SELECT id FROM orders AS ORDERS;").result =
        .ok (Scheme.descriptor misleadingSettings.query (.single ⟨"orders", some "ORDERS"⟩)) := by
    unfold Session.planText
    rw [parse_of_writes writes_aliasedOrders]
    exact plan_afterCalls ..
  have same : (Scheme.descriptor misleadingSettings.query (.single ⟨"Orders", none⟩)).ruleSource
      misleadingSettings.query.factType =
      (Scheme.descriptor misleadingSettings.query (.single ⟨"orders", some "ORDERS"⟩)).ruleSource
        misleadingSettings.query.factType := by
    have names : (Scheme.single ⟨"Orders", none⟩).names =
        (Scheme.single ⟨"orders", some "ORDERS"⟩).names := by decide +kernel
    rw [ruleSource_descriptor, ruleSource_descriptor, Scheme.text, names]
    rfl
  exact ⟨_, _, planned, planned', same,
    plan_eq_of_ruleSource misleadingSettings [] [.reset] _ _ _ _ planned planned' same⟩

end RuleQuery.Planner
