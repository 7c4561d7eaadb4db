import RuleQuery.Plan.Json
import RuleQuery.Proofs.Json.RoundTrip

/-!
**Plans that are written in JSON are read again.**

* `Descriptor.references`: all references to variables in a plan.
* `Descriptor.ofJson?_toJson`: the JSON value of a plan stands for the plan, if its references are
  numbers of 64 bits.
* `Descriptor.within`: this value is plain and few levels deep, so that it is read back from its text.
* `descriptor_read_back`: **a plan is read back from both of its texts**, whether it is valid or not.
-/

namespace RuleQuery.Plan

open Json

/-! ### References of 64 bits -/

/-- The references to variables in a constraint. -/
def Constraint.references : Constraint → List VarId
  | table _ => []
  | join comparison => [comparison.otherVariable]

/-- The references to variables in a pattern. -/
def Pattern.references (p : Pattern) : List VarId :=
  p.bound :: p.constraints.flatMap Constraint.references

/-- The references to variables in an item of a body. -/
def BodyItem.references : BodyItem → List VarId
  | pattern p => p.references
  | aggregation a => a.source.references ++ [a.groupKeyVariable, a.resultVariable]

/-- **All references to variables in a plan.** -/
def Descriptor.references (d : Descriptor) : List VarId :=
  d.body.flatMap BodyItem.references

/-- The references are numbers of 64 bits. -/
def Addressable (ids : List VarId) : Prop :=
  ∀ id ∈ ids, id.index < UInt64.size

instance (ids : List VarId) : Decidable (Addressable ids) :=
  inferInstanceAs (Decidable (∀ id ∈ ids, id.index < UInt64.size))

theorem addressable_cons {id : VarId} {ids : List VarId} :
    Addressable (id :: ids) ↔ id.index < UInt64.size ∧ Addressable ids :=
  List.forall_mem_cons

theorem addressable_append {first second : List VarId} :
    Addressable (first ++ second) ↔ Addressable first ∧ Addressable second :=
  List.forall_mem_append

theorem addressable_flatMap {α : Type} {references : α → List VarId} {as : List α} :
    Addressable (as.flatMap references) ↔ ∀ a ∈ as, Addressable (references a) := by
  simp only [Addressable, List.mem_flatMap]
  grind

/-! ### Variables -/

theorem VarId.ofJson?_toJson {id : VarId} (small : id.index < UInt64.size) :
    VarId.ofJson? id.toJson = some id := by
  have inRange : (0 : Int) ≤ id.index ∧ (id.index : Int).toNat < UInt64.size := by omega
  have value : id.toJson.int? = some (id.index : Int) := rfl
  rw [VarId.ofJson?, value, Option.bind_eq_bind, Option.bind_some, if_pos inRange, Int.toNat_natCast]

theorem VarId.within {id : VarId} (small : id.index < UInt64.size) (room : Nat) :
    id.toJson.PlainWithin room :=
  .int small

theorem Variable.within (v : Variable) : v.toJson.PlainWithin 1 := by
  apply PlainWithin.obj
  cases kind : v.kind <;> simp [VariableKind.fields, PlainWithin.str]

theorem Variable.ofJson?_toJson (v : Variable) : Variable.ofJson? v.toJson = some v := by
  rw [Variable.ofJson?, v.within.aside?_eq]
  obtain ⟨name, kind⟩ := v
  cases kind <;> rfl

theorem Arena.within (arena : Arena) : arena.toJson.PlainWithin 2 :=
  .arr (List.forall_mem_map.2 fun v _ => v.within)

theorem Arena.ofJson?_toJson (arena : Arena) : Arena.ofJson? arena.toJson = some arena := by
  have each : (arena.toList.map Variable.toJson).mapM Variable.ofJson? = some arena.toList :=
    Text.mapM_map_of_inverse fun v _ => v.ofJson?_toJson
  simp [Arena.ofJson?, Arena.toJson, items?, each]

/-! ### Patterns -/

theorem JoinConstraint.ofJson?_toJson {j : JoinConstraint}
    (small : j.otherVariable.index < UInt64.size) :
    JoinConstraint.ofJson? j.toJson = some j := by
  have parts : j.toJson.record? ["field", "operator", "other_variable", "other_field"] =
      some [some (.str j.field), some (.str j.operator.name), some j.otherVariable.toJson,
        some (.str j.otherField)] := rfl
  have operator : named? bareAside? ConstraintOp.ofName? (.str j.operator.name) = some j.operator := by
    cases j.operator
    rfl
  have other := VarId.ofJson?_toJson small
  simp [JoinConstraint.ofJson?, parts, operator, string?, other]

theorem Constraint.ofJson?_toJson {c : Constraint} (addressable : Addressable c.references) :
    Constraint.ofJson? c.toJson = some c := by
  cases c with
  | table name => rfl
  | join comparison =>
    have tag : (Constraint.join comparison).toJson.tagged? (tagAside? ["Table", "Join"]) "type" =
        some ("Join", comparison.toJson) := rfl
    have read := JoinConstraint.ofJson?_toJson (addressable_cons.1 addressable).1
    simp [Constraint.ofJson?, tag, read]

theorem Constraint.within {c : Constraint} (addressable : Addressable c.references) :
    c.toJson.PlainWithin 1 := by
  cases c with
  | table name => exact .obj (by simp [PlainWithin.str])
  | join comparison =>
    have small := (addressable_cons.1 addressable).1
    exact .obj (by simp [JoinConstraint.fields, PlainWithin.str, VarId.within small])

theorem Pattern.ofJson?_toJson {p : Pattern} (addressable : Addressable p.references) :
    Pattern.ofJson? p.toJson = some p := by
  obtain ⟨small, inConstraints⟩ := addressable_cons.1 addressable
  have parts : p.toJson.record? ["variable", "table", "constraints"] =
      some [some p.bound.toJson, some (.str p.table),
        some (.arr (p.constraints.map Constraint.toJson))] := rfl
  have each : (p.constraints.map Constraint.toJson).mapM Constraint.ofJson? = some p.constraints :=
    Text.mapM_map_of_inverse fun c member =>
      c.ofJson?_toJson (addressable_flatMap.1 inConstraints c member)
  have bound := VarId.ofJson?_toJson small
  simp [Pattern.ofJson?, parts, string?, items?, bound, each]

theorem Pattern.within_fields {p : Pattern} (addressable : Addressable p.references) :
    ∀ field ∈ p.fields, field.2.PlainWithin 2 := by
  obtain ⟨small, inConstraints⟩ := addressable_cons.1 addressable
  have constraints : (Json.arr (p.constraints.map Constraint.toJson)).PlainWithin 2 :=
    .arr (List.forall_mem_map.2 fun c member =>
      c.within (addressable_flatMap.1 inConstraints c member))
  simp [Pattern.fields, PlainWithin.str, VarId.within small, constraints]

/-! ### Items of bodies -/

theorem Aggregation.ofJson?_toJson {a : Aggregation} (source : Addressable a.source.references)
    (key : a.groupKeyVariable.index < UInt64.size) (result : a.resultVariable.index < UInt64.size) :
    Aggregation.ofJson? a.toJson = some a := by
  have parts : a.toJson.record? ["source", "group_key_field", "group_key_variable", "accumulator",
      "result_variable"] =
      some [some a.source.toJson, some (.str a.groupKeyField), some a.groupKeyVariable.toJson,
        some (.str a.accumulator.name), some a.resultVariable.toJson] := rfl
  have accumulator : named? bareAside? Accumulator.ofName? (.str a.accumulator.name) =
      some a.accumulator := by
    cases a.accumulator
    rfl
  have pattern := Pattern.ofJson?_toJson source
  have groupKey := VarId.ofJson?_toJson key
  have accumulated := VarId.ofJson?_toJson result
  simp [Aggregation.ofJson?, parts, accumulator, string?, pattern, groupKey, accumulated]

theorem Aggregation.within_fields {a : Aggregation} (source : Addressable a.source.references)
    (key : a.groupKeyVariable.index < UInt64.size) (result : a.resultVariable.index < UInt64.size) :
    ∀ field ∈ a.fields, field.2.PlainWithin 3 := by
  have pattern : a.source.toJson.PlainWithin 3 := .obj (Pattern.within_fields source)
  simp [Aggregation.fields, PlainWithin.str, VarId.within key, VarId.within result, pattern]

/-- The references of an aggregation, one by one. -/
theorem addressable_aggregation {a : Aggregation} :
    Addressable (BodyItem.aggregation a).references ↔ Addressable a.source.references ∧
      a.groupKeyVariable.index < UInt64.size ∧ a.resultVariable.index < UInt64.size := by
  rw [BodyItem.references, addressable_append]
  simp [Addressable]

theorem BodyItem.within {item : BodyItem} (addressable : Addressable item.references) :
    item.toJson.PlainWithin 4 := by
  cases item with
  | pattern p =>
    refine .obj (List.forall_mem_cons.2 ⟨.str "Pattern", fun field member => ?_⟩)
    exact (Pattern.within_fields addressable field member).mono (by decide)
  | aggregation a =>
    obtain ⟨source, key, result⟩ := addressable_aggregation.1 addressable
    exact .obj (List.forall_mem_cons.2
      ⟨.str "Aggregation", Aggregation.within_fields source key result⟩)

theorem BodyItem.ofJson?_toJson {item : BodyItem} (addressable : Addressable item.references) :
    BodyItem.ofJson? item.toJson = some item := by
  rw [BodyItem.ofJson?, (BodyItem.within addressable).aside?_eq]
  cases item with
  | pattern p =>
    have tag : (BodyItem.pattern p).toJson.tagged? string? "item" = some ("Pattern", p.toJson) := rfl
    have read := Pattern.ofJson?_toJson addressable
    simp [tag, read]
  | aggregation a =>
    obtain ⟨source, key, result⟩ := addressable_aggregation.1 addressable
    have tag : (BodyItem.aggregation a).toJson.tagged? string? "item" =
        some ("Aggregation", a.toJson) := rfl
    have read := Aggregation.ofJson?_toJson source key result
    simp [tag, read]

/-! ### Plans -/

section Plans

variable {d : Descriptor}

theorem Descriptor.ofJson?_toJson (addressable : Addressable d.references) :
    Descriptor.ofJson? d.toJson = some d := by
  have parts : d.toJson.record? ["name", "namespace", "variables", "body"] =
      some [some (.str d.name), some (.str d.package), some d.arena.toJson,
        some (.arr (d.body.map BodyItem.toJson))] := rfl
  have each : (d.body.map BodyItem.toJson).mapM BodyItem.ofJson? = some d.body :=
    Text.mapM_map_of_inverse fun item member =>
      item.ofJson?_toJson (addressable_flatMap.1 addressable item member)
  simp [Descriptor.ofJson?, parts, string?, items?, d.arena.ofJson?_toJson, each]

theorem Descriptor.within (addressable : Addressable d.references) : d.toJson.PlainWithin 6 := by
  have arena : d.arena.toJson.PlainWithin 5 := d.arena.within.mono (by decide)
  have body : (Json.arr (d.body.map BodyItem.toJson)).PlainWithin 5 :=
    .arr (List.forall_mem_map.2 fun item member =>
      item.within (addressable_flatMap.1 addressable item member))
  apply PlainWithin.obj
  simp [PlainWithin.str, arena, body]

/-- A text of the JSON value of a plan is read as the plan. -/
theorem Descriptor.ofJsonText?_of_parse {text : String} (parsed : Json.parse text = some d.toJson)
    (addressable : Addressable d.references) : Descriptor.ofJsonText? text = some d := by
  simp [Descriptor.ofJsonText?, parsed, Descriptor.ofJson?_toJson addressable]

end Plans

/-- **A plan is read back from both of its texts**, valid or not; so the text in lines gives the plan
if it is valid, and the fault of the plan if it is not. -/
theorem descriptor_read_back (d : Descriptor) (addressable : Addressable d.references) :
    Descriptor.ofJsonText? d.toJson.compact = some d ∧
      Descriptor.ofJsonText? d.toJson.pretty = some d ∧
      (d.validate = .ok () → Descriptor.read d.toJson.pretty = .ok d) ∧
      ∀ fault, d.validate = .error fault → Descriptor.read d.toJson.pretty = .error fault := by
  have within := Descriptor.within addressable
  have fits : d.toJson.depth ≤ nestingLimit := Nat.le_trans within.shallow (by decide)
  have compact := Descriptor.ofJsonText?_of_parse (parse_compact within.plain fits) addressable
  have pretty := Descriptor.ofJsonText?_of_parse (parse_pretty within.plain fits) addressable
  have read : Descriptor.read d.toJson.pretty = d.validate >>= fun _ => .ok d := by
    rw [Descriptor.read, pretty]
    rfl
  refine ⟨compact, pretty, fun valid => ?_, fun fault invalid => ?_⟩
  · rw [read, valid]
    rfl
  · rw [read, invalid]
    rfl

/-- A plan with quotes and control characters in its texts and the largest reference, where two
variables have one name. -/
def awkwardPlan : Descriptor where
  name := "\"quoted\"\\\u0000\u001f\x7f"
  package := "δ\n\r\t😀"
  arena := ⟨[⟨"", .fact "\u0008\u000c"⟩, ⟨"key", .groupKey⟩, ⟨"key", .accumulate⟩]⟩
  body := [.pattern ⟨⟨0xFFFFFFFFFFFFFFFF⟩, "events", [.join ⟨"id", .equal, ⟨0⟩, "/"⟩, .table "events"]⟩,
    .aggregation ⟨⟨⟨0⟩, "\x7b\x7d", []⟩, "user", ⟨1⟩, .count, ⟨2⟩⟩]

theorem awkwardPlan_read_back :
    Descriptor.ofJsonText? awkwardPlan.toJson.compact = some awkwardPlan ∧
      Descriptor.read awkwardPlan.toJson.pretty =
        .error (.invalidBody (.repeatedName "key")) := by
  obtain ⟨compact, -, -, faulty⟩ := descriptor_read_back awkwardPlan (by decide)
  exact ⟨compact, faulty _ rfl⟩

end RuleQuery.Plan
