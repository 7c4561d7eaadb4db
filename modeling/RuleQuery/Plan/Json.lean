import RuleQuery.Digest.Sha256
import RuleQuery.Json.Reader
import RuleQuery.Json.Record
import RuleQuery.Json.Writer
import RuleQuery.Plan.Validity

/-!
**Plans in JSON.**

A reference to a variable is its number. Items of the body, constraints and kinds of variables are
told apart by a tag: `item`, `type` and `kind`, which is written first. The kind of a variable stands
beside its name. `ofJson?` reads what `toJson` writes, and every other form that the conventions for
records allow. Items of the body and variables are set aside before they are read.
-/

namespace RuleQuery.Plan

open Json

/-! ### Writing -/

/-- A reference to a variable in JSON. -/
def VarId.toJson (id : VarId) : Json :=
  .int id.index

/-- The fields that tell the kind of a variable. -/
def VariableKind.fields : VariableKind → List (String × Json)
  | fact prototype => [("kind", .str "Fact"), ("prototype", .str prototype)]
  | groupKey => [("kind", .str "GroupKey")]
  | accumulate => [("kind", .str "Accumulate")]

/-- A variable in JSON. -/
def Variable.toJson (v : Variable) : Json :=
  .obj (("name", .str v.name) :: v.kind.fields)

/-- The variables of a query in JSON. -/
def Arena.toJson (arena : Arena) : Json :=
  .arr (arena.toList.map Variable.toJson)

/-- The name of a comparison. -/
def ConstraintOp.name : ConstraintOp → String
  | equal => "Equal"

/-- The fields of a join. -/
def JoinConstraint.fields (j : JoinConstraint) : List (String × Json) :=
  [("field", .str j.field), ("operator", .str j.operator.name),
    ("other_variable", j.otherVariable.toJson), ("other_field", .str j.otherField)]

/-- A join in JSON. -/
def JoinConstraint.toJson (j : JoinConstraint) : Json :=
  .obj j.fields

/-- A constraint in JSON. -/
def Constraint.toJson : Constraint → Json
  | table name => .obj [("type", .str "Table"), ("table", .str name)]
  | join comparison => .obj (("type", .str "Join") :: comparison.fields)

/-- The fields of a pattern. -/
def Pattern.fields (p : Pattern) : List (String × Json) :=
  [("variable", p.bound.toJson), ("table", .str p.table),
    ("constraints", .arr (p.constraints.map Constraint.toJson))]

/-- A pattern in JSON. -/
def Pattern.toJson (p : Pattern) : Json :=
  .obj p.fields

/-- The name of an accumulator. -/
def Accumulator.name : Accumulator → String
  | count => "Count"

/-- The fields of an aggregation. -/
def Aggregation.fields (a : Aggregation) : List (String × Json) :=
  [("source", a.source.toJson), ("group_key_field", .str a.groupKeyField),
    ("group_key_variable", a.groupKeyVariable.toJson), ("accumulator", .str a.accumulator.name),
    ("result_variable", a.resultVariable.toJson)]

/-- An aggregation in JSON. -/
def Aggregation.toJson (a : Aggregation) : Json :=
  .obj a.fields

/-- An item of a body in JSON. -/
def BodyItem.toJson : BodyItem → Json
  | pattern p => .obj (("item", .str "Pattern") :: p.fields)
  | aggregation a => .obj (("item", .str "Aggregation") :: a.fields)

/-- **A plan in JSON.** -/
def Descriptor.toJson (d : Descriptor) : Json :=
  .obj [("name", .str d.name), ("namespace", .str d.package), ("variables", d.arena.toJson),
    ("body", .arr (d.body.map BodyItem.toJson))]

/-- **The digest of a plan**, which is that of its JSON form without blanks. -/
def Descriptor.fingerprint (d : Descriptor) : String :=
  Digest.sha256 d.toJson.compact

/-! ### Reading -/

/-- The reference to a variable that a value stands for: a natural number of 64 bits. -/
def VarId.ofJson? (v : Json) : Option VarId := do
  let i ← v.int?
  if 0 ≤ i ∧ i.toNat < UInt64.size then some ⟨i.toNat⟩ else none

/-- The kind of a variable whose fields are given. Only a fact needs a prototype. -/
def VariableKind.ofFields? (fields : List (String × Json)) : Option VariableKind := do
  match ← tagAside? ["Fact", "GroupKey", "Accumulate"] (← (← field? fields "kind")) with
  | "Fact" => return .fact (← (← (← field? fields "prototype")).string?)
  | "GroupKey" => return .groupKey
  | "Accumulate" => return .accumulate
  | _ => none

/-- The variable that an object stands for. -/
def Variable.ofJson? (v : Json) : Option Variable := do
  match ← v.aside? with
  | .obj fields =>
    return ⟨← (← (← field? fields "name")).string?, ← VariableKind.ofFields? fields⟩
  | _ => none

/-- The variables that an array stands for. -/
def Arena.ofJson? (v : Json) : Option Arena := do
  return ⟨← (← v.items?).mapM Variable.ofJson?⟩

/-- The comparison with a name. -/
def ConstraintOp.ofName? : String → Option ConstraintOp
  | "Equal" => some equal
  | _ => none

/-- The join that a value stands for. -/
def JoinConstraint.ofJson? (v : Json) : Option JoinConstraint := do
  match ← v.record? ["field", "operator", "other_variable", "other_field"] with
  | [some field, some operator, some otherVariable, some otherField] =>
    return ⟨← field.string?, ← named? bareAside? ConstraintOp.ofName? operator,
      ← VarId.ofJson? otherVariable, ← otherField.string?⟩
  | _ => none

/-- The constraint that a value stands for. -/
def Constraint.ofJson? (v : Json) : Option Constraint := do
  match ← v.tagged? (tagAside? ["Table", "Join"]) "type" with
  | ("Table", held) =>
    match ← held.record? ["table"] with
    | [some name] => return .table (← name.string?)
    | _ => none
  | ("Join", held) => return .join (← JoinConstraint.ofJson? held)
  | _ => none

/-- The pattern that a value stands for. -/
def Pattern.ofJson? (v : Json) : Option Pattern := do
  match ← v.record? ["variable", "table", "constraints"] with
  | [some bound, some table, some constraints] =>
    return ⟨← VarId.ofJson? bound, ← table.string?,
      ← (← constraints.items?).mapM Constraint.ofJson?⟩
  | _ => none

/-- The accumulator with a name. -/
def Accumulator.ofName? : String → Option Accumulator
  | "Count" => some count
  | _ => none

/-- The aggregation that a value stands for. -/
def Aggregation.ofJson? (v : Json) : Option Aggregation := do
  match ← v.record? ["source", "group_key_field", "group_key_variable", "accumulator",
      "result_variable"] with
  | [some source, some field, some key, some accumulator, some result] =>
    return ⟨← Pattern.ofJson? source, ← field.string?, ← VarId.ofJson? key,
      ← named? bareAside? Accumulator.ofName? accumulator, ← VarId.ofJson? result⟩
  | _ => none

/-- The item of a body that a value stands for. -/
def BodyItem.ofJson? (v : Json) : Option BodyItem := do
  match ← (← v.aside?).tagged? string? "item" with
  | ("Pattern", held) => return .pattern (← Pattern.ofJson? held)
  | ("Aggregation", held) => return .aggregation (← Aggregation.ofJson? held)
  | _ => none

/-- **The plan that a value stands for.** -/
def Descriptor.ofJson? (v : Json) : Option Descriptor := do
  match ← v.record? ["name", "namespace", "variables", "body"] with
  | [some name, some package, some arena, some body] =>
    return ⟨← name.string?, ← package.string?, ← Arena.ofJson? arena,
      ← (← body.items?).mapM BodyItem.ofJson?⟩
  | _ => none

/-- The plan that a JSON text stands for, valid or not. -/
def Descriptor.ofJsonText? (text : String) : Option Descriptor := do
  Descriptor.ofJson? (← Json.parse text)

/-- **The valid plan that a JSON text stands for.** -/
def Descriptor.read (text : String) : Except Error Descriptor := do
  match Descriptor.ofJsonText? text with
  | none => throw .notJson
  | some d =>
    d.validate
    return d

end RuleQuery.Plan
