import RuleQuery.Proofs.Json.RoundTrip
import RuleQuery.Sql.Json

/-!
**Statements that are written in JSON are read again.**

* `Expr.induction`: induction on expressions, with all arguments of a call at once.
* `Expr.plain`, `Source.plain` and `Select.plain`: the JSON values of expressions, sources and
  statements hold nothing but words, strings and integers of 64 bits.
* `Expr.ofJsonWithin_toJson` and `Source.ofJsonWithin_toJson`: the readers give back what was
  written, if they go as deep as the value does.
* `statements_read_back`: **every statement and every expression is read back from its JSON value,
  and from its text without blanks if the value is not too deep.**
-/

namespace RuleQuery.Sql

open Json

/-! ### Optional parts -/

section Optional

variable {α : Type} {toJson : α → Json} {decode : Json → Option α} {part : Option α}

theorem ofOption_plain (each : ∀ a ∈ part, (toJson a).Plain) : (ofOption toJson part).Plain := by
  cases part with
  | none => exact .null
  | some a => exact each a rfl

/-- **An optional part is read back**, if no value of it is null. -/
theorem optional?_ofOption (inverse : ∀ a ∈ part, toJson a ≠ .null ∧ decode (toJson a) = some a) :
    optional? decode (some (ofOption toJson part)) = some part := by
  cases part with
  | none => rfl
  | some a =>
    obtain ⟨given, read⟩ := inverse a rfl
    rw [ofOption, optional?, read]
    · rfl
    · simpa using given

end Optional

theorem optional?_ofOptionString (text : Option String) :
    optional? string? (some (ofOptionString text)) = some text :=
  optional?_ofOption fun _ _ => ⟨nofun, rfl⟩

theorem ofOptionString_plain (text : Option String) : (ofOptionString text).Plain :=
  ofOption_plain fun text _ => .str text

/-! ### Literals and columns -/

theorem Value.plain (v : Value) : v.toJson.Plain := by
  cases v with
  | int value =>
    have small : value.toInt.natAbs < UInt64.size := by
      have least := value.minValue_le_toInt
      have greatest := value.toInt_le
      rw [Int64.toInt_minValue] at least
      rw [Int64.toInt_maxValue] at greatest
      have size : UInt64.size = 2 ^ 64 := rfl
      omega
    exact .obj (by simp [Plain.int small])
  | string text => exact .obj (by simp [Plain.str])

theorem Value.ofJson?_toJson (v : Value) : Value.ofJson? v.toJson = some v := by
  cases v with
  | int value =>
    show (if Int64.minValue.toInt ≤ value.toInt ∧ value.toInt ≤ Int64.maxValue.toInt then
      some (Value.int (Int64.ofInt value.toInt)) else none) = _
    rw [if_pos ⟨value.minValue_le_toInt, value.toInt_le⟩, Int64.ofInt_toInt]
  | string text => rfl

theorem ColumnRef.plain (c : ColumnRef) : c.toJson.Plain :=
  .obj (by simp [Plain.str, ofOptionString_plain])

theorem ColumnRef.ofJson?_toJson (c : ColumnRef) : ColumnRef.ofJson? c.toJson = some c := by
  have parts : c.toJson.record? ["qualifier", "name"] =
      some [some (ofOptionString c.qualifier), some (.str c.name)] := rfl
  simp [ColumnRef.ofJson?, parts, optional?_ofOptionString, string?]

/-! ### Expressions -/

namespace Expr

/-- **Induction on expressions**, with all arguments of a call at once. -/
theorem induction {motive : Expr → Prop} (column : ∀ c, motive (.column c))
    (literal : ∀ v, motive (.literal v))
    (binary : ∀ op left right, motive left → motive right → motive (.binary op left right))
    (call : ∀ name args, (∀ arg ∈ args, motive arg) → motive (.call name args))
    (wildcard : motive .wildcard) (e : Expr) : motive e :=
  @Expr.rec motive (fun args => ∀ arg ∈ args, motive arg) column literal binary call wildcard
    (List.forall_mem_nil _)
    (fun _ _ ofFirst ofRest => List.forall_mem_cons.2 ⟨ofFirst, ofRest⟩) e

theorem listToJson_eq_map (es : List Expr) : listToJson es = es.map toJson := by
  induction es with
  | nil => rfl
  | cons e es ih => rw [listToJson, ih, List.map_cons]

/-- The JSON value of an expression is plain. -/
theorem plain (e : Expr) : e.toJson.Plain := by
  induction e using Expr.induction with
  | column c => exact .obj (by simp [c.plain])
  | literal v => exact .obj (by simp [v.plain])
  | binary op left right leftPlain rightPlain =>
    refine .obj (List.forall_mem_singleton.2 (.obj ?_))
    simp [Plain.str, leftPlain, rightPlain]
  | call name args argsPlain =>
    have list : (Json.arr (listToJson args)).Plain := by
      rw [listToJson_eq_map]
      exact .arr (List.forall_mem_map.2 argsPlain)
    refine .obj (List.forall_mem_singleton.2 (.obj ?_))
    simp [Plain.str, list]
  | wildcard => exact .str "Wildcard"

theorem toJson_ne_null (e : Expr) : e.toJson ≠ .null := by
  cases e <;> exact nofun

end Expr

theorem BinOp.named?_name (op : BinOp) : named? bare? BinOp.ofName? (.str op.name) = some op := by
  cases op <;> rfl

/-- **An expression is read back**, if the reader goes as deep as its value. -/
theorem Expr.ofJsonWithin_toJson (e : Expr) {fuel : Nat} (deep : e.toJson.depth ≤ fuel) :
    Expr.ofJsonWithin (fuel + 1) e.toJson = some e := by
  induction e using Expr.induction generalizing fuel with
  | column c =>
    have held : (Expr.column c).toJson.variant? = some ("Column", some c.toJson) := rfl
    simp [Expr.ofJsonWithin, held, c.ofJson?_toJson]
  | literal v =>
    have held : (Expr.literal v).toJson.variant? = some ("Literal", some v.toJson) := rfl
    simp [Expr.ofJsonWithin, held, v.ofJson?_toJson]
  | binary op left right ofLeft ofRight =>
    simp only [Expr.toJson, depth, depthOfFields] at deep
    obtain _ | fuel := fuel
    · omega
    have held : (Expr.binary op left right).toJson.variant? = some ("BinaryOp", some (.obj
        [("op", .str op.name), ("left", left.toJson), ("right", right.toJson)])) := rfl
    have parts : (Json.obj [("op", .str op.name), ("left", left.toJson),
        ("right", right.toJson)]).record? ["op", "left", "right"] =
        some [some (.str op.name), some left.toJson, some right.toJson] := rfl
    have leftRead : Expr.ofJsonWithin (fuel + 1) left.toJson = some left := ofLeft (by omega)
    have rightRead : Expr.ofJsonWithin (fuel + 1) right.toJson = some right := ofRight (by omega)
    rw [Expr.ofJsonWithin]
    simp [held, parts, op.named?_name, leftRead, rightRead]
  | call name args ofArgs =>
    simp only [Expr.toJson, depth, depthOfFields] at deep
    obtain _ | fuel := fuel
    · omega
    have held : (Expr.call name args).toJson.variant? = some ("FuncCall", some (.obj
        [("name", .str name), ("args", .arr (listToJson args))])) := rfl
    have parts : (Json.obj [("name", .str name), ("args", .arr (listToJson args))]).record?
        ["name", "args"] = some [some (.str name), some (.arr (listToJson args))] := rfl
    have each : ∀ v ∈ listToJson args, v.depth ≤ fuel := depthOfItems_le_iff.1 (by omega)
    have read : (listToJson args).mapM (Expr.ofJsonWithin (fuel + 1)) = some args := by
      rw [listToJson_eq_map] at each ⊢
      exact Text.mapM_map_of_inverse fun arg member =>
        ofArgs arg member (List.forall_mem_map.1 each arg member)
    rw [Expr.ofJsonWithin]
    simp [held, parts, string?, items?, read]
  | wildcard => rfl

theorem Expr.ofJson?_toJson (e : Expr) : Expr.ofJson? e.toJson = some e :=
  e.ofJsonWithin_toJson (Nat.le_refl _)

/-! ### Items and clauses -/

theorem SelectItem.plain (item : SelectItem) : item.toJson.Plain := by
  cases item with
  | wildcard => exact .str "Wildcard"
  | expr e => exact .obj (by simp [e.plain])
  | aliased e name =>
    refine .obj (List.forall_mem_singleton.2 (.obj ?_))
    simp [Plain.str, e.plain]

theorem SelectItem.ofJson?_toJson (item : SelectItem) :
    SelectItem.ofJson? item.toJson = some item := by
  cases item with
  | wildcard => rfl
  | expr e =>
    have held : (SelectItem.expr e).toJson.variant? = some ("Expr", some e.toJson) := rfl
    simp [SelectItem.ofJson?, held, e.ofJson?_toJson]
  | aliased e name =>
    have held : (SelectItem.aliased e name).toJson.variant? =
        some ("Aliased", some (.obj [("expr", e.toJson), ("alias", .str name)])) := rfl
    have parts : (Json.obj [("expr", e.toJson), ("alias", .str name)]).record? ["expr", "alias"] =
        some [some e.toJson, some (.str name)] := rfl
    simp [SelectItem.ofJson?, held, parts, string?, e.ofJson?_toJson]

theorem TableRef.plain (t : TableRef) : t.toJson.Plain :=
  .obj (by simp [Plain.str, ofOptionString_plain])

theorem TableRef.ofJson?_toJson (t : TableRef) : TableRef.ofJson? t.toJson = some t := by
  have parts : t.toJson.record? ["name", "alias"] =
      some [some (.str t.name), some (ofOptionString t.aliasName)] := rfl
  simp [TableRef.ofJson?, parts, optional?_ofOptionString, string?]

theorem OrderItem.plain (item : OrderItem) : item.toJson.Plain :=
  .obj (by simp [Plain.bool, item.expr.plain])

theorem OrderItem.ofJson?_toJson (item : OrderItem) :
    OrderItem.ofJson? item.toJson = some item := by
  have parts : item.toJson.record? ["expr", "desc"] =
      some [some item.expr.toJson, some (.bool item.desc)] := rfl
  simp [OrderItem.ofJson?, parts, bool?, item.expr.ofJson?_toJson]

theorem Expr.listOfJson?_toJson (es : List Expr) :
    Expr.listOfJson? (.arr (es.map Expr.toJson)) = some es := by
  have read : (es.map Expr.toJson).mapM Expr.ofJson? = some es :=
    Text.mapM_map_of_inverse fun e _ => e.ofJson?_toJson
  simp [Expr.listOfJson?, items?, read]

/-! ### Sources and statements -/

section Parts

variable {projection : List SelectItem} {source : Source} {selection : Option Expr}
  {groupBy : Option (List Expr)} {orderBy : List OrderItem}

theorem partsToJson_plain (sourcePlain : source.toJson.Plain) :
    (partsToJson projection source.toJson selection groupBy orderBy).Plain := by
  have items : (Json.arr (projection.map SelectItem.toJson)).Plain :=
    .arr (List.forall_mem_map.2 fun item _ => item.plain)
  have condition : (ofOption Expr.toJson selection).Plain := ofOption_plain fun e _ => e.plain
  have keys : (ofOption (fun keys => Json.arr (keys.map Expr.toJson)) groupBy).Plain :=
    ofOption_plain fun keys _ => .arr (List.forall_mem_map.2 fun e _ => e.plain)
  have order : (Json.arr (orderBy.map OrderItem.toJson)).Plain :=
    .arr (List.forall_mem_map.2 fun item _ => item.plain)
  exact .obj (by simp [items, sourcePlain, condition, keys, order])

/-- **A statement is read back from its parts**, if its source is. -/
theorem Select.ofJsonWithin_parts {fuel : Nat}
    (sourceRead : Source.ofJsonWithin fuel source.toJson = some source) :
    Select.ofJsonWithin (fuel + 1)
        (partsToJson projection source.toJson selection groupBy orderBy) =
      some ⟨projection, source, selection, groupBy, orderBy⟩ := by
  have parts : (partsToJson projection source.toJson selection groupBy orderBy).record?
      ["projection", "from", "selection", "group_by", "order_by"] =
      some [some (.arr (projection.map SelectItem.toJson)), some source.toJson,
        some (ofOption Expr.toJson selection),
        some (ofOption (fun keys => .arr (keys.map Expr.toJson)) groupBy),
        some (.arr (orderBy.map OrderItem.toJson))] := rfl
  have items : (projection.map SelectItem.toJson).mapM SelectItem.ofJson? = some projection :=
    Text.mapM_map_of_inverse fun item _ => item.ofJson?_toJson
  have condition :
      optional? Expr.ofJson? (some (ofOption Expr.toJson selection)) = some selection :=
    optional?_ofOption fun e _ => ⟨e.toJson_ne_null, e.ofJson?_toJson⟩
  have keys : optional? Expr.listOfJson?
      (some (ofOption (fun keys => .arr (keys.map Expr.toJson)) groupBy)) = some groupBy :=
    optional?_ofOption fun keys _ => ⟨nofun, Expr.listOfJson?_toJson keys⟩
  have order : (orderBy.map OrderItem.toJson).mapM OrderItem.ofJson? = some orderBy :=
    Text.mapM_map_of_inverse fun item _ => item.ofJson?_toJson
  rw [Select.ofJsonWithin]
  simp [parts, items?, items, sourceRead, condition, keys, order]

end Parts

theorem JoinKind.named?_name (kind : JoinKind) :
    named? bare? JoinKind.ofName? (.str kind.name) = some kind := by
  cases kind <;> rfl

/-- The JSON value of a source is plain. -/
theorem Source.plain (source : Source) : source.toJson.Plain := by
  induction source with
  | relation t => exact .obj (by simp [t.plain])
  | join kind left right condition leftPlain rightPlain =>
    have conditionPlain : (ofOption Expr.toJson condition).Plain :=
      ofOption_plain fun e _ => e.plain
    refine .obj (List.forall_mem_singleton.2 (.obj ?_))
    simp [Plain.str, leftPlain, rightPlain, conditionPlain]
  | subquery projection source selection groupBy orderBy aliasName sourcePlain =>
    refine .obj (List.forall_mem_singleton.2 (.obj ?_))
    simp [Plain.str, partsToJson_plain sourcePlain]

/-- **A source is read back**, if the reader goes as deep as its value. -/
theorem Source.ofJsonWithin_toJson (source : Source) {fuel : Nat}
    (deep : source.toJson.depth ≤ fuel) :
    Source.ofJsonWithin (fuel + 1) source.toJson = some source := by
  induction source generalizing fuel with
  | relation t =>
    have held : (Source.relation t).toJson.variant? = some ("Relation", some t.toJson) := rfl
    simp [Source.ofJsonWithin, held, t.ofJson?_toJson]
  | join kind left right condition ofLeft ofRight =>
    simp only [Source.toJson, depth, depthOfFields] at deep
    obtain _ | fuel := fuel
    · omega
    have held : (Source.join kind left right condition).toJson.variant? = some ("Join", some (.obj
        [("kind", .str kind.name), ("left", left.toJson), ("right", right.toJson),
          ("condition", ofOption Expr.toJson condition)])) := rfl
    have parts : (Json.obj [("kind", .str kind.name), ("left", left.toJson),
        ("right", right.toJson), ("condition", ofOption Expr.toJson condition)]).record?
          ["kind", "left", "right", "condition"] =
        some [some (.str kind.name), some left.toJson, some right.toJson,
          some (ofOption Expr.toJson condition)] := rfl
    have leftRead : Source.ofJsonWithin (fuel + 1) left.toJson = some left := ofLeft (by omega)
    have rightRead : Source.ofJsonWithin (fuel + 1) right.toJson = some right := ofRight (by omega)
    have conditionRead : optional? Expr.ofJson? (some (ofOption Expr.toJson condition)) =
        some condition := optional?_ofOption fun e _ => ⟨e.toJson_ne_null, e.ofJson?_toJson⟩
    rw [Source.ofJsonWithin]
    simp [held, parts, kind.named?_name, leftRead, rightRead, conditionRead]
  | subquery projection source selection groupBy orderBy aliasName ofSource =>
    simp only [Source.toJson, partsToJson, depth, depthOfFields] at deep
    -- The source of a subquery is two levels below it, in its statement.
    obtain _ | _ | fuel := fuel
    · omega
    · omega
    have held : (Source.subquery projection source selection groupBy orderBy
        aliasName).toJson.variant? = some ("Subquery", some (.obj
        [("select", partsToJson projection source.toJson selection groupBy orderBy),
          ("alias", .str aliasName)])) := rfl
    have parts : (Json.obj
        [("select", partsToJson projection source.toJson selection groupBy orderBy),
          ("alias", .str aliasName)]).record? ["select", "alias"] =
        some [some (partsToJson projection source.toJson selection groupBy orderBy),
          some (.str aliasName)] := rfl
    have sourceRead : Source.ofJsonWithin (fuel + 1) source.toJson = some source :=
      ofSource (by omega)
    have selectRead : Select.ofJsonWithin (fuel + 2)
        (partsToJson projection source.toJson selection groupBy orderBy) =
        some ⟨projection, source, selection, groupBy, orderBy⟩ :=
      Select.ofJsonWithin_parts sourceRead
    rw [Source.ofJsonWithin]
    simp [held, parts, string?, selectRead, Select.asSource]

theorem Select.plain (s : Select) : s.toJson.Plain :=
  partsToJson_plain s.source.plain

theorem Select.ofJson?_toJson (s : Select) : Select.ofJson? s.toJson = some s := by
  have deep : s.source.toJson.depth + 1 ≤ s.toJson.depth := by
    simp only [Select.toJson, partsToJson, depth, depthOfFields]
    omega
  have sourceRead : Source.ofJsonWithin s.toJson.depth s.source.toJson = some s.source := by
    obtain ⟨fuel, positive⟩ : ∃ fuel, s.toJson.depth = fuel + 1 :=
      Nat.exists_eq_add_one.2 (by omega)
    rw [positive] at deep ⊢
    exact s.source.ofJsonWithin_toJson (Nat.le_of_succ_le_succ deep)
  exact Select.ofJsonWithin_parts sourceRead

/-- **Statements and expressions are read back.** From the JSON value every one of them is, and from
its text without blanks if the value is not too deep. -/
theorem statements_read_back :
    (∀ s : Select, Select.ofJson? s.toJson = some s ∧
      (s.toJson.depth ≤ nestingLimit → Select.ofJsonText? s.toJson.compact = some s)) ∧
    ∀ e : Expr, Expr.ofJson? e.toJson = some e ∧
      (e.toJson.depth ≤ nestingLimit →
        (Json.parse e.toJson.compact).bind Expr.ofJson? = some e) := by
  refine ⟨fun s => ⟨s.ofJson?_toJson, fun fits => ?_⟩, fun e => ⟨e.ofJson?_toJson, fun fits => ?_⟩⟩
  · simp [Select.ofJsonText?, parse_compact s.plain fits, s.ofJson?_toJson]
  · simp [parse_compact e.plain fits, e.ofJson?_toJson]

/-- A statement with all kinds of sources, empty names, the least integer and signs that JSON
escapes. -/
def extremeStatement : Select where
  projection := [.expr (.call "COUNT" [.wildcard]), .aliased (.literal (.string "\"\\\u0000")) ""]
  source := .join .left (.relation ⟨"null", none⟩)
    (.subquery [.wildcard] (.relation ⟨"δ", some "😀"⟩) none (some [])
      [⟨.literal (.int Int64.minValue), true⟩] "s")
    (some (.binary .ne (.column ⟨none, "x"⟩) (.column ⟨some "", "y"⟩)))
  selection := some .wildcard
  groupBy := none
  orderBy := []

theorem extremeStatement_read_back :
    Select.ofJsonText? extremeStatement.toJson.compact = some extremeStatement ∧
      (Json.parse (Expr.call "COUNT" [.wildcard]).toJson.compact).bind Expr.ofJson? =
        some (.call "COUNT" [.wildcard]) :=
  ⟨(statements_read_back.1 extremeStatement).2 (by decide),
    (statements_read_back.2 (.call "COUNT" [.wildcard])).2 (by decide)⟩

end RuleQuery.Sql
