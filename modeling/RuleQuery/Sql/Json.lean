import RuleQuery.Json.Reader
import RuleQuery.Json.Record
import RuleQuery.Json.Writer
import RuleQuery.Sql.Select

/-!
**Statements and expressions in JSON.**

`toJson` writes a record as an object with its parts in the order of their declaration, and a choice
by the name of its variant. `ofJson?` reads what `toJson` writes, and every other form that the
conventions for records and variants allow. The readers of recursive types go no deeper than the
value does.
-/

namespace RuleQuery.Sql

open Json

/-! ### Names of variants -/

/-- The name of an operator. -/
def BinOp.name : BinOp → String
  | eq => "Eq"
  | ne => "Ne"
  | lt => "Lt"
  | le => "Le"
  | gt => "Gt"
  | ge => "Ge"
  | and => "And"
  | or => "Or"

/-- The operator with a name. -/
def BinOp.ofName? : String → Option BinOp
  | "Eq" => some eq
  | "Ne" => some ne
  | "Lt" => some lt
  | "Le" => some le
  | "Gt" => some gt
  | "Ge" => some ge
  | "And" => some and
  | "Or" => some or
  | _ => none

/-- The name of a kind of join. -/
def JoinKind.name : JoinKind → String
  | inner => "Inner"
  | left => "Left"
  | right => "Right"
  | full => "Full"
  | cross => "Cross"
  | comma => "Comma"

/-- The kind of join with a name. -/
def JoinKind.ofName? : String → Option JoinKind
  | "Inner" => some inner
  | "Left" => some left
  | "Right" => some right
  | "Full" => some full
  | "Cross" => some cross
  | "Comma" => some comma
  | _ => none

/-! ### Writing -/

/-- A literal in JSON. -/
def Value.toJson : Value → Json
  | int value => .obj [("Int", .int value.toInt)]
  | string text => .obj [("String", .str text)]

/-- A column in JSON. -/
def ColumnRef.toJson (c : ColumnRef) : Json :=
  .obj [("qualifier", ofOptionString c.qualifier), ("name", .str c.name)]

mutual

/-- **An expression in JSON.** -/
def Expr.toJson : Expr → Json
  | column c => .obj [("Column", c.toJson)]
  | literal v => .obj [("Literal", v.toJson)]
  | binary op left right =>
    .obj [("BinaryOp",
      .obj [("op", .str op.name), ("left", left.toJson), ("right", right.toJson)])]
  | call name args =>
    .obj [("FuncCall", .obj [("name", .str name), ("args", .arr (Expr.listToJson args))])]
  | wildcard => .str "Wildcard"

/-- Expressions in JSON. -/
def Expr.listToJson : List Expr → List Json
  | [] => []
  | e :: rest => e.toJson :: Expr.listToJson rest

end

/-- An item of a projection in JSON. -/
def SelectItem.toJson : SelectItem → Json
  | wildcard => .str "Wildcard"
  | expr e => .obj [("Expr", e.toJson)]
  | aliased e name => .obj [("Aliased", .obj [("expr", e.toJson), ("alias", .str name)])]

/-- A table in JSON. -/
def TableRef.toJson (t : TableRef) : Json :=
  .obj [("name", .str t.name), ("alias", ofOptionString t.aliasName)]

/-- An item of an ordering in JSON. -/
def OrderItem.toJson (o : OrderItem) : Json :=
  .obj [("expr", o.expr.toJson), ("desc", .bool o.desc)]

/-- The parts of a statement in JSON, its source already in JSON. -/
def partsToJson (projection : List SelectItem) (source : Json) (selection : Option Expr)
    (groupBy : Option (List Expr)) (orderBy : List OrderItem) : Json :=
  .obj [("projection", .arr (projection.map SelectItem.toJson)),
    ("from", source),
    ("selection", ofOption Expr.toJson selection),
    ("group_by", ofOption (fun keys => .arr (keys.map Expr.toJson)) groupBy),
    ("order_by", .arr (orderBy.map OrderItem.toJson))]

/-- **A source in JSON.** -/
def Source.toJson : Source → Json
  | relation t => .obj [("Relation", t.toJson)]
  | join kind left right condition =>
    .obj [("Join",
      .obj [("kind", .str kind.name), ("left", left.toJson), ("right", right.toJson),
        ("condition", ofOption Expr.toJson condition)])]
  | subquery projection source selection groupBy orderBy aliasName =>
    .obj [("Subquery",
      .obj [("select", partsToJson projection source.toJson selection groupBy orderBy),
        ("alias", .str aliasName)])]

/-- **A statement in JSON.** -/
def Select.toJson (s : Select) : Json :=
  partsToJson s.projection s.source.toJson s.selection s.groupBy s.orderBy

/-! ### Reading -/

/-- The literal that a value stands for. -/
def Value.ofJson? (v : Json) : Option Value := do
  match ← v.variant? with
  | ("Int", some held) =>
    let i ← held.int?
    if Int64.minValue.toInt ≤ i ∧ i ≤ Int64.maxValue.toInt then some (.int (Int64.ofInt i))
    else none
  | ("String", some held) => held.string?.map .string
  | _ => none

/-- The column that a value stands for. -/
def ColumnRef.ofJson? (v : Json) : Option ColumnRef := do
  match ← v.record? ["qualifier", "name"] with
  | [qualifier, some name] => return ⟨← optional? string? qualifier, ← name.string?⟩
  | _ => none

/-- The expression that a value stands for, no deeper than the fuel. -/
def Expr.ofJsonWithin : Nat → Json → Option Expr
  | 0, _ => none
  | fuel + 1, v => do
    match ← v.variant? with
    | ("Column", some held) => (ColumnRef.ofJson? held).map .column
    | ("Literal", some held) => (Value.ofJson? held).map .literal
    | ("BinaryOp", some held) =>
      match ← held.record? ["op", "left", "right"] with
      | [some op, some left, some right] =>
        return .binary (← named? bare? BinOp.ofName? op) (← ofJsonWithin fuel left)
          (← ofJsonWithin fuel right)
      | _ => none
    | ("FuncCall", some held) =>
      match ← held.record? ["name", "args"] with
      | [some name, some args] =>
        return .call (← name.string?) (← (← args.items?).mapM (ofJsonWithin fuel))
      | _ => none
    | ("Wildcard", held) =>
      bare? held
      return .wildcard
    | _ => none

/-- **The expression that a value stands for.** -/
def Expr.ofJson? (v : Json) : Option Expr :=
  Expr.ofJsonWithin (v.depth + 1) v

/-- The item of a projection that a value stands for. -/
def SelectItem.ofJson? (v : Json) : Option SelectItem := do
  match ← v.variant? with
  | ("Wildcard", held) =>
    bare? held
    return .wildcard
  | ("Expr", some held) => (Expr.ofJson? held).map .expr
  | ("Aliased", some held) =>
    match ← held.record? ["expr", "alias"] with
    | [some e, some name] => return .aliased (← Expr.ofJson? e) (← name.string?)
    | _ => none
  | _ => none

/-- The table that a value stands for. -/
def TableRef.ofJson? (v : Json) : Option TableRef := do
  match ← v.record? ["name", "alias"] with
  | [some name, aliasName] => return ⟨← name.string?, ← optional? string? aliasName⟩
  | _ => none

/-- The item of an ordering that a value stands for. -/
def OrderItem.ofJson? (v : Json) : Option OrderItem := do
  match ← v.record? ["expr", "desc"] with
  | [some e, some desc] => return ⟨← Expr.ofJson? e, ← desc.bool?⟩
  | _ => none

/-- The expressions of an array. -/
def Expr.listOfJson? (v : Json) : Option (List Expr) := do
  (← v.items?).mapM Expr.ofJson?

mutual

/-- The statement that a value stands for, no deeper than the fuel. -/
def Select.ofJsonWithin : Nat → Json → Option Select
  | 0, _ => none
  | fuel + 1, v => do
    match ← v.record? ["projection", "from", "selection", "group_by", "order_by"] with
    | [some projection, some source, selection, groupBy, some orderBy] =>
      return {
        projection := ← (← projection.items?).mapM SelectItem.ofJson?
        source := ← Source.ofJsonWithin fuel source
        selection := ← optional? Expr.ofJson? selection
        groupBy := ← optional? Expr.listOfJson? groupBy
        orderBy := ← (← orderBy.items?).mapM OrderItem.ofJson? }
    | _ => none

/-- The source that a value stands for, no deeper than the fuel. -/
def Source.ofJsonWithin : Nat → Json → Option Source
  | 0, _ => none
  | fuel + 1, v => do
    match ← v.variant? with
    | ("Relation", some held) => (TableRef.ofJson? held).map .relation
    | ("Join", some held) =>
      match ← held.record? ["kind", "left", "right", "condition"] with
      | [some kind, some left, some right, condition] =>
        return .join (← named? bare? JoinKind.ofName? kind) (← Source.ofJsonWithin fuel left)
          (← Source.ofJsonWithin fuel right) (← optional? Expr.ofJson? condition)
      | _ => none
    | ("Subquery", some held) =>
      match ← held.record? ["select", "alias"] with
      | [some select, some aliasName] =>
        return (← Select.ofJsonWithin fuel select).asSource (← aliasName.string?)
      | _ => none
    | _ => none

end

/-- **The statement that a value stands for.** -/
def Select.ofJson? (v : Json) : Option Select :=
  Select.ofJsonWithin (v.depth + 1) v

/-- The statement that a JSON text stands for. -/
def Select.ofJsonText? (text : String) : Option Select := do
  Select.ofJson? (← Json.parse text)

end RuleQuery.Sql
