import RuleQuery.Json.Token
import RuleQuery.Json.Value

/-!
**Reading a JSON text.**

The reader goes through the tokens once, with a stack of the arrays and objects that are open.
`parse` gives the value of a text that holds one value and nothing else. An array or an object that
lies inside `nestingLimit` others cannot be read, nor can an object with the name of a field that
cannot.
-/

namespace RuleQuery.Json

/-- The name of a field, unless it cannot be read, with its value. -/
abbrev RawField := Option String × Json

/-- An array or an object that is open, with what it holds so far, last first. -/
inductive Frame where
  | array (items : List Json)
  | object (fields : List RawField)
  /-- An object whose next field has its name but not yet its value. -/
  | field (fields : List RawField) (name : Option String)

/-- What the reader is waiting for. -/
inductive Phase where
  /-- A value. -/
  | value
  /-- A first item or the end of the array. -/
  | firstItem
  /-- A first field or the end of the object. -/
  | firstField
  /-- The name of a field. -/
  | name
  /-- The colon after the name of a field. -/
  | colon (name : Option String)
  /-- What follows a value: nothing, a comma or a closing bracket. -/
  | done (v : Json)

/-- The state of the reader. -/
structure Reading where
  /-- What comes next. -/
  phase : Phase
  /-- The open arrays and objects, innermost first. -/
  stack : List Frame

/-- The most arrays and objects that may lie inside each other. -/
def nestingLimit : Nat := 127

/-- Fewer frames than the limit. -/
def isShallow (outer : List Frame) : Bool :=
  (outer.drop (nestingLimit - 1)).isEmpty

/-- An array that is closed inside the frames. -/
def closeArray (outer : List Frame) (items : List Json) : Json :=
  if isShallow outer then .arr items.reverse else .unreadable

/-- A field with a name that can be read. -/
def RawField.named? : RawField → Option (String × Json)
  | (some name, v) => some (name, v)
  | (none, _) => none

/-- An object that is closed inside the frames. -/
def closeObject (outer : List Frame) (fields : List RawField) : Json :=
  match fields.reverse.mapM RawField.named? with
  | some named => if isShallow outer then .obj named else .unreadable
  | none => .unreadable

/-- The value of a token that is a value by itself. -/
def Token.scalar? : Token → Option Json
  | .null => some .null
  | .bool value => some (.bool value)
  | .int value => some (.int value)
  | .real literal => some (.real literal)
  | .str text => some (.str (String.ofList text))
  | .broken | .huge => some .unreadable
  | _ => none

/-- The name of a field that a token stands for. -/
def Token.name? : Token → Option (Option String)
  | .str text => some (some (String.ofList text))
  | .broken => some none
  | _ => none

/-- The reader after a token where a value may start. -/
def startValue (stack : List Frame) (token : Token) : Option Reading :=
  match token with
  | .openArray => some ⟨.firstItem, .array [] :: stack⟩
  | .openObject => some ⟨.firstField, .object [] :: stack⟩
  | token => token.scalar?.map fun v => ⟨.done v, stack⟩

/-- The reader after a token where a field may start. -/
def startField (stack : List Frame) (token : Token) : Option Reading :=
  token.name?.map fun name => ⟨.colon name, stack⟩

/-- **The reader after one more token.** -/
def Reading.next (reading : Reading) (token : Token) : Option Reading :=
  match reading.phase, reading.stack, token with
  | .value, stack, token => startValue stack token
  | .firstItem, .array items :: stack, .closeArray => some ⟨.done (closeArray stack items), stack⟩
  | .firstItem, stack, token => startValue stack token
  | .firstField, .object fields :: stack, .closeObject =>
    some ⟨.done (closeObject stack fields), stack⟩
  | .firstField, stack, token => startField stack token
  | .name, stack, token => startField stack token
  | .colon name, .object fields :: stack, .colon => some ⟨.value, .field fields name :: stack⟩
  | .done v, .array items :: stack, .comma => some ⟨.value, .array (v :: items) :: stack⟩
  | .done v, .array items :: stack, .closeArray =>
    some ⟨.done (closeArray stack (v :: items)), stack⟩
  | .done v, .field fields name :: stack, .comma =>
    some ⟨.name, .object ((name, v) :: fields) :: stack⟩
  | .done v, .field fields name :: stack, .closeObject =>
    some ⟨.done (closeObject stack ((name, v) :: fields)), stack⟩
  | _, _, _ => none

/-- The value read, where nothing is open. -/
def Reading.result? (reading : Reading) : Option Json :=
  match reading.phase, reading.stack with
  | .done v, [] => some v
  | _, _ => none

/-- The value of the tokens. -/
def ofTokens? (tokens : List Token) : Option Json := do
  let reading ← tokens.foldlM Reading.next ⟨.value, []⟩
  reading.result?

/-- **The value of a JSON text.** -/
def parse (text : String) : Option Json := do
  let tokens ← lex text.toList
  ofTokens? tokens

end RuleQuery.Json
