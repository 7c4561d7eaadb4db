import RuleQuery.Json.Value

/-!
**Conventions for records and variants in JSON.**

A record is an object with one field for each of its parts, in any order, where other fields do not
matter and no part occurs twice; or it is an array of exactly its parts. A variant of a choice is its
name, or an object whose only field has its name and holds what belongs to the variant. A choice
between records may also be told by a tag among the parts.

To find such a tag, a value is set aside before it is read. Then all of it has to be readable, other
fields included. A tag inside a value set aside may stand by its place among the tags, and a variant
that holds nothing may hold an empty object.
-/

namespace RuleQuery.Json

/-! ### Plain values -/

/-- The text of a string. -/
def string? : Json → Option String
  | str text => some text
  | _ => none

/-- A truth value. -/
def bool? : Json → Option Bool
  | bool value => some value
  | _ => none

/-- A number written as an integer. -/
def int? : Json → Option Int
  | int value => some value
  | _ => none

/-- The items of an array. -/
def items? : Json → Option (List Json)
  | arr items => some items
  | _ => none

/-! ### Records -/

/-- The only field with a name, or none; a repeated field is an error. -/
def field? (fields : List (String × Json)) (name : String) : Option (Option Json) :=
  match fields.filter (·.1 == name) with
  | [] => some none
  | [(_, v)] => some (some v)
  | _ => none

/-- **The parts of a record in the order of their names**, each with its value if it is there. -/
def record? (names : List String) : Json → Option (List (Option Json))
  | arr items => if items.length = names.length then some (items.map some) else none
  | obj fields => names.mapM (field? fields)
  | _ => none

/-- A part that may be left out or null. -/
def optional? {α : Type} (decode : Json → Option α) : Option Json → Option (Option α)
  | none | some null => some none
  | some v => (decode v).map some

/-! ### Variants -/

/-- **The name of a variant and what it holds.** -/
def variant? : Json → Option (String × Option Json)
  | str name => some (name, none)
  | obj [(name, v)] => some (name, some v)
  | _ => none

/-- A variant that holds nothing: its name alone, or with null. -/
def bare? : Option Json → Option Unit
  | none | some null => some ()
  | _ => none

/-- A variant that holds nothing, in a value set aside: its name alone, with null or with an empty
object. -/
def bareAside? : Option Json → Option Unit
  | some (obj []) => some ()
  | held => bare? held

/-- A choice without contents, by the name of its variant. -/
def named? {α : Type} (nothing? : Option Json → Option Unit) (ofName? : String → Option α) (v : Json) :
    Option α := do
  let (name, held) ← v.variant?
  nothing? held
  ofName? name

/-! ### Tagged records -/

/-- The value, if it can be set aside. -/
def aside? (v : Json) : Option Json :=
  if v.isReadable then some v else none

/-- The tag in a value set aside, by its name or by its place among the tags. -/
def tagAside? (tags : List String) : Json → Option String
  | str name => some name
  | int place => if 0 ≤ place then tags[place.toNat]? else none
  | _ => none

/-- **The tag of a record and the record without it.** The tag is a field of the object, which occurs
once, or the first item of the array. -/
def tagged? (readTag? : Json → Option String) (tag : String) : Json → Option (String × Json)
  | obj fields => do
    let name ← readTag? (← (← field? fields tag))
    return (name, obj (fields.filter (·.1 != tag)))
  | arr (v :: rest) => do
    let name ← readTag? v
    return (name, arr rest)
  | _ => none

end RuleQuery.Json
