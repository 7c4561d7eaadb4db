/-!
**JSON values.**

The fields of an object keep their order and their repetitions, since the reader of a record has to
see both. A number that is written as an integer has its value; of any other number only its text is
kept, because no value of this library is a fraction. A value may be well formed and still be out of
reach: one that lies too deep, a number out of range, and a string or the name of a field with half of
a surrogate pair. Such a value can be passed over, but not read.
-/

namespace RuleQuery

/-- A JSON value. -/
inductive Json where
  | null
  | bool (value : Bool)
  /-- A number written as an integer, except for a zero with a minus sign. -/
  | int (value : Int)
  /-- Any other number, by its text. -/
  | real (literal : List Char)
  | str (text : String)
  | arr (items : List Json)
  | obj (fields : List (String × Json))
  /-- A value that can be passed over, but not read. -/
  | unreadable
deriving Repr

namespace Json

mutual

/-- How many arrays and objects lie inside each other at most. -/
def depth : Json → Nat
  | arr items => depthOfItems items + 1
  | obj fields => depthOfFields fields + 1
  | _ => 0

/-- The greatest depth of the values. -/
def depthOfItems : List Json → Nat
  | [] => 0
  | v :: rest => max v.depth (depthOfItems rest)

/-- The greatest depth of the values of the fields. -/
def depthOfFields : List (String × Json) → Nat
  | [] => 0
  | (_, v) :: rest => max v.depth (depthOfFields rest)

end

mutual

/-- **Everything in the value can be read.** -/
def isReadable : Json → Bool
  | arr items => areReadable items
  | obj fields => haveReadable fields
  | unreadable => false
  | _ => true

/-- Everything in the values can be read. -/
def areReadable : List Json → Bool
  | [] => true
  | v :: rest => v.isReadable && areReadable rest

/-- Everything in the values of the fields can be read. -/
def haveReadable : List (String × Json) → Bool
  | [] => true
  | (_, v) :: rest => v.isReadable && haveReadable rest

end

/-- An optional value, or null where there is none. -/
def ofOption {α : Type} (toJson : α → Json) : Option α → Json
  | none => null
  | some a => toJson a

/-- A string, or null where there is none. -/
def ofOptionString : Option String → Json :=
  ofOption str

end Json

end RuleQuery
