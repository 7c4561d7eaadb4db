import RuleQuery.Text.Decimal

/-!
**The variables of a query.**

A query owns its variables in the order of their declaration. Patterns, constraints and aggregations
refer to a variable by its place in that order, so that a variable is declared once and shared.
`declareUnique` declares a variable under a name that is still free: the wanted name, or the wanted
name with the smallest number after it that makes it free.
-/

namespace RuleQuery.Plan

/-- The place of a variable in the order of declaration. -/
structure VarId where
  /-- How many variables are declared before it. -/
  index : Nat
deriving DecidableEq, Repr

/-- The text of a reference to a variable. -/
def VarId.text (id : VarId) : String :=
  "$" ++ Text.ofNat id.index

/-- What a variable is bound to. -/
inductive VariableKind where
  /-- A fact of a prototype, bound by a pattern. -/
  | fact (prototype : String)
  /-- The key of a group. -/
  | groupKey
  /-- The result of an accumulator. -/
  | accumulate
deriving DecidableEq, Repr

/-- A variable of a query. -/
structure Variable where
  /-- The name in the rule source. -/
  name : String
  /-- What it is bound to. -/
  kind : VariableKind
deriving DecidableEq, Repr

/-- All variables of a query, in the order of their declaration. -/
structure Arena where
  /-- The variables in order. -/
  toList : List Variable
deriving DecidableEq, Repr

namespace Arena

/-- No variables. -/
def empty : Arena :=
  ⟨[]⟩

/-- The number of variables. -/
def size (arena : Arena) : Nat :=
  arena.toList.length

/-- The names in the order of declaration. -/
def names (arena : Arena) : List String :=
  arena.toList.map Variable.name

/-- Some variable has the name. -/
def containsName (arena : Arena) (name : String) : Bool :=
  arena.names.contains name

/-- The variable at a place. -/
def get? (arena : Arena) (id : VarId) : Option Variable :=
  arena.toList[id.index]?

/-- The place of the next variable. -/
def nextId (arena : Arena) : VarId :=
  ⟨arena.size⟩

/-- The variables with one more at the end, whose place is `nextId`. -/
def declare (arena : Arena) (name : String) (kind : VariableKind) : Arena :=
  ⟨arena.toList ++ [⟨name, kind⟩]⟩

/-- A name with a number after it. -/
def numbered (base : String) (number : Nat) : String :=
  base ++ "_" ++ Text.ofNat number

/-- The first free one of the numbered forms of a name, from one up to a limit. -/
def firstFree? (arena : Arena) (base : String) (limit : Nat) : Option String :=
  ((List.range limit).map fun n => numbered base (n + 1)).find? fun name => !arena.containsName name

/-- **A free name**: the wanted one, or the first of its numbered forms, from one up, that is free.
If the wanted name is taken, then one of as many forms as there are variables is free, so that the
search stops there; a longer one gives the same name. A counter of 32 bits would end the search
sooner only among 2 ^ 31 - 1 variables or more, and this search goes on there. -/
def uniqueName (arena : Arena) (base : String) : String :=
  if arena.containsName base then (arena.firstFree? base arena.size).getD base else base

/-- The variables with one more at the end, under a free name. -/
def declareUnique (arena : Arena) (base : String) (kind : VariableKind) : Arena :=
  arena.declare (arena.uniqueName base) kind

end Arena

end RuleQuery.Plan
