import RuleQuery.Plan.Descriptor
import RuleQuery.Planner.Event
import RuleQuery.Text.Lowercase

/-!
**What is known while a query is planned.**

A scope binds the aliases of the relations met so far to their variables, and collects the variables,
the prototypes and the events. `bindRelation` takes one more relation into the scope and gives its
pattern. An alias, or the name of a table without one, can be bound only once in a query; aliases and
tables are in lower case.
-/

namespace RuleQuery.Planner

open Plan Sql

/-- What an alias stands for. -/
structure Binding where
  /-- The table of the relation. -/
  table : String
  /-- The variable of its pattern. -/
  bound : VarId
deriving DecidableEq, Repr

/-- What is known while a query is planned. -/
structure Scope where
  /-- The known prototypes. -/
  registry : Registry
  /-- The aliases that are bound. -/
  aliases : List (String × Binding)
  /-- The variables of the query. -/
  arena : Arena
  /-- The events, in their order. -/
  events : List Event

namespace Scope

/-- The scope without aliases and variables. -/
def clear (scope : Scope) : Scope :=
  { scope with
    aliases := []
    arena := .empty }

/-- What an alias stands for, if it is bound. -/
def binding? (scope : Scope) (aliasName : String) : Option Binding :=
  scope.aliases.lookup aliasName

/-- The scope after one more event. -/
def report (scope : Scope) (event : Event) : Scope :=
  { scope with events := scope.events ++ [event] }

/-- The scope with a prototype for a table. -/
def useTable (scope : Scope) (table : String) : Scope :=
  { scope.report (.ofAccess scope.registry table) with registry := scope.registry.ensure table }

/-- The scope with an alias for a table, bound to a new variable. -/
def bindAlias (scope : Scope) (aliasName table : String) : Scope :=
  let kind := VariableKind.fact (scope.registry.prototype table).name
  { scope with
    aliases := scope.aliases ++ [(aliasName, ⟨table, scope.arena.nextId⟩)]
    arena := scope.arena.declare aliasName kind }

end Scope

/-- A step of planning: it changes the scope, and gives a value or an error. -/
abbrev Planning := EStateM Error Scope

/-- Reports an event. -/
def report (event : Event) : Planning Unit :=
  modify fun scope => scope.report event

/-- The table of a relation. -/
def tableOf (t : TableRef) : String :=
  Text.lowercase t.name

/-- The alias of a relation: the one it gives, or the name of its table. -/
def aliasOf (t : TableRef) : String :=
  Text.lowercase (t.aliasName.getD t.name)

/-- **The pattern of a relation**, with its alias bound to a new variable. -/
def bindRelation (t : TableRef) : Planning Pattern := do
  let scope ← get
  match scope.binding? (aliasOf t) with
  | some existing => throw (.duplicateAlias (aliasOf t) existing.table (tableOf t))
  | none =>
    let id := scope.arena.nextId
    set ((scope.useTable (tableOf t)).bindAlias (aliasOf t) (tableOf t))
    report (.patternCreated (aliasOf t) (tableOf t) id)
    return Pattern.ofTable id (tableOf t)

/-- A new variable under a free name. -/
def declareUnique (base : String) (kind : VariableKind) : Planning VarId := do
  let scope ← get
  set { scope with arena := scope.arena.declareUnique base kind }
  return scope.arena.nextId

end RuleQuery.Planner
