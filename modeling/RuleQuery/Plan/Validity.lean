import RuleQuery.Plan.Descriptor
import RuleQuery.Plan.Error

/-!
**Which plans are valid.**

A valid plan gives its variables different names, refers only to declared variables, starts each
pattern with the constraint on its table, and has one of three bodies: one pattern without a join,
two patterns of which the second joins the first, or one aggregation over a pattern without a join.
`validate` reports the first fault: the names come first, then the items in their order, then the
shape of the body.
-/

namespace RuleQuery.Plan

/-- The first name that stands before in the list or among the seen ones. -/
def firstRepeated? (seen : List String) : List String → Option String
  | [] => none
  | name :: rest =>
    if seen.contains name then some name else firstRepeated? (name :: seen) rest

namespace Descriptor

/-- **The variable at a place**, or an error if none is declared there. -/
def lookup (d : Descriptor) (id : VarId) : Except Error Variable :=
  match d.arena.get? id with
  | some v => .ok v
  | none => .error (.unknownVariable id)

/-- All places have variables. -/
def checkIds (d : Descriptor) : List VarId → Except Error Unit
  | [] => .ok ()
  | id :: rest => do
    let _ ← d.lookup id
    d.checkIds rest

/-- A pattern refers to declared variables and starts with the constraint on its table. -/
def checkPattern (d : Descriptor) (p : Pattern) : Except Error Unit := do
  let _ ← d.lookup p.bound
  if p.constraints.head? = some (.table p.table) then
    d.checkIds (p.joins.map JoinConstraint.otherVariable)
  else throw (.invalidBody (.tableConstraintMissing p.table))

/-- An item refers to declared variables and has its parts in order. -/
def checkItem (d : Descriptor) : BodyItem → Except Error Unit
  | .pattern p => d.checkPattern p
  | .aggregation a => do
    d.checkPattern a.source
    d.checkIds [a.groupKeyVariable, a.resultVariable]
    if a.groupKeyVariable = a.resultVariable then throw (.invalidBody .keyIsResult)

/-- All items are right, each in itself. -/
def checkItems (d : Descriptor) : List BodyItem → Except Error Unit
  | [] => .ok ()
  | item :: rest => do
    d.checkItem item
    d.checkItems rest

end Descriptor

/-- The body is one of the three supported ones. -/
def checkShape : List BodyItem → Except BodyFault Unit
  | [.pattern single] => if single.joins = [] then .ok () else .error .joinInSingle
  | [.pattern first, .pattern second] =>
    if first.joins = [] then
      match second.joins with
      | [join] => if join.otherVariable = first.bound then .ok () else .error .secondNotJoined
      | _ => .error .secondNotJoined
    else .error .joinInFirst
  | [.aggregation a] => if a.source.joins = [] then .ok () else .error .joinInAggregation
  | body => .error (.items body.length)

/-- **The plan is valid**, or its first fault. -/
def Descriptor.validate (d : Descriptor) : Except Error Unit := do
  match firstRepeated? [] d.arena.names with
  | some name => throw (.invalidBody (.repeatedName name))
  | none =>
    d.checkItems d.body
    (checkShape d.body).mapError .invalidBody

end RuleQuery.Plan
