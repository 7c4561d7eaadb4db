import RuleQuery.Plan.Prototype

/-!
**The prototypes that are known.**

A registry holds at most one prototype for each table. The first use of a table makes its prototype,
in the package of the registry, and later uses find the same one again.
-/

namespace RuleQuery.Plan

/-- The known prototypes by their tables. -/
structure Registry where
  /-- The package of the prototypes made here. -/
  package : String
  /-- The prototypes in the order of their making. -/
  entries : List (String × Prototype)
deriving DecidableEq, Repr

namespace Registry

/-- A registry without prototypes. -/
def empty (package : String) : Registry :=
  ⟨package, []⟩

/-- The number of prototypes. -/
def size (r : Registry) : Nat :=
  r.entries.length

/-- The prototype of a table, if it is known. -/
def get? (r : Registry) (table : String) : Option Prototype :=
  r.entries.lookup table

/-- The table has a prototype. -/
def contains (r : Registry) (table : String) : Bool :=
  (r.get? table).isSome

/-- **The prototype of a table**, the known one or a new one. -/
def prototype (r : Registry) (table : String) : Prototype :=
  (r.get? table).getD ⟨table, r.package⟩

/-- **The registry after a use of a table.** -/
def ensure (r : Registry) (table : String) : Registry :=
  if r.contains table then r
  else { r with entries := r.entries ++ [(table, ⟨table, r.package⟩)] }

/-- The registry without its prototypes. -/
def clear (r : Registry) : Registry :=
  { r with entries := [] }

end Registry

end RuleQuery.Plan
