import RuleQuery.Plan.Validity

/-!
**The source text of a rule.**

A plan is written as one query of the rule language: the package, the query with its name, one line
for each item of the body, and an end.

    package shop.facts;

    query "Q0"
        o : Fact( table == "orders" )
        c : Fact( table == "customers", get("id") == o.get("custid") )
    end

Every pattern is written over the same type of facts. Names and fields stand as they are, without
escapes. Only a reference to a variable that is not declared keeps a plan from being written.
-/

namespace RuleQuery.Plan

/-- A text between double quotes, as it is. -/
def enquoted (text : String) : String :=
  "\"" ++ text ++ "\""

/-- Access to a field of a fact. -/
def fieldAccess (field : String) : String :=
  "get(" ++ enquoted field ++ ")"

namespace Descriptor

/-- A constraint in the rule source. -/
def constraintSource (d : Descriptor) : Constraint → Except Error String
  | .table name => .ok ("table == " ++ enquoted name)
  | .join comparison => do
    let other ← d.lookup comparison.otherVariable
    return fieldAccess comparison.field ++ " " ++ comparison.operator.symbol ++ " " ++ other.name ++
      "." ++ fieldAccess comparison.otherField

/-- The constraints in the rule source, in order. -/
def constraintSources (d : Descriptor) : List Constraint → Except Error (List String)
  | [] => .ok []
  | constraint :: rest => do
    let first ← d.constraintSource constraint
    let others ← d.constraintSources rest
    return first :: others

/-- A pattern over a type of facts in the rule source. -/
def patternSource (d : Descriptor) (factType : String) (p : Pattern) : Except Error String := do
  let binding ← d.lookup p.bound
  let constraints ← d.constraintSources p.constraints
  return binding.name ++ " : " ++ factType ++ "( " ++ ", ".intercalate constraints ++ " )"

/-- An item of the body in the rule source. -/
def itemSource (d : Descriptor) (factType : String) : BodyItem → Except Error String
  | .pattern p => d.patternSource factType p
  | .aggregation a => do
    let source ← d.lookup a.source.bound
    let key ← d.lookup a.groupKeyVariable
    let result ← d.lookup a.resultVariable
    let pattern ← d.patternSource factType a.source
    return "groupby( " ++ pattern ++ "; " ++ key.name ++ " : " ++ source.name ++ "." ++
      fieldAccess a.groupKeyField ++ "; " ++ result.name ++ " : " ++ a.accumulator.functionName ++
      "() )"

/-- The lines of the items. -/
def itemLines (d : Descriptor) (factType : String) : List BodyItem → Except Error String
  | [] => .ok ""
  | item :: rest => do
    let line ← d.itemSource factType item
    let others ← d.itemLines factType rest
    return "    " ++ line ++ "\n" ++ others

/-- **The plan as source text of a rule over a type of facts.** -/
def ruleSource (d : Descriptor) (factType : String) : Except Error String := do
  let lines ← d.itemLines factType d.body
  return "package " ++ d.package ++ ";\n\nquery " ++ enquoted d.name ++ "\n" ++ lines ++ "end\n"

end Descriptor

end RuleQuery.Plan
