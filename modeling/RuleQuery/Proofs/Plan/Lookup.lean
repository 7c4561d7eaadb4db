import RuleQuery.Plan.RuleSource
import RuleQuery.Proofs.Plan.FirstFault

/-!
**Which plans can be written.**

The rule source names the variables of a plan, and looks each of them up where it writes the name.
Nothing else can fail.

* `Descriptor.lookups`: the references of a plan in the order of the lookups, which is not that of the
  checks: an aggregation writes its key and its result before the joins of its pattern.
* `ruleSource_follows`: the rule source follows the checks of these references;
* `ruleSource_ok_iff` and `ruleSource_eq_error_iff`: so **a plan has a rule source exactly if all its
  references are declared**, and otherwise the error tells the first that is not;
* `ruleSource_of_valid`: a valid plan has a rule source.
-/

namespace RuleQuery.Plan

/-! ### The order of the lookups -/

/-- The references of an item in the order of the lookups. -/
def BodyItem.lookups : BodyItem → List VarId
  | pattern p => p.references
  | aggregation a =>
    [a.source.bound, a.groupKeyVariable, a.resultVariable] ++
      a.source.constraints.flatMap Constraint.references

/-- **The references of a plan in the order of the lookups.** -/
def Descriptor.lookups (d : Descriptor) : List VarId :=
  d.body.flatMap BodyItem.lookups

theorem BodyItem.mem_lookups_iff {item : BodyItem} {id : VarId} :
    id ∈ item.lookups ↔ id ∈ item.references := by
  cases item with
  | pattern p => rfl
  | aggregation a =>
    simp only [lookups, references, Pattern.references, List.mem_append, List.mem_cons]
    grind

/-- Every reference is looked up, and nothing else. -/
theorem Descriptor.mem_lookups_iff {d : Descriptor} {id : VarId} :
    id ∈ d.lookups ↔ id ∈ d.references := by
  simp only [lookups, references, List.mem_flatMap, BodyItem.mem_lookups_iff]

theorem declarations_append (first second : List VarId) :
    declarations (first ++ second) = declarations first ++ declarations second :=
  List.map_append

/-- The first fault of references is the first that is not declared. -/
theorem firstFault?_declarations {d : Descriptor} {ids : List VarId} :
    d.firstFault? (declarations ids) = (ids.find? fun id => ¬ d.Declares id).map .declared :=
  List.find?_map

/-! ### The rule source -/

section Source

variable {d : Descriptor} {factType : String}

theorem constraintSource_follows (constraint : Constraint) :
    Follows d (declarations constraint.references) (d.constraintSource constraint) := by
  cases constraint with
  | table name => exact .pure _
  | join comparison =>
    exact (Descriptor.lookup_follows comparison.otherVariable).map fun _ => ⟨_, rfl⟩

theorem constraintSources_follows (constraints : List Constraint) :
    Follows d (declarations (constraints.flatMap Constraint.references))
      (d.constraintSources constraints) := by
  induction constraints with
  | nil => exact .pure []
  | cons constraint rest ih =>
    rw [List.flatMap_cons, declarations_append]
    exact (constraintSource_follows constraint).bind fun _ _ => ih.map fun _ => ⟨_, rfl⟩

theorem patternSource_follows (p : Pattern) :
    Follows d (declarations p.references) (d.patternSource factType p) :=
  (Descriptor.lookup_follows p.bound).bind fun _ _ =>
    (constraintSources_follows p.constraints).map fun _ => ⟨_, rfl⟩

theorem itemSource_follows (item : BodyItem) :
    Follows d (declarations item.lookups) (d.itemSource factType item) := by
  cases item with
  | pattern p => exact patternSource_follows p
  | aggregation a =>
    refine (Descriptor.lookup_follows a.source.bound).bind fun _ bound => ?_
    refine (Descriptor.lookup_follows a.groupKeyVariable).bind fun _ _ => ?_
    refine (Descriptor.lookup_follows a.resultVariable).bind fun _ _ => ?_
    -- The pattern looks its own variable up again, which is declared by now.
    have declared : (Check.declared a.source.bound).Passes d := bound _ List.mem_cons_self
    exact ((Follows.cons_iff _ declared).1 (patternSource_follows a.source)).map fun _ => ⟨_, rfl⟩

theorem itemLines_follows (items : List BodyItem) :
    Follows d (declarations (items.flatMap BodyItem.lookups)) (d.itemLines factType items) := by
  induction items with
  | nil => exact .pure ""
  | cons item rest ih =>
    rw [List.flatMap_cons, declarations_append]
    exact (itemSource_follows item).bind fun _ _ => ih.map fun _ => ⟨_, rfl⟩

/-- **The rule source looks up the references in their order**, up to the first that is missing. -/
theorem ruleSource_follows :
    Follows d (declarations d.lookups) (d.ruleSource factType) :=
  (itemLines_follows d.body).map fun _ => ⟨_, rfl⟩

/-- **A plan has a rule source** exactly if all its references are declared. -/
theorem ruleSource_ok_iff :
    (∃ source, d.ruleSource factType = .ok source) ↔ ∀ id ∈ d.references, d.Declares id := by
  rw [ruleSource_follows.exists_ok_iff, forall_mem_declarations]
  simp only [Descriptor.mem_lookups_iff]

/-- **A plan has none** exactly if a reference is missing, and the error tells the first. -/
theorem ruleSource_eq_error_iff {e : Error} :
    d.ruleSource factType = .error e ↔
      ∃ id, d.lookups.find? (fun id => ¬ d.Declares id) = some id ∧ e = .unknownVariable id := by
  rw [ruleSource_follows.eq_error_iff, firstFault?_declarations]
  simp only [Option.map_eq_some_iff]
  constructor
  · rintro ⟨_, ⟨id, found, rfl⟩, rfl⟩
    exact ⟨id, found, rfl⟩
  · rintro ⟨id, found, rfl⟩
    exact ⟨.declared id, ⟨id, found, rfl⟩, rfl⟩

/-- An aggregation with a missing variable in a join of its pattern and another as its key: the checks
meet the join first, and the rule source meets the key first. -/
example :
    let source : Pattern := ⟨⟨0⟩, "orders", [.table "orders", .join ⟨"id", .equal, ⟨7⟩, "custid"⟩]⟩
    let d : Descriptor := ⟨"Q0", "p", ⟨[⟨"o", .fact "orders"⟩]⟩,
      [.aggregation ⟨source, "status", ⟨5⟩, .count, ⟨0⟩⟩]⟩
    d.validate = .error (.unknownVariable ⟨7⟩) ∧
      d.ruleSource "Fact" = .error (.unknownVariable ⟨5⟩) := by
  exact ⟨rfl, rfl⟩

/-- **A valid plan has a rule source**, over any type of facts. -/
theorem ruleSource_of_valid (factType : String) (valid : d.validate = .ok ()) :
    ∃ source, d.ruleSource factType = .ok source := by
  obtain ⟨-, items, -⟩ := Descriptor.validate_eq_ok_iff.1 valid
  have declared := (Descriptor.checks_pass_iff.1 (checkItem_all_iff_checks_pass.1 items)).2.1
  exact ruleSource_ok_iff.2 declared

end Source

end RuleQuery.Plan
