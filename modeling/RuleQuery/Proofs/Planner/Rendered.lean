import RuleQuery.Plan.Json
import RuleQuery.Proofs.Plan.Lookup
import RuleQuery.Proofs.Planner.Calls

/-!
**Plans that can be written as rules.**

* `valid_of_read`, `valid_of_plan` and `valid_of_planText`: a plan that is read from a text, or given
  for a query, is valid;
* `ruleSource_told_by_lookups`: **a plan has a rule source exactly if all its references are
  declared**, and the error tells the first that is not. So the plans that are read or given for
  queries have one, over every type of facts.
-/

namespace RuleQuery.Plan

/-- A plan that is read from a text is valid. -/
theorem Descriptor.valid_of_read {d : Descriptor} {text : String}
    (given : Descriptor.read text = .ok d) : d.validate = .ok () := by
  unfold Descriptor.read at given
  cases found : Descriptor.ofJsonText? text with
  | none =>
    rw [found] at given
    cases given
  | some other =>
    simp only [found, bind_eq_ok_iff] at given
    obtain ⟨_, valid, made⟩ := given
    cases made
    exact valid

end RuleQuery.Plan

namespace RuleQuery.Planner

open Plan Sql

section Given

variable {settings : Config.Settings} {calls : List Call} {d : Descriptor}

/-- The plan of a query is valid, after any calls. -/
theorem valid_of_plan {s : Select}
    (given : (((Session.new settings).afterCalls calls).plan s).result = .ok d) :
    d.validate = .ok () := by
  rw [plan_afterCalls] at given
  cases outcome : verdict s with
  | error e =>
    rw [outcome] at given
    cases given
  | ok scheme =>
    rw [outcome] at given
    cases given
    exact scheme.descriptor_valid settings.query

/-- The plan of the query that a text writes is valid, after any calls. -/
theorem valid_of_planText {text : String}
    (given : (((Session.new settings).afterCalls calls).planText text).result = .ok d) :
    d.validate = .ok () := by
  unfold Session.planText at given
  cases parsed : Sql.parse text with
  | error e =>
    rw [parsed] at given
    cases given
  | ok s =>
    rw [parsed] at given
    exact valid_of_plan given

end Given

/-- **A plan has a rule source exactly if all its references are declared.** Otherwise the error tells
the first reference that is not, in the order in which the rule source looks them up. Every plan that
is read from a text or given for a query has one, whatever calls came before. -/
theorem ruleSource_told_by_lookups (d : Descriptor) (factType : String) :
    ((∃ source, d.ruleSource factType = .ok source) ↔
      ∀ id ∈ d.references, id.index < d.arena.size) ∧
    (∀ e, d.ruleSource factType = .error e ↔
      ∃ id, d.lookups.find? (fun id => ¬ id.index < d.arena.size) = some id ∧
        e = .unknownVariable id) ∧
    (∀ text, Descriptor.read text = .ok d → ∃ source, d.ruleSource factType = .ok source) ∧
    ∀ settings calls,
      (∀ s, (((Session.new settings).afterCalls calls).plan s).result = .ok d →
        ∃ source, d.ruleSource factType = .ok source) ∧
      ∀ text, (((Session.new settings).afterCalls calls).planText text).result = .ok d →
        ∃ source, d.ruleSource factType = .ok source := by
  refine ⟨ruleSource_ok_iff, fun e => ruleSource_eq_error_iff, fun text given => ?_,
    fun settings calls => ⟨fun s given => ?_, fun text given => ?_⟩⟩
  · exact ruleSource_of_valid factType (Descriptor.valid_of_read given)
  · exact ruleSource_of_valid factType (valid_of_plan given)
  · exact ruleSource_of_valid factType (valid_of_planText given)

end RuleQuery.Planner
