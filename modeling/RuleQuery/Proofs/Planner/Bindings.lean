import Mathlib.Data.List.Nodup
import RuleQuery.Plan.RuleSource
import RuleQuery.Proofs.Plan.RoundTrip
import RuleQuery.Proofs.Planner.Verdict

/-!
**How often a plan binds a variable.**

* `Descriptor.bindings`: the variables that the body binds, in the order of the rule source, and
  `Descriptor.boundNames`: their names.
* `bindings_nodup_iff_of_valid`: **a valid plan binds a variable or a name twice exactly if its body
  binds the variable of its first pattern again** (`Rebinds`). In a join the second pattern is joined
  with itself then (`joins_self_iff`).
* `validate_rebind_second` and `validate_rebind_source`: the checks do not see which declared
  variable the second pattern of a join binds, or the pattern of an aggregation. So there are valid
  plans that bind a name twice (`twiceBound_valid`).
* `Scheme.bindings_nodup`: the plans of queries bind each variable once.
-/

namespace RuleQuery.Plan

/-! ### The bindings of a body -/

/-- The variables that an item binds. -/
def BodyItem.bindings : BodyItem → List VarId
  | pattern p => [p.bound]
  | aggregation a => [a.source.bound, a.groupKeyVariable, a.resultVariable]

namespace Descriptor

/-- **The variables that the body binds**, in the order of the rule source. -/
def bindings (d : Descriptor) : List VarId :=
  d.body.flatMap BodyItem.bindings

/-- The names that the rule source binds. -/
def boundNames (d : Descriptor) : List String :=
  d.bindings.filterMap fun id => (d.arena.get? id).map Variable.name

variable {d : Descriptor}

theorem name_get? (id : VarId) :
    (d.arena.get? id).map Variable.name = d.arena.names[id.index]? := by
  simp [Arena.get?, Arena.names]

/-- An item that passes the check binds declared variables. -/
theorem declares_of_mem_bindings {item : BodyItem} (passed : d.checkItem item = .ok ()) :
    ∀ id ∈ item.bindings, d.Declares id := by
  cases item with
  | pattern p => simpa [BodyItem.bindings] using (checkPattern_eq_ok_iff.1 passed).1
  | aggregation a =>
    obtain ⟨source, key, result, -⟩ := checkItem_aggregation_eq_ok_iff.1 passed
    simpa [BodyItem.bindings] using ⟨(checkPattern_eq_ok_iff.1 source).1, key, result⟩

/-- **A name is bound twice exactly if a variable is**, where different variables have different
names. -/
theorem boundNames_nodup_iff (distinct : d.arena.names.Nodup)
    (declared : ∀ id ∈ d.bindings, d.Declares id) : d.boundNames.Nodup ↔ d.bindings.Nodup := by
  have place {id : VarId} (member : id ∈ d.bindings) : id.index < d.arena.names.length := by
    rw [Arena.names, List.length_map]
    exact declared id member
  have named : d.boundNames.map some = d.bindings.map fun id => d.arena.names[id.index]? := by
    rw [boundNames, List.map_filterMap_some_eq_filter_map_isSome, List.filter_eq_self.2]
    · simp only [name_get?]
    · intro name member
      obtain ⟨id, bound, rfl⟩ := List.mem_map.1 member
      rw [name_get?, List.getElem?_eq_getElem (place bound)]
      rfl
  rw [← List.nodup_map_iff fun _ _ => Option.some.inj, named]
  refine ⟨List.Nodup.of_map _, List.Nodup.map_on ?_⟩
  intro id member other _ same
  have index : id.index = other.index := (List.getElem?_inj (place member) distinct).1 same
  exact congrArg VarId.mk index

end Descriptor

/-! ### Valid plans -/

/-- **The body binds the variable of its first pattern again.** -/
inductive Rebinds : List BodyItem → Prop where
  /-- The second pattern of a join does. -/
  | second {first second : Pattern} (same : first.bound = second.bound) :
      Rebinds [.pattern first, .pattern second]
  /-- The key of a group does. -/
  | key {a : Aggregation} (same : a.source.bound = a.groupKeyVariable) : Rebinds [.aggregation a]
  /-- The result of a group does. -/
  | result {a : Aggregation} (same : a.source.bound = a.resultVariable) : Rebinds [.aggregation a]

theorem rebinds_pair_iff {first second : Pattern} :
    Rebinds [.pattern first, .pattern second] ↔ first.bound = second.bound :=
  ⟨fun | .second same => same, .second⟩

/-- The bodies of the supported shapes. -/
inductive Shaped : List BodyItem → Prop where
  | single (p : Pattern) : Shaped [.pattern p]
  | join (first second : Pattern) : Shaped [.pattern first, .pattern second]
  | aggregation (a : Aggregation) : Shaped [.aggregation a]

theorem shaped_of_checkShape {body : List BodyItem} (passed : checkShape body = .ok ()) :
    Shaped body := by
  unfold checkShape at passed
  split at passed
  · exact .single _
  · exact .join _ _
  · exact .aggregation _
  · cases passed

section Valid

variable {d : Descriptor} {first second : Pattern} {a : Aggregation} {id : VarId}

/-- The second pattern of a valid join is joined with the first, so that it is joined with itself
exactly if both bind one variable. -/
theorem joins_self_iff (valid : d.validate = .ok ())
    (join : d.body = [.pattern first, .pattern second]) :
    (∃ own ∈ second.joins, own.otherVariable = second.bound) ↔ first.bound = second.bound := by
  obtain ⟨-, -, shape⟩ := Descriptor.validate_eq_ok_iff.1 valid
  rw [join, checkShape] at shape
  split at shape
  · split at shape
    · rename_i other single
      split at shape
      · -- The one join is with the variable of the first pattern.
        rename_i toFirst
        rw [single, ← toFirst]
        simp
      · cases shape
    · cases shape
  · cases shape

/-- **A valid plan binds no variable twice, and no name, exactly if it does not rebind.** The checks
leave nothing else to bind twice: the names are different, and the key of a group is not its
result. A join that rebinds is one whose second pattern is joined with itself. -/
theorem bindings_nodup_iff_of_valid (valid : d.validate = .ok ()) :
    (d.bindings.Nodup ↔ ¬ Rebinds d.body) ∧ (d.boundNames.Nodup ↔ d.bindings.Nodup) ∧
    ∀ first second, d.body = [.pattern first, .pattern second] →
      ((∃ own ∈ second.joins, own.otherVariable = second.bound) ↔ Rebinds d.body) := by
  obtain ⟨distinct, items, shape⟩ := Descriptor.validate_eq_ok_iff.1 valid
  refine ⟨?_, ?_, fun first second join => ?_⟩
  · obtain ⟨name, package, arena, body⟩ := d
    unfold Descriptor.bindings
    cases shaped_of_checkShape shape with
    | single p => exact ⟨fun _ => nofun, fun _ => List.nodup_singleton _⟩
    | join first second =>
      simp [BodyItem.bindings, rebinds_pair_iff]
    | aggregation a =>
      have apart : a.groupKeyVariable ≠ a.resultVariable :=
        (Descriptor.checkItem_aggregation_eq_ok_iff.1 (items _ List.mem_cons_self)).2.2.2
      have rebinds : Rebinds [.aggregation a] ↔
          a.source.bound = a.groupKeyVariable ∨ a.source.bound = a.resultVariable := by
        constructor
        · rintro (_ | same | same)
          · exact .inl same
          · exact .inr same
        · rintro (same | same)
          · exact .key same
          · exact .result same
      simp [BodyItem.bindings, rebinds, apart]
  · refine Descriptor.boundNames_nodup_iff distinct fun id member => ?_
    obtain ⟨item, inside, bound⟩ := List.mem_flatMap.1 member
    exact Descriptor.declares_of_mem_bindings (items item inside) id bound
  · rw [join, rebinds_pair_iff]
    exact joins_self_iff valid join

/-- **The checks do not see which variable the second pattern of a join binds.** -/
theorem validate_rebind_second (valid : d.validate = .ok ())
    (join : d.body = [.pattern first, .pattern second]) (declared : d.Declares id) :
    ({ d with body := [.pattern first, .pattern { second with bound := id }] } :
      Descriptor).validate = .ok () := by
  obtain ⟨distinct, items, shape⟩ := Descriptor.validate_eq_ok_iff.1 valid
  rw [join] at items shape
  rw [List.forall_mem_cons, List.forall_mem_singleton] at items
  refine Descriptor.validate_eq_ok_iff.2 ⟨distinct, ?_, shape⟩
  rw [List.forall_mem_cons, List.forall_mem_singleton]
  have firstChecked := Descriptor.checkPattern_eq_ok_iff.1 items.1
  have secondChecked := Descriptor.checkPattern_eq_ok_iff.1 items.2
  exact ⟨Descriptor.checkPattern_eq_ok_iff.2 firstChecked,
    Descriptor.checkPattern_eq_ok_iff.2 ⟨declared, secondChecked.2⟩⟩

/-- **The checks do not see which variable the pattern of an aggregation binds.** -/
theorem validate_rebind_source (valid : d.validate = .ok ()) (grouped : d.body = [.aggregation a])
    (declared : d.Declares id) :
    ({ d with body := [.aggregation { a with source := { a.source with bound := id } }] } :
      Descriptor).validate = .ok () := by
  obtain ⟨distinct, items, shape⟩ := Descriptor.validate_eq_ok_iff.1 valid
  rw [grouped] at items shape
  rw [List.forall_mem_singleton] at items
  refine Descriptor.validate_eq_ok_iff.2 ⟨distinct, ?_, shape⟩
  rw [List.forall_mem_singleton]
  obtain ⟨source, places⟩ := Descriptor.checkItem_aggregation_eq_ok_iff.1 items
  have checked := Descriptor.checkPattern_eq_ok_iff.1 source
  exact Descriptor.checkItem_aggregation_eq_ok_iff.2
    ⟨Descriptor.checkPattern_eq_ok_iff.2 ⟨declared, checked.2⟩, places⟩

end Valid

/-- A valid plan whose references are numbers of 64 bits is read from its text. -/
theorem Descriptor.read_compact {d : Descriptor} (valid : d.validate = .ok ())
    (addressable : Addressable d.references) : Descriptor.read d.toJson.compact = .ok d := by
  have within := Descriptor.within addressable
  have fits : d.toJson.depth ≤ Json.nestingLimit := Nat.le_trans within.shallow (by decide)
  rw [Descriptor.read,
    Descriptor.ofJsonText?_of_parse (Json.parse_compact within.plain fits) addressable]
  show d.validate >>= (fun _ => .ok d) = .ok d
  rw [valid]
  rfl

/-! ### Plans that bind a name twice -/

/-- A join whose two patterns bind the one variable. -/
def selfJoined : Descriptor where
  name := "Q0"
  package := "p"
  arena := ⟨[⟨"o", .fact "orders"⟩]⟩
  body := [.pattern (.ofTable ⟨0⟩ "orders"),
    .pattern ((Pattern.ofTable ⟨0⟩ "customers").addConstraint
      (.join ⟨"id", .equal, ⟨0⟩, "custid"⟩))]

/-- A count whose key is the variable of its pattern. -/
def selfKeyed : Descriptor where
  name := "Q0"
  package := "p"
  arena := ⟨[⟨"o", .fact "orders"⟩, ⟨"count", .accumulate⟩]⟩
  body := [.aggregation ⟨.ofTable ⟨0⟩ "orders", "status", ⟨0⟩, .count, ⟨1⟩⟩]

/-- The join that binds one variable is valid, and binds its name twice. -/
theorem selfJoined_boundNames_not_nodup :
    selfJoined.validate = .ok () ∧ Rebinds selfJoined.body ∧ ¬ selfJoined.boundNames.Nodup := by
  have rebinds : Rebinds selfJoined.body := .second rfl
  obtain ⟨once, named, -⟩ := bindings_nodup_iff_of_valid (d := selfJoined) rfl
  exact ⟨rfl, rebinds, fun different => once.1 (named.1 different) rebinds⟩

/-- **Valid plans can bind a name twice**: both texts are read as valid plans, and both rule sources
have two bindings of one name. -/
theorem twiceBound_valid :
    Descriptor.read selfJoined.toJson.compact = .ok selfJoined ∧
    selfJoined.ruleSource "Fact" = .ok ("package p;\n\nquery \"Q0\"\n" ++
      "    o : Fact( table == \"orders\" )\n" ++
      "    o : Fact( table == \"customers\", get(\"id\") == o.get(\"custid\") )\n" ++ "end\n") ∧
    Descriptor.read selfKeyed.toJson.compact = .ok selfKeyed ∧
    selfKeyed.ruleSource "Fact" = .ok ("package p;\n\nquery \"Q0\"\n" ++
      "    groupby( o : Fact( table == \"orders\" ); o : o.get(\"status\"); count : count() )\n" ++
      "end\n") ∧
    ¬ ∀ d : Descriptor, d.validate = .ok () → d.bindings.Nodup := by
  refine ⟨Descriptor.read_compact rfl (by decide), by decide +kernel,
    Descriptor.read_compact rfl (by decide), by decide +kernel, fun once => ?_⟩
  have different : selfJoined.bindings.Nodup := once selfJoined rfl
  exact absurd different (by decide)

end RuleQuery.Plan

namespace RuleQuery.Planner

open Plan Sql

/-- **The plan of a query binds each variable once.** -/
theorem Scheme.bindings_nodup (query : Config.QuerySettings) (scheme : Scheme) :
    (scheme.descriptor query).bindings.Nodup := by
  cases scheme <;>
    simp [descriptor, body, Descriptor.bindings, BodyItem.bindings, Pattern.addConstraint]

end RuleQuery.Planner
