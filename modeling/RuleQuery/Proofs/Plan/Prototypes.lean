import RuleQuery.Plan.Registry

/-!
**The prototypes of a registry.**

A registry is faithful if each prototype has the name of its table and the package of the registry.
The empty registry is, and every use of a table keeps it so (`Faithful.ensure`). In a faithful
registry the prototype of a table says nothing that the table does not (`Faithful.prototype_eq`).

`Holds` says all that is in a registry: which tables, each once, with their prototypes. A use of
tables adds these and no others (`Holds.ensureAll`).
-/

namespace RuleQuery.Plan.Registry

/-- **Each prototype has the name of its table and the package of the registry.** -/
def Faithful (r : Registry) : Prop :=
  ∀ entry ∈ r.entries, entry.2 = ⟨entry.1, r.package⟩

theorem faithful_empty (package : String) : (empty package).Faithful := by
  intro entry member
  cases member

theorem faithful_clear (r : Registry) : r.clear.Faithful := by
  intro entry member
  cases member

@[simp]
theorem ensure_package (r : Registry) (table : String) : (r.ensure table).package = r.package := by
  unfold ensure
  split <;> rfl

namespace Faithful

variable {r : Registry}

/-- A use of a table keeps a registry faithful. -/
theorem ensure (faithful : r.Faithful) (table : String) : (r.ensure table).Faithful := by
  intro entry member
  rw [ensure_package]
  unfold Registry.ensure at member
  split at member
  · exact faithful entry member
  · rcases List.mem_append.1 member with old | new
    · exact faithful entry old
    · rw [List.mem_singleton.1 new]

/-- The prototype of a table has the name of the table. -/
theorem prototype_eq (faithful : r.Faithful) (table : String) :
    r.prototype table = ⟨table, r.package⟩ := by
  unfold prototype get?
  cases found : r.entries.lookup table with
  | none => rfl
  | some known =>
    obtain ⟨before, after, split, _⟩ := List.lookup_eq_some_iff.1 found
    exact faithful (table, known) (by rw [split]; simp)

end Faithful

/-! ### All that is in a registry -/

/-- **The registry holds these tables**, each once and with the prototype of its name and the
package, and nothing else. -/
structure Holds (r : Registry) (package : String) (known : String → Prop) : Prop where
  samePackage : r.package = package
  once : (r.entries.map Prod.fst).Nodup
  entries : ∀ table prototype,
    (table, prototype) ∈ r.entries ↔ known table ∧ prototype = ⟨table, package⟩

theorem contains_iff {r : Registry} {table : String} :
    r.contains table = true ↔ table ∈ r.entries.map Prod.fst := by
  unfold contains get?
  rw [Option.isSome_iff_ne_none, ne_eq, List.lookup_eq_none_iff]
  simp only [List.mem_map, bne_iff_ne]
  constructor
  · intro some
    apply Classical.byContradiction
    intro none
    exact some fun entry member same => none ⟨entry, member, same.symm⟩
  · rintro ⟨entry, member, rfl⟩ none
    exact none entry member rfl

/-- **A use of a table makes that table known** and no other. -/
theorem contains_ensure (r : Registry) (table other : String) :
    (r.ensure table).contains other = true ↔ r.contains other = true ∨ other = table := by
  unfold ensure
  by_cases there : r.contains table = true
  · rw [if_pos there]
    refine ⟨.inl, ?_⟩
    rintro (old | rfl)
    · exact old
    · exact there
  · rw [if_neg there, contains_iff, contains_iff, List.map_append, List.mem_append]
    exact or_congr_right List.mem_singleton

theorem holds_clear {r : Registry} {package : String} (same : r.package = package) :
    r.clear.Holds package fun _ => False :=
  ⟨same, List.nodup_nil, fun _ _ => by simp [clear]⟩

namespace Holds

variable {r : Registry} {package : String} {known known' : String → Prop}

theorem congr (holds : r.Holds package known) (same : ∀ table, known table ↔ known' table) :
    r.Holds package known' :=
  ⟨holds.samePackage, holds.once, fun table prototype => by rw [holds.entries, same]⟩

theorem mem_tables (holds : r.Holds package known) (table : String) :
    table ∈ r.entries.map Prod.fst ↔ known table := by
  rw [List.mem_map]
  constructor
  · rintro ⟨⟨_, prototype⟩, member, rfl⟩
    exact ((holds.entries _ prototype).1 member).1
  · intro used
    exact ⟨(table, ⟨table, package⟩), (holds.entries _ _).2 ⟨used, rfl⟩, rfl⟩

/-- **A use of a table** adds it, unless it is there. -/
theorem ensure (holds : r.Holds package known) (table : String) :
    (r.ensure table).Holds package fun other => known other ∨ other = table := by
  unfold Registry.ensure
  by_cases there : r.contains table = true
  · rw [if_pos there]
    have used : known table := (holds.mem_tables table).1 (contains_iff.1 there)
    refine holds.congr fun other => ⟨.inl, ?_⟩
    rintro (old | rfl)
    · exact old
    · exact used
  · rw [if_neg there]
    refine ⟨holds.samePackage, ?_, ?_⟩
    · rw [List.map_append, List.nodup_append]
      refine ⟨holds.once, by simp, ?_⟩
      rintro old member _ single rfl
      rw [List.mem_singleton.1 single] at member
      exact there (contains_iff.2 member)
    · intro other prototype
      rw [List.mem_append, holds.entries, List.mem_singleton, Prod.mk.injEq, holds.samePackage]
      constructor
      · rintro (⟨used, made⟩ | ⟨rfl, made⟩)
        · exact ⟨.inl used, made⟩
        · exact ⟨.inr rfl, made⟩
      · rintro ⟨used | rfl, made⟩
        · exact .inl ⟨used, made⟩
        · exact .inr ⟨rfl, made⟩

/-- **A use of several tables** adds these and no others. -/
theorem ensureAll (holds : r.Holds package known) (tables : List String) :
    (tables.foldl Registry.ensure r).Holds package fun table => known table ∨ table ∈ tables := by
  induction tables generalizing r known with
  | nil => exact holds.congr (by simp)
  | cons table rest ih => exact (ih (holds.ensure table)).congr (by simp [or_assoc])

end Holds

end RuleQuery.Plan.Registry
