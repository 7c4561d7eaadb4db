import RuleQuery.Plan.RuleSource
import RuleQuery.Proofs.Plan.Validity
import RuleQuery.Proofs.Text.SmallName

/-!
**The names and the lines of a rule source.**

* `Descriptor.identifiers`: all names that a plan gives to variables, prototypes, tables and fields.
* `unbroken_itemSource`: if none of them has a line break, an item of the body is written in one line;
* `breaks_ruleSource`: so **the number of lines is known from the number of items**, whatever the names
  are.
-/

namespace RuleQuery.Plan

/-! ### The names of a plan -/

/-- The name of the prototype that a variable is bound to, if it is one. -/
def VariableKind.prototype? : VariableKind → Option String
  | fact prototype => some prototype
  | groupKey | accumulate => none

/-- The names of a variable. -/
def Variable.identifiers (v : Variable) : List String :=
  v.name :: v.kind.prototype?.toList

/-- The names in a constraint. -/
def Constraint.identifiers : Constraint → List String
  | table name => [name]
  | join comparison => [comparison.field, comparison.otherField]

/-- The names in a pattern. -/
def Pattern.identifiers (p : Pattern) : List String :=
  p.table :: p.constraints.flatMap Constraint.identifiers

/-- The names in an item of a body. -/
def BodyItem.identifiers : BodyItem → List String
  | pattern p => p.identifiers
  | aggregation a => a.source.identifiers ++ [a.groupKeyField]

/-- **All names of a plan**, apart from its own name and package. -/
def Descriptor.identifiers (d : Descriptor) : List String :=
  d.arena.toList.flatMap Variable.identifiers ++ d.body.flatMap BodyItem.identifiers

/-! ### Texts of one line -/

/-- The text has no line break. -/
def Unbroken (text : String) : Prop :=
  '\n' ∉ text.toList

instance (text : String) : Decidable (Unbroken text) :=
  inferInstanceAs (Decidable ('\n' ∉ text.toList))

@[simp]
theorem unbroken_append {a b : String} : Unbroken (a ++ b) ↔ Unbroken a ∧ Unbroken b := by
  simp [Unbroken]

theorem unbroken_of_small {name : String} (named : Text.IsSmallName name) : Unbroken name :=
  named.not_mem (by decide)

theorem unbroken_intercalate {separator : String} {texts : List String}
    (between : Unbroken separator) (each : ∀ text ∈ texts, Unbroken text) :
    Unbroken (separator.intercalate texts) := by
  induction texts with
  | nil => simp [Unbroken]
  | cons text texts ih =>
    rw [List.forall_mem_cons] at each
    cases texts with
    | nil => simpa using each.1
    | cons other texts =>
      rw [String.intercalate_cons_cons, unbroken_append, unbroken_append]
      exact ⟨⟨each.1, between⟩, ih each.2⟩

/-- The number of line breaks of a text. -/
def breaks (text : String) : Nat :=
  text.toList.count '\n'

@[simp]
theorem breaks_append (a b : String) : breaks (a ++ b) = breaks a + breaks b := by
  simp [breaks]

theorem breaks_of_unbroken {text : String} (unbroken : Unbroken text) : breaks text = 0 :=
  List.count_eq_zero.2 unbroken

/-! ### The lines of the rule source -/

section Lines

variable {d : Descriptor} {factType text : String}

theorem unbroken_enquoted (unbroken : Unbroken text) : Unbroken (enquoted text) := by
  have quote : Unbroken "\"" := by decide
  simp [enquoted, unbroken, quote]

theorem unbroken_fieldAccess (unbroken : Unbroken text) : Unbroken (fieldAccess text) := by
  have opening : Unbroken "get(" := by decide
  have closing : Unbroken ")" := by decide
  simp [fieldAccess, unbroken_enquoted unbroken, opening, closing]

theorem mem_of_lookup {id : VarId} {v : Variable} (found : d.lookup id = .ok v) :
    v ∈ d.arena.toList := by
  unfold Descriptor.lookup Arena.get? at found
  cases place : d.arena.toList[id.index]? with
  | none =>
    rw [place] at found
    cases found
  | some other =>
    rw [place] at found
    cases found
    exact List.mem_of_getElem? place

variable (plain : ∀ v ∈ d.arena.toList, Unbroken v.name)
include plain

theorem unbroken_constraintSource {constraint : Constraint}
    (own : ∀ name ∈ constraint.identifiers, Unbroken name)
    (written : d.constraintSource constraint = .ok text) : Unbroken text := by
  cases constraint with
  | table name =>
    cases written
    rw [unbroken_append]
    exact ⟨by decide, unbroken_enquoted (own name (by simp [Constraint.identifiers]))⟩
  | join comparison =>
    simp only [Descriptor.constraintSource, bind_eq_ok_iff] at written
    obtain ⟨other, found, made⟩ := written
    cases made
    simp only [Constraint.identifiers, List.forall_mem_cons] at own
    have sign : Unbroken comparison.operator.symbol := by
      cases comparison.operator
      decide
    simp +decide [unbroken_fieldAccess own.1, unbroken_fieldAccess own.2.1, sign,
      plain other (mem_of_lookup found)]

theorem unbroken_constraintSources {constraints : List Constraint} {texts : List String}
    (own : ∀ name ∈ constraints.flatMap Constraint.identifiers, Unbroken name)
    (written : d.constraintSources constraints = .ok texts) : ∀ text ∈ texts, Unbroken text := by
  induction constraints generalizing texts with
  | nil =>
    cases written
    simp
  | cons constraint rest ih =>
    simp only [Descriptor.constraintSources, bind_eq_ok_iff] at written
    obtain ⟨first, firstWritten, others, othersWritten, made⟩ := written
    cases made
    rw [List.flatMap_cons, List.forall_mem_append] at own
    rw [List.forall_mem_cons]
    exact ⟨unbroken_constraintSource plain own.1 firstWritten, ih own.2 othersWritten⟩

variable (facts : Unbroken factType)
include facts

theorem unbroken_patternSource {p : Pattern} (own : ∀ name ∈ p.identifiers, Unbroken name)
    (written : d.patternSource factType p = .ok text) : Unbroken text := by
  simp only [Descriptor.patternSource, bind_eq_ok_iff] at written
  obtain ⟨binding, found, texts, textsWritten, made⟩ := written
  cases made
  rw [Pattern.identifiers, List.forall_mem_cons] at own
  have separated : Unbroken (", ".intercalate texts) :=
    unbroken_intercalate (by decide) (unbroken_constraintSources plain own.2 textsWritten)
  simp +decide [plain binding (mem_of_lookup found), facts, separated]

/-- **An item is written in one line.** -/
theorem unbroken_itemSource {item : BodyItem} (own : ∀ name ∈ item.identifiers, Unbroken name)
    (written : d.itemSource factType item = .ok text) : Unbroken text := by
  cases item with
  | pattern p => exact unbroken_patternSource plain facts own written
  | aggregation a =>
    simp only [Descriptor.itemSource, bind_eq_ok_iff] at written
    obtain ⟨source, sourceFound, key, keyFound, result, resultFound, pattern, patternWritten, made⟩ :=
      written
    cases made
    simp only [BodyItem.identifiers, List.forall_mem_append, List.forall_mem_singleton] at own
    have function : Unbroken a.accumulator.functionName := by
      cases a.accumulator
      decide
    simp +decide [unbroken_patternSource plain facts own.1 patternWritten, function,
      unbroken_fieldAccess own.2, plain source (mem_of_lookup sourceFound),
      plain key (mem_of_lookup keyFound), plain result (mem_of_lookup resultFound)]

/-- **Each item of the body is one line.** -/
theorem breaks_itemLines {items : List BodyItem}
    (own : ∀ name ∈ items.flatMap BodyItem.identifiers, Unbroken name)
    (written : d.itemLines factType items = .ok text) : breaks text = items.length := by
  induction items generalizing text with
  | nil =>
    cases written
    rfl
  | cons item rest ih =>
    simp only [Descriptor.itemLines, bind_eq_ok_iff] at written
    obtain ⟨line, lineWritten, others, othersWritten, made⟩ := written
    cases made
    rw [List.flatMap_cons, List.forall_mem_append] at own
    have single := breaks_of_unbroken (unbroken_itemSource plain facts own.1 lineWritten)
    have below := ih own.2 othersWritten
    have indent : breaks "    " = 0 := by decide
    have ends : breaks "\n" = 1 := by decide
    rw [breaks_append, breaks_append, breaks_append, single, below, indent, ends, List.length_cons]
    omega

end Lines

/-- **The rule source has four lines beside those of its items**, if no name has a line break. -/
theorem breaks_ruleSource {d : Descriptor} {factType source : String}
    (identifiers : ∀ name ∈ d.identifiers, Unbroken name) (name : Unbroken d.name)
    (package : Unbroken d.package) (facts : Unbroken factType)
    (written : d.ruleSource factType = .ok source) : breaks source = 4 + d.body.length := by
  simp only [Descriptor.ruleSource, bind_eq_ok_iff] at written
  obtain ⟨lines, linesWritten, made⟩ := written
  cases made
  rw [Descriptor.identifiers, List.forall_mem_append] at identifiers
  have plain : ∀ v ∈ d.arena.toList, Unbroken v.name := fun v member =>
    identifiers.1 v.name (List.mem_flatMap.2 ⟨v, member, by simp [Variable.identifiers]⟩)
  have items := breaks_itemLines plain facts identifiers.2 linesWritten
  have packages := breaks_of_unbroken package
  have names := breaks_of_unbroken (unbroken_enquoted name)
  have frame : breaks "package " = 0 ∧ breaks ";\n\nquery " = 2 ∧ breaks "\n" = 1 ∧
      breaks "end\n" = 1 := by decide
  simp only [breaks_append, items, packages, names, frame]
  omega

end RuleQuery.Plan
