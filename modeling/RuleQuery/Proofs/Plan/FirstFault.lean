import RuleQuery.Proofs.Plan.RoundTrip
import RuleQuery.Proofs.Plan.Validity

/-!
**The first fault of a plan.**

A plan is checked part by part, and the first fault ends the work.

* `Check`: what is asked of one part, and `Descriptor.checks`: all that is asked of the items of a
  body, in order.
* `Follows`: a computation gives a value if a list of checks passes, and otherwise the error of the
  first check that does not. It goes along with the sequence of computations (`Follows.bind`), so that
  each function of the checker is followed once.
* `checkItems_follows`: the items are checked in this order.
* `validate_iff_supported_and_firstFault`: **which plans are valid**, without the checker, and which
  reference to a missing variable is reported for the others.
-/

namespace RuleQuery.Plan

/-! ### Checks -/

/-- What is asked of one part of a plan. -/
inductive Check where
  /-- A variable is declared at the place. -/
  | declared (id : VarId)
  /-- The pattern starts with the constraint on its table. -/
  | ownTable (p : Pattern)
  /-- The key of the group is not its result. -/
  | keyApart (a : Aggregation)

instance (d : Descriptor) (id : VarId) : Decidable (d.Declares id) :=
  inferInstanceAs (Decidable (id.index < d.arena.size))

namespace Check

/-- The part is as it should be. -/
def Passes (d : Descriptor) : Check → Prop
  | declared id => d.Declares id
  | ownTable p => p.constraints.head? = some (.table p.table)
  | keyApart a => a.groupKeyVariable ≠ a.resultVariable

instance (d : Descriptor) : (check : Check) → Decidable (check.Passes d)
  | declared id => inferInstanceAs (Decidable (d.Declares id))
  | ownTable p => inferInstanceAs (Decidable (p.constraints.head? = some (.table p.table)))
  | keyApart a => inferInstanceAs (Decidable (a.groupKeyVariable ≠ a.resultVariable))

/-- The error of a part that is not. -/
def error : Check → Error
  | declared id => .unknownVariable id
  | ownTable p => .invalidBody (.tableConstraintMissing p.table)
  | keyApart _ => .invalidBody .keyIsResult

theorem error_eq_unknownVariable_iff {check : Check} {id : VarId} :
    check.error = .unknownVariable id ↔ check = declared id := by
  cases check <;> simp [error]

end Check

namespace Descriptor

/-- **The first of some checks that does not pass.** -/
def firstFault? (d : Descriptor) (checks : List Check) : Option Check :=
  checks.find? fun check => ¬ check.Passes d

variable {d : Descriptor} {check : Check} {checks : List Check}

theorem firstFault?_eq_none_iff :
    d.firstFault? checks = none ↔ ∀ check ∈ checks, check.Passes d := by
  simp [firstFault?, List.find?_eq_none]

theorem firstFault?_cons_of_passes (passes : check.Passes d) :
    d.firstFault? (check :: checks) = d.firstFault? checks := by
  simp [firstFault?, passes]

theorem firstFault?_cons_of_not_passes (fails : ¬ check.Passes d) :
    d.firstFault? (check :: checks) = some check := by
  simp [firstFault?, fails]

end Descriptor

/-! ### Computations that follow checks -/

/-- **A computation follows checks**: it gives a value if they all pass, and otherwise the error of
the first that does not. -/
inductive Follows (d : Descriptor) {α : Type} (checks : List Check) : Except Error α → Prop where
  | value (flawless : d.firstFault? checks = none) (a : α) : Follows d checks (.ok a)
  | failure {check : Check} (found : d.firstFault? checks = some check) :
      Follows d checks (.error check.error)

namespace Follows

open Descriptor

variable {d : Descriptor} {α β : Type} {checks first second : List Check} {x : Except Error α}

theorem pure (a : α) : Follows d [] (.ok a) :=
  .value rfl a

/-- **Computations in sequence.** The second one starts only if the checks of the first pass. -/
theorem bind {f : α → Except Error β} (start : Follows d first x)
    (next : ∀ a, (∀ check ∈ first, check.Passes d) → Follows d second (f a)) :
    Follows d (first ++ second) (x >>= f) := by
  have split : d.firstFault? (first ++ second) =
      (d.firstFault? first).or (d.firstFault? second) := List.find?_append
  cases start with
  | failure found =>
    refine .failure ?_
    rw [split, found, Option.some_or]
  | value flawless a =>
    have rest := next a (firstFault?_eq_none_iff.1 flawless)
    show Follows d _ (f a)
    generalize f a = y at rest ⊢
    rw [flawless, Option.none_or] at split
    cases rest with
    | value flawless b => exact .value (split.trans flawless) b
    | failure found => exact .failure (split.trans found)

/-- A last step that gives a value. -/
theorem map {f : α → Except Error β} (start : Follows d checks x) (value : ∀ a, ∃ b, f a = .ok b) :
    Follows d checks (x >>= f) := by
  rw [← List.append_nil checks]
  refine start.bind fun a _ => ?_
  obtain ⟨b, made⟩ := value a
  rw [made]
  exact .pure b

/-- A check that does not pass is the first fault. -/
theorem failed (check : Check) (fails : ¬ check.Passes d) :
    Follows d (check :: checks) (.error check.error : Except Error α) :=
  .failure (firstFault?_cons_of_not_passes fails)

/-- A check that passes makes no difference. -/
theorem cons_iff (check : Check) (passes : check.Passes d) :
    Follows d (check :: checks) x ↔ Follows d checks x := by
  have same : d.firstFault? (check :: checks) = d.firstFault? checks :=
    firstFault?_cons_of_passes passes
  constructor
  · rintro (⟨flawless, a⟩ | ⟨found⟩)
    · exact .value (same.symm.trans flawless) a
    · exact .failure (same.symm.trans found)
  · rintro (⟨flawless, a⟩ | ⟨found⟩)
    · exact .value (same.trans flawless) a
    · exact .failure (same.trans found)

/-- A computation gives a value exactly if its checks pass. -/
theorem exists_ok_iff (follows : Follows d checks x) :
    (∃ a, x = .ok a) ↔ ∀ check ∈ checks, check.Passes d := by
  rw [← firstFault?_eq_none_iff]
  cases follows with
  | value flawless a => simp [flawless]
  | failure found => simp [found]

/-- A computation gives an error exactly if it is that of the first fault. -/
theorem eq_error_iff (follows : Follows d checks x) {e : Error} :
    x = .error e ↔ ∃ check, d.firstFault? checks = some check ∧ e = check.error := by
  cases follows with
  | value flawless a => simp [flawless]
  | failure found => simp [found, eq_comm]

end Follows

/-! ### The checks of a plan -/

/-- The checks of references, in order. -/
def declarations (ids : List VarId) : List Check :=
  ids.map .declared

/-- The checks of a pattern: its variable, its table, its joins. -/
def Pattern.checks (p : Pattern) : List Check :=
  .declared p.bound :: .ownTable p :: declarations (p.joins.map JoinConstraint.otherVariable)

/-- The checks of an item. An aggregation has those of its pattern, then key and result. -/
def BodyItem.checks : BodyItem → List Check
  | pattern p => p.checks
  | aggregation a =>
    a.source.checks ++
      (declarations [a.groupKeyVariable, a.resultVariable] ++ [.keyApart a])

namespace Descriptor

/-- **The checks of the items of a body**, in order. -/
def checks (d : Descriptor) : List Check :=
  d.body.flatMap BodyItem.checks

variable {d : Descriptor}

theorem lookup_follows (id : VarId) : Follows d [.declared id] (d.lookup id) := by
  by_cases declared : d.Declares id
  · obtain ⟨v, found⟩ := lookup_of_declares declared
    rw [found]
    exact (Follows.cons_iff (.declared id) declared).2 (.pure v)
  · rw [lookup_of_not_declares declared]
    exact .failed (.declared id) declared

theorem checkIds_follows (ids : List VarId) : Follows d (declarations ids) (d.checkIds ids) := by
  induction ids with
  | nil => exact .pure ()
  | cons id rest ih => exact (lookup_follows id).bind fun _ _ => ih

theorem checkPattern_follows (p : Pattern) : Follows d p.checks (d.checkPattern p) := by
  refine (lookup_follows p.bound).bind fun _ _ => ?_
  by_cases first : p.constraints.head? = some (.table p.table)
  · rw [if_pos first]
    exact (Follows.cons_iff (.ownTable p) first).2 (checkIds_follows _)
  · rw [if_neg first]
    exact .failed (.ownTable p) first

theorem checkItem_follows (item : BodyItem) : Follows d item.checks (d.checkItem item) := by
  cases item with
  | pattern p => exact checkPattern_follows p
  | aggregation a =>
    refine (checkPattern_follows a.source).bind fun _ _ => ?_
    refine (checkIds_follows [a.groupKeyVariable, a.resultVariable]).bind fun _ _ => ?_
    by_cases same : a.groupKeyVariable = a.resultVariable
    · rw [if_pos same]
      exact .failed (.keyApart a) (absurd same)
    · rw [if_neg same]
      exact (Follows.cons_iff (.keyApart a) same).2 (.pure ())

/-- **The items are checked in their order**, up to the first fault. -/
theorem checkItems_follows (items : List BodyItem) :
    Follows d (items.flatMap BodyItem.checks) (d.checkItems items) := by
  induction items with
  | nil => exact .pure ()
  | cons item rest ih => exact (checkItem_follows item).bind fun _ _ => ih

end Descriptor

/-! ### Valid plans -/

/-- The pattern of an item, or the pattern that it groups. -/
def BodyItem.source : BodyItem → Pattern
  | pattern p => p
  | aggregation a => a.source

/-- **The bodies that are supported.** -/
inductive Supported : List BodyItem → Prop where
  /-- One pattern without a join. -/
  | single {p : Pattern} (unjoined : p.joins = []) : Supported [.pattern p]
  /-- Two patterns: the first without a join, the second with one, which is with the first. -/
  | pair {first second : Pattern} {join : JoinConstraint} (unjoined : first.joins = [])
      (joined : second.joins = [join]) (anchored : join.otherVariable = first.bound) :
      Supported [.pattern first, .pattern second]
  /-- One aggregation of a pattern without a join, whose key and result are different variables. -/
  | counted {a : Aggregation} (unjoined : a.source.joins = [])
      (apart : a.groupKeyVariable ≠ a.resultVariable) : Supported [.aggregation a]

/-- The shape of a body is that of a supported one, apart from keys that are results. -/
theorem supported_iff {body : List BodyItem} :
    Supported body ↔ checkShape body = .ok () ∧
      ∀ a, BodyItem.aggregation a ∈ body → a.groupKeyVariable ≠ a.resultVariable := by
  constructor
  · intro supported
    cases supported with
    | single unjoined => simp [checkShape, unjoined]
    | pair unjoined joined anchored => simp [checkShape, unjoined, joined, anchored]
    | counted unjoined apart => simp [checkShape, unjoined, apart]
  · rintro ⟨shape, apart⟩
    unfold checkShape at shape
    split at shape
    · split at shape
      · exact .single ‹_›
      · cases shape
    · split at shape
      · split at shape
        · split at shape
          · exact .pair ‹_› ‹_› ‹_›
          · cases shape
        · cases shape
      · cases shape
    · split at shape
      · exact .counted ‹_› (apart _ List.mem_cons_self)
      · cases shape
    · cases shape

theorem Pattern.references_eq (p : Pattern) :
    p.references = p.bound :: p.joins.map JoinConstraint.otherVariable := by
  have joins (constraints : List Constraint) : constraints.flatMap Constraint.references =
      (constraints.filterMap Constraint.join?).map JoinConstraint.otherVariable := by
    induction constraints with
    | nil => rfl
    | cons constraint rest ih =>
      rw [List.flatMap_cons, ih]
      cases constraint <;> rfl
  rw [references, joins, Pattern.joins]

section Valid

variable {d : Descriptor}

theorem forall_mem_declarations {ids : List VarId} :
    (∀ check ∈ declarations ids, check.Passes d) ↔ ∀ id ∈ ids, d.Declares id :=
  List.forall_mem_map

theorem Pattern.checks_pass_iff {p : Pattern} :
    (∀ check ∈ p.checks, check.Passes d) ↔
      p.constraints.head? = some (.table p.table) ∧ ∀ id ∈ p.references, d.Declares id := by
  rw [checks, references_eq, List.forall_mem_cons, List.forall_mem_cons, List.forall_mem_cons,
    forall_mem_declarations, and_left_comm]
  rfl

/-- **An item passes its checks** exactly if its pattern starts with the constraint on its table, its
references are declared, and a key is not the result. -/
theorem BodyItem.checks_pass_iff {item : BodyItem} :
    (∀ check ∈ item.checks, check.Passes d) ↔
      item.source.constraints.head? = some (.table item.source.table) ∧
        (∀ id ∈ item.references, d.Declares id) ∧
          ∀ a, item = .aggregation a → a.groupKeyVariable ≠ a.resultVariable := by
  cases item with
  | pattern p => simp [checks, source, references, Pattern.checks_pass_iff]
  | aggregation a =>
    have apart : (∀ check ∈ [Check.keyApart a], check.Passes d) ↔
        a.groupKeyVariable ≠ a.resultVariable := List.forall_mem_singleton
    rw [checks, references, List.forall_mem_append, List.forall_mem_append, List.forall_mem_append,
      Pattern.checks_pass_iff, forall_mem_declarations, apart]
    simp [source, and_assoc]

/-- **The items pass their checks** exactly if each of them does. -/
theorem Descriptor.checks_pass_iff :
    (∀ check ∈ d.checks, check.Passes d) ↔
      (∀ item ∈ d.body, item.source.constraints.head? = some (.table item.source.table)) ∧
        (∀ id ∈ d.references, d.Declares id) ∧
          ∀ a, BodyItem.aggregation a ∈ d.body → a.groupKeyVariable ≠ a.resultVariable := by
  simp only [checks, references, List.forall_mem_flatMap, BodyItem.checks_pass_iff, forall_and]
  grind

/-- All items pass the checker exactly if all checks of the plan pass. -/
theorem checkItem_all_iff_checks_pass :
    (∀ item ∈ d.body, d.checkItem item = .ok ()) ↔ ∀ check ∈ d.checks, check.Passes d := by
  rw [← Descriptor.checkItems_eq_ok_iff]
  exact (exists_const Unit).symm.trans (Descriptor.checkItems_follows d.body).exists_ok_iff

/-- **A reference to a missing variable is reported** exactly if the names are different and it is the
first fault of the items: the shape of the body is looked at after them. -/
theorem validate_eq_unknownVariable_iff {id : VarId} :
    d.validate = .error (.unknownVariable id) ↔
      d.arena.names.Nodup ∧ d.firstFault? d.checks = some (.declared id) := by
  have names := firstRepeated?_eq_none_iff [] d.arena.names
  have items := Descriptor.checkItems_follows (d := d) d.body
  unfold Descriptor.validate
  cases repeated : firstRepeated? [] d.arena.names with
  | some name =>
    have same : ¬ d.arena.names.Nodup := by simpa [repeated] using names
    exact ⟨nofun, fun both => absurd both.1 same⟩
  | none =>
    have distinct : d.arena.names.Nodup := (names.1 repeated).1
    rw [and_iff_right distinct, Descriptor.checks]
    generalize d.checkItems d.body = checked at items ⊢
    cases items with
    | failure found =>
      rw [found, Option.some_inj, ← Check.error_eq_unknownVariable_iff]
      exact ⟨Except.error.inj, congrArg Except.error⟩
    | value flawless =>
      rw [flawless]
      cases checkShape d.body <;> exact ⟨nofun, nofun⟩

/-- **A plan is valid** exactly if its names are different, each pattern starts with the constraint on
its table, every reference is declared and the body is supported. **A reference to a missing variable
is reported** exactly if the names are different and the first fault of the items, in their order, is
that reference. -/
theorem validate_iff_supported_and_firstFault (d : Descriptor) :
    (d.validate = .ok () ↔
      d.arena.names.Nodup ∧
        (∀ item ∈ d.body, item.source.constraints.head? = some (.table item.source.table)) ∧
          (∀ id ∈ d.references, id.index < d.arena.size) ∧ Supported d.body) ∧
    ∀ id, d.validate = .error (.unknownVariable id) ↔
      d.arena.names.Nodup ∧ d.firstFault? d.checks = some (.declared id) := by
  refine ⟨?_, fun id => validate_eq_unknownVariable_iff⟩
  rw [Descriptor.validate_eq_ok_iff, checkItem_all_iff_checks_pass, Descriptor.checks_pass_iff,
    supported_iff]
  constructor
  · rintro ⟨distinct, ⟨tables, declared, apart⟩, shape⟩
    exact ⟨distinct, tables, declared, shape, apart⟩
  · rintro ⟨distinct, tables, declared, shape, apart⟩
    exact ⟨distinct, ⟨tables, declared, apart⟩, shape⟩

end Valid

end RuleQuery.Plan
