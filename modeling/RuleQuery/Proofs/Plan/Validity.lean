import RuleQuery.Plan.Validity

/-!
**The checks of a plan, one by one.**

Each check passes exactly under a condition on its data: the names are all different
(`firstRepeated?_eq_none_iff`), the places are declared (`checkIds_eq_ok_iff`), a pattern starts with
the constraint on its table and refers to declared places (`checkPattern_eq_ok_iff`). Together they
say which plans are valid (`validate_eq_ok_iff`).
-/

namespace RuleQuery.Plan

/-- A sequence gives a value exactly if its first part does and the second does for that value. -/
theorem bind_eq_ok_iff {α β fault : Type} {x : Except fault α} {f : α → Except fault β}
    {b : β} : (x >>= f) = .ok b ↔ ∃ a, x = .ok a ∧ f a = .ok b := by
  constructor
  · intro ends
    cases x with
    | error error => cases ends
    | ok a => exact ⟨a, rfl, ends⟩
  · rintro ⟨a, rfl, ends⟩
    exact ends

theorem ok_bind {α β fault : Type} (a : α) (f : α → Except fault β) : (Except.ok a >>= f) = f a :=
  rfl

theorem error_bind {α β fault : Type} (e : fault) (f : α → Except fault β) :
    (Except.error e >>= f) = .error e :=
  rfl

/-! ### Names -/

/-- No name is repeated exactly if the names differ from each other and from the seen ones. -/
theorem firstRepeated?_eq_none_iff (seen names : List String) :
    firstRepeated? seen names = none ↔ names.Nodup ∧ ∀ name ∈ names, name ∉ seen := by
  induction names generalizing seen with
  | nil => simp [firstRepeated?]
  | cons name rest ih =>
    rw [firstRepeated?]
    by_cases known : name ∈ seen
    · simp [known]
    · rw [if_neg (by simpa using known), ih, List.nodup_cons]
      constructor
      · rintro ⟨distinct, fresh⟩
        refine ⟨⟨fun again => fresh name again (by simp), distinct⟩, ?_⟩
        intro other member
        rcases List.mem_cons.1 member with rfl | member
        · exact known
        · exact fun old => fresh other member (by simp [old])
      · rintro ⟨⟨single, distinct⟩, fresh⟩
        refine ⟨distinct, fun other member old => ?_⟩
        rcases List.mem_cons.1 old with rfl | old
        · exact single member
        · exact fresh other (by simp [member]) old

/-! ### Places -/

namespace Pattern

@[simp]
theorem bound_ofTable (id : VarId) (table : String) : (ofTable id table).bound = id := rfl

@[simp]
theorem joins_ofTable (id : VarId) (table : String) : (ofTable id table).joins = [] := rfl

@[simp]
theorem joins_addConstraint_join (p : Pattern) (comparison : JoinConstraint) :
    (p.addConstraint (.join comparison)).joins = p.joins ++ [comparison] := by
  simp [joins, addConstraint, Constraint.join?]

end Pattern

namespace Descriptor

/-- A variable is declared at the place. -/
def Declares (d : Descriptor) (id : VarId) : Prop :=
  id.index < d.arena.size

theorem lookup_of_declares {d : Descriptor} {id : VarId} (declared : d.Declares id) :
    ∃ v, d.lookup id = .ok v := by
  unfold lookup Arena.get?
  rw [List.getElem?_eq_getElem declared]
  exact ⟨_, rfl⟩

theorem lookup_of_not_declares {d : Descriptor} {id : VarId} (missing : ¬ d.Declares id) :
    d.lookup id = .error (.unknownVariable id) := by
  unfold lookup Arena.get?
  rw [List.getElem?_eq_none (Nat.le_of_not_lt missing)]

/-- Places pass the check exactly if they are all declared. -/
theorem checkIds_eq_ok_iff (d : Descriptor) (ids : List VarId) :
    d.checkIds ids = .ok () ↔ ∀ id ∈ ids, d.Declares id := by
  induction ids with
  | nil => simp [checkIds]
  | cons id rest ih =>
    rw [checkIds, List.forall_mem_cons]
    by_cases declared : d.Declares id
    · obtain ⟨v, found⟩ := lookup_of_declares declared
      rw [found]
      exact ih.trans (and_iff_right declared).symm
    · rw [lookup_of_not_declares declared]
      constructor
      · intro passed
        cases passed
      · intro both
        exact absurd both.1 declared

/-- **A pattern passes the check** exactly if its place and those of its joins are declared and it
starts with the constraint on its table. -/
theorem checkPattern_eq_ok_iff {d : Descriptor} {p : Pattern} :
    d.checkPattern p = .ok () ↔
      d.Declares p.bound ∧ p.constraints.head? = some (.table p.table) ∧
        ∀ join ∈ p.joins, d.Declares join.otherVariable := by
  unfold checkPattern
  by_cases declared : d.Declares p.bound
  · obtain ⟨v, found⟩ := lookup_of_declares declared
    rw [found]
    by_cases first : p.constraints.head? = some (.table p.table)
    · have ids := checkIds_eq_ok_iff d (p.joins.map JoinConstraint.otherVariable)
      rw [List.forall_mem_map] at ids
      simpa [declared, first, bind, Except.bind] using ids
    · simp [first, bind, Except.bind]
  · rw [lookup_of_not_declares declared]
    simp [declared, bind, Except.bind]

/-- An aggregation passes the check exactly if its pattern does, its two places are declared and
they differ. -/
theorem checkItem_aggregation_eq_ok_iff {d : Descriptor} {a : Aggregation} :
    d.checkItem (.aggregation a) = .ok () ↔
      d.checkPattern a.source = .ok () ∧ d.Declares a.groupKeyVariable ∧
        d.Declares a.resultVariable ∧ a.groupKeyVariable ≠ a.resultVariable := by
  have ids := checkIds_eq_ok_iff d [a.groupKeyVariable, a.resultVariable]
  unfold checkItem
  cases source : d.checkPattern a.source with
  | error => simp [source, bind, Except.bind]
  | ok =>
    cases places : d.checkIds [a.groupKeyVariable, a.resultVariable] with
    | error =>
      rw [places] at ids
      simp_all [bind, Except.bind]
    | ok =>
      rw [places] at ids
      simp only [source, places, bind, Except.bind]
      by_cases same : a.groupKeyVariable = a.resultVariable
      · simp [same]
      · simp_all [pure, Except.pure]

/-- Items pass the check exactly if each of them does. -/
theorem checkItems_eq_ok_iff (d : Descriptor) (items : List BodyItem) :
    d.checkItems items = .ok () ↔ ∀ item ∈ items, d.checkItem item = .ok () := by
  induction items with
  | nil => simp [checkItems]
  | cons item rest ih =>
    rw [checkItems, List.forall_mem_cons]
    cases d.checkItem item with
    | error => simp [bind, Except.bind]
    | ok => simpa [bind, Except.bind] using ih

/-- **A plan is valid** exactly if its names are different, its items pass and its body has one of
the three forms. -/
theorem validate_eq_ok_iff {d : Descriptor} :
    d.validate = .ok () ↔
      d.arena.names.Nodup ∧ (∀ item ∈ d.body, d.checkItem item = .ok ()) ∧
        checkShape d.body = .ok () := by
  have names := firstRepeated?_eq_none_iff [] d.arena.names
  have items := checkItems_eq_ok_iff d d.body
  unfold validate
  cases repeated : firstRepeated? [] d.arena.names with
  | some name => simp_all
  | none =>
    have distinct : d.arena.names.Nodup := (names.1 repeated).1
    cases passed : d.checkItems d.body with
    | error =>
      have failed : ¬ ∀ item ∈ d.body, d.checkItem item = .ok () := by
        intro all
        rw [items.2 all] at passed
        cases passed
      simp [failed, bind, Except.bind]
    | ok =>
      have all := items.1 passed
      cases shape : checkShape d.body with
      | error => exact ⟨nofun, nofun⟩
      | ok => exact ⟨fun _ => ⟨distinct, all, rfl⟩, fun _ => rfl⟩

end Descriptor

end RuleQuery.Plan
