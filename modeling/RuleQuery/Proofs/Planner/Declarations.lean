import RuleQuery.Proofs.Planner.Steps

/-!
**Variables declared under free names, one after the other.**

* `firstFree?_eq`: a search for a free form of a taken name ends at the same one, whatever its limit
  is, from the number of variables on.
* `get?_declareEach`, `get?_declareEach_cons`: a declaration binds the next place and no other.
* `declareEach_run`: any number of declarations give the places that follow each other.
* `declarations_fresh`: **declared names are free, and declared variables stay as they are.**
-/

namespace RuleQuery.Plan.Arena

variable {arena : Arena} {base : String}

/-! ### The search for a free name -/

/-- **A search that may go on for longer** stops at the same name. -/
theorem firstFree?_eq (used : base ∈ arena.names) {limit : Nat} (enough : arena.size ≤ limit) :
    arena.firstFree? base limit = some (arena.uniqueName base) := by
  obtain ⟨number, small, named, free, below⟩ := exists_least_number used
  rw [named]
  exact firstFree?_eq_some_iff.2 ⟨number, Nat.lt_of_lt_of_le small enough, rfl, free, below⟩

/-! ### Declarations -/

/-- The variables after several declarations, each under a free name. -/
def declareEach (arena : Arena) (requests : List (String × VariableKind)) : Arena :=
  requests.foldl (fun arena request => arena.declareUnique request.1 request.2) arena

variable {requests : List (String × VariableKind)}

/-- Declarations add variables at the end. -/
theorem toList_prefix_declareEach (arena : Arena) (requests : List (String × VariableKind)) :
    arena.toList <+: (arena.declareEach requests).toList := by
  induction requests generalizing arena with
  | nil => exact List.prefix_rfl
  | cons request rest ih => exact (List.prefix_append _ _).trans (ih (arena.declareUnique _ _))

/-- **A declared variable stays** at its place. -/
theorem get?_declareEach {id : VarId} {v : Variable} (declared : arena.get? id = some v)
    (requests : List (String × VariableKind)) : (arena.declareEach requests).get? id = some v := by
  obtain ⟨added, whole⟩ := toList_prefix_declareEach arena requests
  rw [get?] at declared ⊢
  obtain ⟨small, same⟩ := List.getElem?_eq_some_iff.1 declared
  rw [← whole, List.getElem?_append_left small, declared]

/-- **The next declaration** takes the next place, under a free name. -/
theorem get?_declareEach_cons (arena : Arena) (request : String × VariableKind)
    (rest : List (String × VariableKind)) :
    (arena.declareEach (request :: rest)).get? arena.nextId =
      some ⟨arena.uniqueName request.1, request.2⟩ := by
  have first : (arena.declareUnique request.1 request.2).get? arena.nextId =
      some ⟨arena.uniqueName request.1, request.2⟩ := by
    simp [get?, nextId, declareUnique, declare, size]
  exact get?_declareEach first rest

theorem size_declareUnique (arena : Arena) (base : String) (kind : VariableKind) :
    (arena.declareUnique base kind).size = arena.size + 1 := by
  simp [declareUnique, declare, size]

theorem size_declareEach (arena : Arena) (requests : List (String × VariableKind)) :
    (arena.declareEach requests).size = arena.size + requests.length := by
  induction requests generalizing arena with
  | nil => rfl
  | cons request rest ih =>
    rw [declareEach, List.foldl_cons, ← declareEach, ih, size_declareUnique, List.length_cons]
    omega

/-- **Names stay different** under any declarations. -/
theorem declareEach_nodup (distinct : arena.names.Nodup) (requests : List (String × VariableKind)) :
    (arena.declareEach requests).names.Nodup := by
  induction requests generalizing arena with
  | nil => exact distinct
  | cons request rest ih => exact ih (declareUnique_nodup distinct request.1 request.2)

end RuleQuery.Plan.Arena

namespace RuleQuery.Planner

open Plan

/-- Declares variables one after the other and gives their places. -/
def declareEach (requests : List (String × VariableKind)) : Planning (List VarId) :=
  requests.mapM fun request => declareUnique request.1 request.2

/-- **Declarations give places that follow each other**, and change only the variables. -/
theorem declareEach_run (scope : Scope) (requests : List (String × VariableKind)) :
    (declareEach requests).run scope =
      .ok ((List.range' scope.arena.size requests.length).map VarId.mk)
        { scope with arena := scope.arena.declareEach requests } := by
  induction requests generalizing scope with
  | nil => rfl
  | cons request rest ih =>
    rw [declareEach] at ih
    rw [declareEach, List.mapM_cons, EStateM.run_bind, declareUnique_run]
    dsimp only
    rw [EStateM.run_bind, ih]
    dsimp only
    rw [Arena.size_declareUnique, List.length_cons, List.range'_succ, List.map_cons]
    rfl

/-- **Declared names are free, and declared variables stay as they are.** A name that is taken gets
the least number that makes it free, and a search finds it among as many numbers as there are
variables. Declarations keep names different, each takes the next place for a variable of its own,
and no place changes hands. -/
theorem declarations_fresh (scope : Scope) :
    (∀ base, scope.arena.uniqueName base ∉ scope.arena.names ∧
      (base ∉ scope.arena.names → scope.arena.uniqueName base = base) ∧
      (base ∈ scope.arena.names → ∃ number, 1 ≤ number ∧ number ≤ scope.arena.size ∧
        scope.arena.uniqueName base = Arena.numbered base number ∧
        (∀ smaller, 1 ≤ smaller → smaller < number →
          Arena.numbered base smaller ∈ scope.arena.names) ∧
        ∀ limit, scope.arena.size ≤ limit →
          scope.arena.firstFree? base limit = some (Arena.numbered base number))) ∧
    (scope.arena.names.Nodup → ∀ requests, ∃ ids after,
      (declareEach requests).run scope = .ok ids after ∧
      after.arena.names.Nodup ∧
      ids = (List.range' scope.arena.size requests.length).map VarId.mk ∧
      ∀ done base kind todo, requests = done ++ (base, kind) :: todo → ∃ before id,
        (declareEach done).run scope = .ok (ids.take done.length) before ∧
        ids[done.length]? = some id ∧
        before.arena.get? id = none ∧
        after.arena.get? id = some ⟨before.arena.uniqueName base, kind⟩ ∧
        ∀ earlier v, before.arena.get? earlier = some v → after.arena.get? earlier = some v) := by
  constructor
  · intro base
    have named := scope.arena.uniqueName_free base
    refine ⟨named.not_mem, fun free => named.unique (.wanted free), fun used => ?_⟩
    obtain ⟨number, small, least, _, below⟩ := Arena.exists_least_number used
    refine ⟨number + 1, by omega, by omega, least, fun smaller positive less => ?_, ?_⟩
    · obtain ⟨smaller, rfl⟩ := Nat.exists_eq_add_of_le' positive
      exact below smaller (by omega)
    · intro limit enough
      rw [Arena.firstFree?_eq used enough, least]
  · intro distinct requests
    refine ⟨_, _, declareEach_run scope requests, Arena.declareEach_nodup distinct requests, rfl, ?_⟩
    rintro done base kind todo rfl
    let before : Scope := { scope with arena := scope.arena.declareEach done }
    have next : before.arena.nextId = ⟨scope.arena.size + done.length⟩ :=
      congrArg VarId.mk (Arena.size_declareEach scope.arena done)
    have whole : scope.arena.declareEach (done ++ (base, kind) :: todo) =
        before.arena.declareEach ((base, kind) :: todo) := List.foldl_append
    refine ⟨before, before.arena.nextId, ?_, ?_, ?_, ?_, fun earlier v declared => ?_⟩
    · rw [declareEach_run, ← List.map_take, List.length_append, ← List.range'_append_1,
        List.take_left' List.length_range']
    · rw [next, List.getElem?_map, List.getElem?_range' (by simp)]
      simp
    · simp [Arena.get?, Arena.nextId, Arena.size]
    · dsimp only
      rw [whole, Arena.get?_declareEach_cons]
    · dsimp only
      rw [whole, Arena.get?_declareEach declared]

/-- A scope in which a name and its first numbered form are taken. -/
def crowded : Scope :=
  ⟨.empty "p", [], ⟨[⟨"count", .fact "orders"⟩, ⟨"count_1", .groupKey⟩]⟩, []⟩

/-- In a crowded scope the name gets its second numbered form, at the third place. -/
theorem crowded_declarations :
    crowded.arena.names.Nodup ∧ "count" ∈ crowded.arena.names ∧
      crowded.arena.uniqueName "count" = "count_2" ∧
      (∃ number ≤ 2, crowded.arena.uniqueName "count" = Arena.numbered "count" number) ∧
      ∃ ids after, (declareEach [("count", .accumulate), ("count", .groupKey)]).run crowded =
          .ok ids after ∧
        after.arena.names.Nodup ∧ ids = [⟨2⟩, ⟨3⟩] ∧
        after.arena.get? ⟨2⟩ = some ⟨"count_2", .accumulate⟩ := by
  obtain ⟨search, declarations⟩ := declarations_fresh crowded
  have distinct : crowded.arena.names.Nodup := by decide
  have used : "count" ∈ crowded.arena.names := by decide
  have second : crowded.arena.uniqueName "count" = "count_2" := by decide
  obtain ⟨number, _, small, named, _⟩ := (search "count").2.2 used
  obtain ⟨ids, after, run, kept, places, each⟩ :=
    declarations distinct [("count", .accumulate), ("count", .groupKey)]
  obtain ⟨before, id, start, here, -, bound, -⟩ := each [] "count" .accumulate _ rfl
  cases start
  rw [places] at here
  cases here
  exact ⟨distinct, used, second, ⟨number, small, named⟩, ids, after, run, kept, places, second ▸ bound⟩

end RuleQuery.Planner
