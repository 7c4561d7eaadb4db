import RuleQuery.Proofs.Planner.Planned

/-!
**The events of a call tell what it does.**

A query admits a relation when it binds its alias. An admitted relation uses its table, and the event
of this use says whether the registry knew the table before. No other step of planning uses tables.

* `accesses`: the events of tables used in turn. They name the tables that the registry gets
  (`tables_foldl_ensure`), each once (`count_created`), and tell of each use (`count_used`).
* `Progress`: what a part of a call has done when it admitted some relations. It goes along with the
  sequence of steps (`Progress.bind`), and a quiet step makes none.
* `body_progress`: a query makes progress by the relations that it admits.
* `plan_tells_truth`: **the events of a call begin with its span and end with its result, and the
  tables that they report as new are those that the registry gets**, unless the call fails.
-/

namespace RuleQuery.Planner

open Plan Sql

/-! ### Uses of tables -/

/-- The table that an event names. -/
def Event.table? (event : Event) : Option String :=
  match event.fields.lookup "table" with
  | some (.str table) => some table
  | _ => none

/-- The event tells of a use of a table. -/
def Event.isAccess (event : Event) : Bool :=
  event.message = "creating prototype" || event.message = "reusing prototype"

/-- **The tables that the events with a sentence name**, in their order. -/
def toldTables (sentence : String) (events : List Event) : List String :=
  events.filterMap fun event => if event.message = sentence then event.table? else none

/-- The events of tables that are used in turn. -/
def accesses (registry : Registry) : List String → List Event
  | [] => []
  | table :: rest => .ofAccess registry table :: accesses (registry.ensure table) rest

theorem accesses_append (registry : Registry) (tables others : List String) :
    accesses registry (tables ++ others) =
      accesses registry tables ++ accesses (tables.foldl Registry.ensure registry) others := by
  induction tables generalizing registry with
  | nil => rfl
  | cons table tables ih => exact congrArg (_ :: ·) (ih (registry.ensure table))

theorem created_ofAccess (registry : Registry) (table : String) (rest : List Event) :
    toldTables "creating prototype" (.ofAccess registry table :: rest) =
      if registry.contains table then toldTables "creating prototype" rest
      else table :: toldTables "creating prototype" rest := by
  unfold Event.ofAccess
  split <;> rfl

theorem reused_ofAccess (registry : Registry) (table : String) (rest : List Event) :
    toldTables "reusing prototype" (.ofAccess registry table :: rest) =
      if registry.contains table then table :: toldTables "reusing prototype" rest
      else toldTables "reusing prototype" rest := by
  unfold Event.ofAccess
  split <;> rfl

/-- **The tables reported as new are those that the registry gets**, in their order. -/
theorem tables_foldl_ensure (registry : Registry) (tables : List String) :
    (tables.foldl Registry.ensure registry).entries.map Prod.fst =
      registry.entries.map Prod.fst ++ toldTables "creating prototype" (accesses registry tables) := by
  induction tables generalizing registry with
  | nil => exact (List.append_nil _).symm
  | cons table tables ih =>
    rw [List.foldl_cons, ih, accesses, created_ofAccess, Registry.ensure]
    split
    · rfl
    · rw [List.map_append, List.append_assoc]
      rfl

/-- **A table is reported as new once**, if it is used and the registry did not know it. -/
theorem count_created (registry : Registry) (tables : List String) (table : String) :
    (toldTables "creating prototype" (accesses registry tables)).count table =
      if table ∈ tables ∧ ¬ registry.contains table then 1 else 0 := by
  induction tables generalizing registry with
  | nil => rfl
  | cons next tables ih =>
    have later := ih (registry.ensure next)
    simp only [Registry.contains_ensure] at later
    rw [accesses, created_ofAccess]
    by_cases known : registry.contains next = true
    · rw [if_pos known, later]
      by_cases here : table = next
      · subst here
        simp [known]
      · simp [here]
    · rw [if_neg known, List.count_cons, later]
      by_cases here : table = next
      · subst here
        simp [known]
      · simp [here, Ne.symm here]

/-- **Each use of a table is reported**, as that of a new table or of a known one. -/
theorem count_used (registry : Registry) (tables : List String) (table : String) :
    (toldTables "creating prototype" (accesses registry tables)).count table +
        (toldTables "reusing prototype" (accesses registry tables)).count table =
      tables.count table := by
  induction tables generalizing registry with
  | nil => rfl
  | cons next tables ih =>
    have later := ih (registry.ensure next)
    rw [accesses, created_ofAccess, reused_ofAccess]
    split <;> simp only [List.count_cons] <;> omega

/-- Only the events of uses have a say in which tables are used. -/
theorem toldTables_filter {sentence : String}
    (used : sentence = "creating prototype" ∨ sentence = "reusing prototype") (events : List Event) :
    toldTables sentence (events.filter Event.isAccess) = toldTables sentence events := by
  unfold toldTables
  rw [List.filterMap_filter]
  congr 1
  funext event
  by_cases said : event.message = sentence
  · rw [if_pos (by simpa [Event.isAccess, said] using used)]
  · simp [said]

/-! ### Progress of a call -/

/-- The sentences at both ends of a call. -/
def outerSentences : List String :=
  ["translate", "query assembled", "translation failed, restoring schema registry"]

/-- The sentences that say something of a call or of the registry. -/
def markedSentences : List String :=
  "creating prototype" :: "reusing prototype" :: outerSentences

/-- The aliases that are bound, with their tables. -/
def boundTables (aliases : List (String × Binding)) : List (String × String) :=
  aliases.map fun entry => (entry.1, entry.2.table)

/-- **What a part of a call has done when it admitted some relations.** -/
structure Progress (relations : List TableRef) (before after : Scope) : Prop where
  /-- The events say which tables were used, and nothing of the beginning or the end of a call. -/
  events : ∃ inner, after.events = before.events ++ inner ∧
    (∀ event ∈ inner, event.message ∉ outerSentences) ∧
    inner.filter Event.isAccess = accesses before.registry (relations.map tableOf)
  /-- The registry knows the tables. -/
  registry : after.registry = (relations.map tableOf).foldl Registry.ensure before.registry
  /-- The aliases are bound to the tables. -/
  aliases : boundTables after.aliases =
    boundTables before.aliases ++ relations.map fun t => (aliasOf t, tableOf t)

/-- The scope in which a step ends. -/
def endScope {α : Type} : EStateM.Result Error Scope α → Scope
  | .ok _ scope => scope
  | .error _ scope => scope

/-- The step admits no relation, however it ends. -/
def Quiet {α : Type} (x : Planning α) : Prop :=
  ∀ scope, Progress [] scope (endScope (x.run scope))

namespace Progress

variable {α β : Type} {relations others : List TableRef} {before middle after scope : Scope}

theorem refl (scope : Scope) : Progress [] scope scope :=
  ⟨⟨[], (List.append_nil _).symm, List.forall_mem_nil _, rfl⟩, rfl, (List.append_nil _).symm⟩

/-- **Progress in sequence.** -/
theorem trans (first : Progress relations before middle) (second : Progress others middle after) :
    Progress (relations ++ others) before after := by
  obtain ⟨⟨inner, told, quiet, used⟩, registry, aliases⟩ := first
  obtain ⟨⟨inner', told', quiet', used'⟩, registry', aliases'⟩ := second
  refine ⟨⟨inner ++ inner', ?_, List.forall_mem_append.2 ⟨quiet, quiet'⟩, ?_⟩, ?_, ?_⟩
  · rw [told', told, List.append_assoc]
  · rw [List.filter_append, used, used', registry, List.map_append, accesses_append]
  · rw [registry', registry, List.map_append, List.foldl_append]
  · rw [aliases', aliases, List.map_append, List.append_assoc]

/-- A step that is followed by quiet ones. -/
theorem bind {x : Planning α} {f : α → Planning β}
    (first : Progress relations scope (endScope (x.run scope))) (second : ∀ a, Quiet (f a)) :
    Progress relations scope (endScope ((x >>= f).run scope)) := by
  rw [EStateM.run_bind]
  generalize x.run scope = result at first
  cases result with
  | ok a middle =>
    rw [← List.append_nil relations]
    exact first.trans (second a middle)
  | error => exact first

/-- A report of something that is neither a use of a table nor an end of a call. -/
theorem report (scope : Scope) {event : Event} (ordinary : event.message ∉ markedSentences) :
    Progress [] scope (scope.report event) := by
  simp only [markedSentences, List.mem_cons, not_or] at ordinary
  obtain ⟨uncreated, unused, inner⟩ := ordinary
  refine ⟨⟨[event], rfl, List.forall_mem_singleton.2 inner, ?_⟩, rfl, (List.append_nil _).symm⟩
  simp [Event.isAccess, uncreated, unused, accesses]

/-- **A relation that enters the scope** reports the use of its table. -/
theorem enter (scope : Scope) (t : TableRef) : Progress [t] scope (scope.enter t) := by
  have access : Progress [t] scope
      ((scope.useTable (tableOf t)).bindAlias (aliasOf t) (tableOf t)) := by
    refine ⟨⟨[.ofAccess scope.registry (tableOf t)], rfl, ?_, ?_⟩, rfl, ?_⟩
    · unfold Event.ofAccess
      split <;> simp [Event.message, outerSentences]
    · unfold Event.ofAccess
      split <;> simp [Event.isAccess, Event.message, accesses, Event.ofAccess, *]
    · simp [Scope.bindAlias, Scope.useTable, Scope.report, boundTables]
  exact access.trans (report _ (by simp [Event.message, markedSentences, outerSentences]))

end Progress

/-! ### Quiet steps -/

section Quiet

variable {α β : Type}

theorem quiet_pure (a : α) : Quiet (pure a) :=
  Progress.refl

theorem quiet_throw (error : Error) : Quiet (throw error : Planning α) :=
  Progress.refl

theorem Quiet.bind {x : Planning α} {f : α → Planning β} (first : Quiet x)
    (second : ∀ a, Quiet (f a)) : Quiet (x >>= f) :=
  fun scope => (first scope).bind second

theorem quiet_report {event : Event} (ordinary : event.message ∉ markedSentences) :
    Quiet (report event) :=
  fun scope => Progress.report scope ordinary

theorem quiet_declareUnique (base : String) (kind : VariableKind) :
    Quiet (declareUnique base kind) := by
  intro scope
  rw [declareUnique_run]
  exact ⟨(Progress.refl scope).events, rfl, (Progress.refl scope).aliases⟩

theorem quiet_operandOf (column : ColumnRef) : Quiet (operandOf column) := by
  unfold operandOf
  split
  · exact quiet_pure _
  · exact quiet_throw _

theorem quiet_bindingOf? (aliasName : String) : Quiet (bindingOf? aliasName) :=
  Progress.refl

theorem quiet_groupField (p : Pattern) (column : ColumnRef) : Quiet (groupField p column) := by
  unfold groupField
  split
  · exact quiet_pure _
  · refine (quiet_operandOf column).bind fun operand => ?_
    refine (quiet_bindingOf? operand.aliasName).bind fun binding => ?_
    split
    · split
      · exact quiet_pure _
      · exact quiet_throw _
    · exact quiet_throw _

theorem quiet_aggregate (p : Pattern) (column : ColumnRef) : Quiet (aggregate p column) := by
  unfold aggregate
  refine (quiet_groupField p column).bind fun field => ?_
  refine (quiet_declareUnique _ _).bind fun key => ?_
  refine (quiet_declareUnique _ _).bind fun result => ?_
  refine (quiet_report ?_).bind fun _ => quiet_pure _
  simp [Event.message, markedSentences, outerSentences]

theorem quiet_sideOf (first second : Pattern) (operand : Operand) :
    Quiet (sideOf first second operand) := by
  unfold sideOf
  refine (quiet_bindingOf? operand.aliasName).bind fun binding => ?_
  split
  · split
    · exact quiet_pure _
    · split
      · exact quiet_pure _
      · exact quiet_throw _
  · exact quiet_throw _

theorem quiet_orderOperands (first second : Pattern) (left right : Operand) :
    Quiet (orderOperands first second left right) := by
  unfold orderOperands
  refine (quiet_sideOf first second left).bind fun leftSide => ?_
  refine (quiet_sideOf first second right).bind fun rightSide => ?_
  split
  · exact quiet_pure _
  · refine (quiet_report ?_).bind fun _ => quiet_pure _
    simp [Event.message, markedSentences, outerSentences]
  · exact quiet_throw _

theorem quiet_attachJoin (first second : Pattern) (condition : Option Expr) :
    Quiet (attachJoin first second condition) := by
  unfold attachJoin
  split
  · exact quiet_throw _
  · refine (quiet_operandOf _).bind fun left => ?_
    refine (quiet_operandOf _).bind fun right => ?_
    refine (quiet_orderOperands first second left right).bind fun operands => ?_
    refine (quiet_report ?_).bind fun _ => quiet_pure _
    simp [Event.message, markedSentences, outerSentences]

end Quiet

/-! ### Queries -/

/-- The relations of a join that a query admits: no second one under the alias of the first. -/
def admittedPair : JoinKind → Source → Source → List TableRef
  | .inner, .relation left, .relation right =>
    if aliasOf left = aliasOf right then [left] else [left, right]
  | _, _, _ => []

/-- **The relations that a query admits**: those whose alias gets bound. -/
def admitted (s : Select) : List TableRef :=
  if s.selection.isSome || !s.orderBy.isEmpty then []
  else
    match s.source, s.groupBy with
    | .relation t, _ => [t]
    | .join kind left right _, none => admittedPair kind left right
    | _, _ => []

section Queries

variable {scope : Scope}

/-- The first relation of a query enters the scope. -/
theorem bindRelation_unbound (unbound : scope.aliases = []) (t : TableRef) :
    (bindRelation t).run scope =
      .ok (Pattern.ofTable scope.arena.nextId (tableOf t)) (scope.enter t) := by
  refine bindRelation_ends ?_
  rw [Scope.binding?, unbound]
  rfl

theorem relationBody_progress (unbound : scope.aliases = []) (t : TableRef)
    (groupBy : Option (List Expr)) :
    Progress [t] scope (endScope ((relationBody t groupBy).run scope)) := by
  unfold relationBody
  refine Progress.bind ?_ fun p => ?_
  · rw [bindRelation_unbound unbound]
    exact .enter scope t
  · split
    · exact quiet_pure _
    · split
      · exact quiet_throw _
      · exact (quiet_aggregate p _).bind fun a => quiet_pure _

/-- **Two relations**: the second one enters unless its alias is that of the first. -/
theorem pair_progress (unbound : scope.aliases = []) (left right : TableRef) {α : Type}
    {rest : Pattern → Pattern → Planning α} (quiet : ∀ first second, Quiet (rest first second)) :
    Progress (if aliasOf left = aliasOf right then [left] else [left, right]) scope
      (endScope ((do
        let first ← bindRelation left
        let second ← bindRelation right
        rest first second).run scope)) := by
  rw [EStateM.run_bind, bindRelation_unbound unbound]
  dsimp only
  have known : (scope.enter left).aliases =
      [(aliasOf left, ⟨tableOf left, scope.arena.nextId⟩)] := by
    rw [Scope.enter_aliases, unbound]
    rfl
  have second := binding?_single known (aliasOf right)
  split
  · next same =>
    rw [if_pos same.symm] at second
    rw [EStateM.run_bind, bindRelation_fails second]
    exact .enter scope left
  · next differ =>
    rw [if_neg (Ne.symm differ)] at second
    refine (Progress.enter scope left).trans (Progress.bind ?_ (quiet _))
    rw [bindRelation_ends second]
    exact .enter _ right

theorem joinBody_progress (unbound : scope.aliases = []) (kind : JoinKind) (left right : Source)
    (condition : Option Expr) :
    Progress (admittedPair kind left right) scope
      (endScope ((joinBody kind left right condition).run scope)) := by
  unfold joinBody admittedPair
  split
  · next l r =>
    exact pair_progress unbound l r fun first second =>
      (quiet_attachJoin first second condition).bind fun _ => quiet_pure _
  · next other =>
    cases relations : joinedRelations kind left right with
    | error fault => exact quiet_throw _ scope
    | ok pair =>
      obtain ⟨rfl, rfl, rfl⟩ := joinedRelations_eq_ok_iff.1 relations
      exact absurd rfl (other _ _ rfl rfl)

/-- **A query makes progress by the relations that it admits.** -/
theorem body_progress (unbound : scope.aliases = []) (s : Select) :
    Progress (admitted s) scope (endScope ((body s).run scope)) := by
  unfold body admitted
  by_cases selected : s.selection.isSome = true
  · rw [if_pos selected, selected]
    exact quiet_throw _ scope
  · rw [if_neg selected]
    by_cases unordered : s.orderBy.isEmpty = true
    · rw [if_pos unordered, if_neg (by simp [selected, unordered])]
      cases s.source with
      | relation t => exact relationBody_progress unbound t s.groupBy
      | join kind left right condition =>
        cases s.groupBy with
        | some keys => exact quiet_throw _ scope
        | none => exact joinBody_progress unbound kind left right condition
      | subquery => exact quiet_throw _ scope
    · rw [if_neg unordered, if_pos (by simp [unordered])]
      exact quiet_throw _ scope

end Queries

/-! ### Calls -/

/-- The event of a result. -/
def closing : Except Error Descriptor → Event
  | .ok d => .assembled d.patterns.length d.aggregation?.isSome d.arena.size
  | .error error => .failed error

/-- **The making of a plan** makes the progress of its query. It reports the plan at last, if there is
one. -/
theorem assemble_progress (name : String) (s : Select) (scope : Scope) :
    match (assemble name s).run scope with
    | .ok d after => ∃ middle, Progress (admitted s) scope.clear middle ∧
        after = middle.report (closing (.ok d))
    | .error _ after => Progress (admitted s) scope.clear after := by
  have progress : Progress (admitted s) scope.clear (endScope ((body s).run scope.clear)) :=
    body_progress rfl s
  unfold assemble
  rw [EStateM.run_bind, EStateM.run_modify]
  dsimp only
  rw [EStateM.run_bind]
  generalize (body s).run scope.clear = result at progress
  cases result with
  | error error after => exact progress
  | ok items middle =>
    -- The plan takes the variables away, and nothing else.
    have taken : Progress (admitted s) scope.clear { middle with arena := .empty } :=
      ⟨progress.events, progress.registry, progress.aliases⟩
    simp only [EStateM.run_bind, EStateM.run_get, EStateM.run_set]
    cases (⟨name, middle.registry.package, middle.arena, items⟩ : Descriptor).validate with
    | error fault => exact taken
    | ok => exact ⟨_, taken, rfl⟩

/-- What is said at the ends of a call is not said between them. -/
theorem count_outer {inner : List Event} (quiet : ∀ event ∈ inner, event.message ∉ outerSentences)
    (first last : Event) {sentence : String} (outer : sentence ∈ outerSentences) :
    ((first :: (inner ++ [last])).map Event.message).count sentence =
      [first.message, last.message].count sentence := by
  have unsaid : (inner.map Event.message).count sentence = 0 := by
    rw [List.count_eq_zero, List.mem_map]
    rintro ⟨event, member, rfl⟩
    exact quiet event member outer
  rw [List.map_cons, List.map_append, List.count_cons, List.count_append, unsaid, List.count_cons,
    Nat.zero_add]
  rfl

/-- The scope of a call whose span is open, with nothing of the calls before it but the registry. -/
def openedScope (session : Session) (s : Select) : Scope :=
  ⟨session.registry, [], .empty, [.opened session.settings.query.name s.source.shape]⟩

/-- **A call makes the progress of its query** and reports its result. It keeps the registry only with
a plan. -/
theorem plan_progress (session : Session) (s : Select) :
    ∃ after, Progress (admitted s) (openedScope session s) after ∧
      (session.plan s).events = after.events ++ [closing (session.plan s).result] ∧
      (session.plan s).session.aliases = after.aliases ∧
      (∀ d, (session.plan s).result = .ok d → (session.plan s).session.registry = after.registry) ∧
      ∀ error, (session.plan s).result = .error error →
        (session.plan s).session.registry = session.registry := by
  have progress := assemble_progress session.settings.query.name s
    (session.scope.report (.opened session.settings.query.name s.source.shape))
  unfold Session.plan
  dsimp only
  generalize EStateM.run _ _ = result at progress ⊢
  cases result with
  | ok d after =>
    obtain ⟨middle, progress, rfl⟩ := progress
    exact ⟨middle, progress, rfl, rfl, fun _ _ => rfl, nofun⟩
  | error error after => exact ⟨after, progress, rfl, rfl, nofun, fun _ _ => rfl⟩

/-- **The events of a call tell what it does.** -/
structure TellsTruth (session : Session) (s : Select) (reply : Reply) : Prop where
  /-- The span opens first, and the event of the result comes last. None of those between them is of
  their kind. -/
  frame : ∃ inner, reply.events =
      .opened session.settings.query.name s.source.shape :: (inner ++ [closing reply.result]) ∧
    ∀ event ∈ inner, event.message ∉ outerSentences
  /-- A plan is reported once, and never without one. -/
  assembled : (reply.events.map Event.message).count "query assembled" =
    if reply.result.isOk then 1 else 0
  /-- A failure is reported once, and never with a plan. -/
  failed : (reply.events.map Event.message).count "translation failed, restoring schema registry" =
    if reply.result.isOk then 0 else 1
  /-- The aliases that the call bound are those of the admitted relations. -/
  admits : boundTables reply.session.aliases = (admitted s).map fun t => (aliasOf t, tableOf t)
  /-- The table of an admitted relation is reported as new once, if the registry did not know it, and
  no other table is. -/
  created : ∀ table, (toldTables "creating prototype" reply.events).count table =
    if table ∈ (admitted s).map tableOf ∧ ¬ session.registry.contains table then 1 else 0
  /-- Every other admitted relation is reported to use a known table. -/
  reused : ∀ table, (toldTables "creating prototype" reply.events).count table +
      (toldTables "reusing prototype" reply.events).count table =
    ((admitted s).map tableOf).count table
  /-- With a plan the registry gets the tables that were reported as new, and no others. -/
  grown : ∀ d, reply.result = .ok d → reply.session.registry.entries.map Prod.fst =
    session.registry.entries.map Prod.fst ++ toldTables "creating prototype" reply.events
  /-- Without a plan the registry is as before. -/
  restored : ∀ error, reply.result = .error error → reply.session.registry = session.registry

/-- **In any session the events of a call tell what it does.** They begin with its span and end with
its result. They report a table as new exactly if an admitted relation uses it and the registry did
not know it. -/
theorem plan_tells_truth (session : Session) (s : Select) :
    TellsTruth session s (session.plan s) := by
  obtain ⟨after, ⟨⟨inner, told, quiet, used⟩, registry, aliases⟩, events, bound, kept, restored⟩ :=
    plan_progress session s
  generalize session.plan s = reply at events bound kept restored
  have whole : reply.events = .opened session.settings.query.name s.source.shape ::
      (inner ++ [closing reply.result]) := by
    rw [events, told]
    rfl
  have uses : reply.events.filter Event.isAccess =
      accesses session.registry ((admitted s).map tableOf) := by
    rw [whole, List.filter_cons, List.filter_append, used]
    cases reply.result <;> simp [Event.isAccess, Event.message, closing, openedScope]
  have created := toldTables_filter (.inl rfl) reply.events
  have reused := toldTables_filter (.inr rfl) reply.events
  rw [uses] at created reused
  refine ⟨⟨inner, whole, quiet⟩, ?_, ?_, ?_, fun table => ?_, fun table => ?_, fun d planned => ?_,
    restored⟩
  · rw [whole, count_outer quiet _ _ (by decide)]
    cases reply.result <;> rfl
  · rw [whole, count_outer quiet _ _ (by decide)]
    cases reply.result <;> rfl
  · rw [bound, aliases]
    rfl
  · rw [← created, count_created]
  · rw [← created, ← reused, count_used]
  · rw [kept d planned, registry, ← created]
    exact tables_foldl_ensure session.registry _

/-- A table joined with itself is new and then known, and the missing condition undoes it. -/
example : ((Session.new .default).plan ⟨[.wildcard], .join .inner (.relation ⟨"orders", some "o"⟩)
    (.relation ⟨"Orders", some "p"⟩) none, none, none, []⟩).events.map Event.message =
      ["translate", "creating prototype", "pattern created", "reusing prototype", "pattern created",
        "translation failed, restoring schema registry"] := by
  decide +kernel

end RuleQuery.Planner
