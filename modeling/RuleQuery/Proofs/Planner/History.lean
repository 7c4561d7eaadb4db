import Mathlib.Data.List.Induction
import RuleQuery.Proofs.Planner.Planned

/-!
**What a session keeps of its calls.**

* `plan_answers_as_new`: **no answer depends on the calls before it.** Prototypes say no more than
  their tables, and the aliases and variables that a call leaves behind are cleared before they are
  read.
* `Used`: the tables of the relations of the queries that got a plan since the last reset.
* `registry_holds_used`: **after any calls the registry holds exactly the used tables**, each once
  and with its prototype. A call that fails leaves it as it was, although it may have made prototypes
  on its way.
-/

namespace RuleQuery.Sql

/-- The relations that a source reads, from left to right. -/
def Source.relations : Source → List TableRef
  | relation t => [t]
  | join _ left right _ => left.relations ++ right.relations
  | subquery _ source _ _ _ _ => source.relations

end RuleQuery.Sql

namespace RuleQuery.Plan

/-- The table whose facts an item takes. -/
def BodyItem.table : BodyItem → String
  | pattern p => p.table
  | aggregation a => a.source.table

end RuleQuery.Plan

namespace RuleQuery.Planner

open Plan Sql

/-! ### Answers -/

/-- **After any calls a query and a text get the answer that a new session gives.** -/
theorem plan_answers_as_new (settings : Config.Settings) (calls : List Call) :
    (∀ s : Select, (((Session.new settings).afterCalls calls).plan s).result =
      ((Session.new settings).plan s).result) ∧
    (∀ text : String, (((Session.new settings).afterCalls calls).planText text).result =
      ((Session.new settings).planText text).result) := by
  have query (s : Select) : (((Session.new settings).afterCalls calls).plan s).result =
      ((Session.new settings).plan s).result := by
    rw [plan_afterCalls, plan_result (Session.Steady.new settings)]
  refine ⟨query, fun text => ?_⟩
  unfold Session.planText
  cases Sql.parse text with
  | ok s => exact query s
  | error error => rfl

/-! ### The tables of a plan -/

theorem Scheme.map_table_body (scheme : Scheme) :
    scheme.body.map BodyItem.table = scheme.tables := by
  cases scheme <;> rfl

theorem Planned.map_table_body {query : Config.QuerySettings} {s : Select} {d : Descriptor}
    (planned : Planned query s d) :
    d.body.map BodyItem.table = s.source.relations.map tableOf := by
  cases planned <;> rfl

/-- The tables of a scheme are those of the relations of its query. -/
theorem verdict_tables {s : Select} {scheme : Scheme} (accepted : verdict s = .ok scheme) :
    scheme.tables = s.source.relations.map tableOf := by
  have planned : Planned .default s (scheme.descriptor .default) := planned_of_verdict accepted
  rw [← scheme.map_table_body]
  exact planned.map_table_body

/-! ### One call -/

/-- The call asks for the plan of the query. -/
inductive Call.Asks : Call → Select → Prop where
  | plan (s : Select) : Asks (.plan s) s
  | planText {text : String} {s : Select} (read : Sql.parse text = .ok s) : Asks (.planText text) s

theorem Call.Asks.unique {call : Call} {s s' : Select} (asks : call.Asks s) (again : call.Asks s') :
    s = s' := by
  cases asks with
  | plan => cases again; rfl
  | planText read =>
    cases again with
    | planText read' => exact Except.ok.inj (read.symm.trans read')

namespace Session

/-- What a session answers to a call, unless it is a reset. -/
def answer? (session : Session) : Call → Option (Except Error Descriptor)
  | .plan s => some (session.plan s).result
  | .planText text => some (session.planText text).result
  | .reset => none

/-- The call gets a plan from the session, and the table is that of one of its relations. -/
def Uses (session : Session) (call : Call) (table : String) : Prop :=
  ∃ s d, call.Asks s ∧ session.answer? call = some (.ok d) ∧ table ∈ s.source.relations.map tableOf

variable {settings : Config.Settings} {session : Session} {known : String → Prop} {call : Call}
  {s : Select}

theorem answer?_of_asks (asks : call.Asks s) : session.answer? call = some (session.plan s).result := by
  cases asks with
  | plan => rfl
  | planText read => rw [answer?, planText, read]

theorem after_of_asks (asks : call.Asks s) : session.after call = (session.plan s).session := by
  cases asks with
  | plan => rfl
  | planText read => rw [after, planText, read]

/-- A text that is no query leaves the session alone. -/
theorem planText_of_unread (session : Session) {text : String} {error : ParseError}
    (unread : Sql.parse text = .error error) :
    session.planText text = ⟨.error (.parse error), session, []⟩ := by
  rw [planText, unread]

theorem plan_registry_of_error {error : Error} (failed : (session.plan s).result = .error error) :
    (session.plan s).session.registry = session.registry := by
  unfold Session.plan at failed ⊢
  dsimp only at failed ⊢
  split
  · next ends =>
    rw [ends] at failed
    cases failed
  · rfl

/-- **A call that fails leaves the registry as it was.** -/
theorem registry_after_of_error {error : Error}
    (failed : session.answer? call = some (.error error)) :
    (session.after call).registry = session.registry := by
  cases call with
  | plan s => exact plan_registry_of_error (Option.some.inj failed)
  | planText text =>
    cases read : Sql.parse text with
    | ok s =>
      have asks : (Call.planText text).Asks s := .planText read
      rw [answer?_of_asks asks] at failed
      rw [after_of_asks asks]
      exact plan_registry_of_error (Option.some.inj failed)
    | error error => rw [after, planText_of_unread session read]
  | reset => cases failed

/-- A query adds the tables of its relations if it gets a plan. -/
theorem plan_holds (steady : Steady settings session)
    (holds : session.registry.Holds settings.query.package known) (s : Select) :
    (session.plan s).session.registry.Holds settings.query.package fun table =>
      known table ∨
        (∃ d, (session.plan s).result = .ok d) ∧ table ∈ s.source.relations.map tableOf := by
  cases outcome : verdict s with
  | error error =>
    obtain ⟨result, kept⟩ := plan_of_verdict_error steady outcome
    rw [result, kept]
    exact holds.congr (by simp)
  | ok scheme =>
    obtain ⟨result, grown⟩ := plan_of_verdict_ok steady outcome
    rw [result, grown]
    exact (holds.ensureAll scheme.tables).congr (by simp [verdict_tables outcome])

theorem uses_iff_of_asks (asks : call.Asks s) (table : String) :
    session.Uses call table ↔
      (∃ d, (session.plan s).result = .ok d) ∧ table ∈ s.source.relations.map tableOf := by
  unfold Uses
  rw [answer?_of_asks asks]
  constructor
  · rintro ⟨s', d, again, planned, member⟩
    rw [asks.unique again]
    exact ⟨⟨d, asks.unique again ▸ Option.some.inj planned⟩, member⟩
  · rintro ⟨⟨d, planned⟩, member⟩
    exact ⟨s, d, asks, congrArg some planned, member⟩

/-- **One call** keeps what is known, unless it is a reset, and adds what it uses. -/
theorem after_holds (steady : Steady settings session)
    (holds : session.registry.Holds settings.query.package known) (call : Call) :
    (session.after call).registry.Holds settings.query.package fun table =>
      (call ≠ .reset ∧ known table) ∨ session.Uses call table := by
  have query {s : Select} (asks : call.Asks s) (other : call ≠ .reset) :
      (session.after call).registry.Holds settings.query.package fun table =>
        (call ≠ .reset ∧ known table) ∨ session.Uses call table := by
    rw [after_of_asks asks]
    exact (plan_holds steady holds s).congr fun table => by
      rw [uses_iff_of_asks asks, and_iff_right other]
  cases call with
  | plan s => exact query (.plan s) nofun
  | planText text =>
    cases read : Sql.parse text with
    | ok s => exact query (.planText read) nofun
    | error error =>
      have unread := planText_of_unread session read
      rw [after, unread]
      refine holds.congr fun table => ⟨fun old => .inl ⟨nofun, old⟩, ?_⟩
      rintro (⟨_, old⟩ | ⟨_, d, _, planned, _⟩)
      · exact old
      · rw [answer?, unread] at planned
        cases planned
  | reset =>
    refine (Registry.holds_clear holds.samePackage).congr fun table => ⟨False.elim, ?_⟩
    rintro (⟨other, _⟩ | ⟨_, _, _, planned, _⟩)
    · exact other rfl
    · cases planned

end Session

/-! ### Many calls -/

/-- **The table was used since the last reset**: one of the calls got a plan, no reset came after it,
and the table is that of one of its relations. -/
def Used (settings : Config.Settings) (calls : List Call) (table : String) : Prop :=
  ∃ before call after, calls = before ++ call :: after ∧ Call.reset ∉ after ∧
    ((Session.new settings).afterCalls before).Uses call table

/-- The tables used with one more call. -/
theorem used_concat {settings : Config.Settings} {calls : List Call} {call : Call} {table : String} :
    Used settings (calls ++ [call]) table ↔
      (call ≠ .reset ∧ Used settings calls table) ∨
        ((Session.new settings).afterCalls calls).Uses call table := by
  constructor
  · rintro ⟨before, user, after, split, kept, uses⟩
    rcases List.eq_nil_or_concat after with rfl | ⟨between, last, rfl⟩
    · obtain ⟨rfl, same⟩ := List.append_inj' split rfl
      cases same
      exact .inr uses
    · rw [List.concat_eq_append] at split kept
      rw [← List.cons_append, ← List.append_assoc] at split
      obtain ⟨rfl, same⟩ := List.append_inj' split rfl
      cases same
      rw [List.mem_append, not_or, List.mem_singleton] at kept
      exact .inl ⟨Ne.symm kept.2, before, user, between, rfl, kept.1, uses⟩
  · rintro (⟨other, before, user, after, rfl, kept, uses⟩ | uses)
    · refine ⟨before, user, after ++ [call], by simp, ?_, uses⟩
      rw [List.mem_append, not_or, List.mem_singleton]
      exact ⟨kept, Ne.symm other⟩
    · exact ⟨calls, call, [], rfl, List.not_mem_nil, uses⟩

theorem holds_used (settings : Config.Settings) (calls : List Call) :
    ((Session.new settings).afterCalls calls).registry.Holds settings.query.package
      (Used settings calls) := by
  induction calls using List.reverseRecOn with
  | nil =>
    have empty :=
      Registry.holds_clear (show (Registry.empty settings.query.package).package = _ from rfl)
    exact empty.congr (by simp [Used])
  | append_singleton calls call ih =>
    have steady := (Session.Steady.new settings).afterCalls calls
    have step : (Session.new settings).afterCalls (calls ++ [call]) =
        ((Session.new settings).afterCalls calls).after call := by
      rw [Session.afterCalls, List.foldl_append]
      rfl
    rw [step]
    exact (Session.after_holds steady ih call).congr fun table => used_concat.symm

/-- **After any calls the registry holds exactly the tables used since the last reset**, each once and
with its own prototype, the settings are those of the start, and a call that fails changes nothing
of the registry. -/
theorem registry_holds_used (settings : Config.Settings) (calls : List Call) :
    ((Session.new settings).afterCalls calls).settings = settings ∧
    ((Session.new settings).afterCalls calls).registry.Holds settings.query.package
      (Used settings calls) ∧
    ∀ call error,
      ((Session.new settings).afterCalls calls).answer? call = some (.error error) →
        (((Session.new settings).afterCalls calls).after call).registry =
          ((Session.new settings).afterCalls calls).registry :=
  ⟨((Session.Steady.new settings).afterCalls calls).settings, holds_used settings calls,
    fun _ _ failed => Session.registry_after_of_error failed⟩

end RuleQuery.Planner
