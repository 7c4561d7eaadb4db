import RuleQuery.Proofs.Planner.Steps

/-!
**Sessions after any number of calls.**

A session is used by calls: a query, a text that writes one, or a reset. Whatever the calls were,

* `Session.Steady.afterCalls`: the settings are those of the start, the registry has the package of
  the settings and its prototypes are those of their tables;
* `plan_afterCalls`: **the result of a query is its verdict**, so that it does not depend on the
  calls.
-/

namespace RuleQuery.Planner

open Plan Sql

/-- A call to a session. -/
inductive Call where
  /-- The plan of a query. -/
  | plan (s : Select)
  /-- The plan of the query that a text writes. -/
  | planText (text : String)
  /-- A reset. -/
  | reset

namespace Session

/-- The session after a call. -/
def after (session : Session) : Call → Session
  | .plan s => (session.plan s).session
  | .planText text => (session.planText text).session
  | .reset => session.reset

/-- **The session after calls**, in their order. -/
def afterCalls (session : Session) (calls : List Call) : Session :=
  calls.foldl after session

/-- **What no call changes**: the settings, the package of the registry, and that its prototypes are
those of their tables. -/
structure Steady (start : Config.Settings) (session : Session) : Prop where
  settings : session.settings = start
  package : session.registry.package = start.query.package
  faithful : session.registry.Faithful

theorem Steady.new (settings : Config.Settings) : Steady settings (new settings) :=
  ⟨rfl, rfl, Registry.faithful_empty _⟩

end Session

/-! ### One query -/

section Plan

variable {settings : Config.Settings} {session : Session} {s : Select}

open Session

theorem assemble_start (steady : Steady settings session) (s : Select) (event : Event) :
    Ends (fun scheme d after =>
        d = scheme.descriptor settings.query ∧
          after.registry = scheme.tables.foldl Registry.ensure session.registry)
      ((assemble session.settings.query.name s).run (session.scope.report event)) (verdict s) := by
  have faithful : (session.scope.report event).registry.Faithful := steady.faithful
  rw [steady.settings]
  exact assemble_ends faithful settings.query steady.package s

/-- The settings of a session stay. -/
theorem plan_settings (session : Session) (s : Select) :
    (session.plan s).session.settings = session.settings := by
  unfold Session.plan
  dsimp only
  split <;> rfl

/-- **A query without a scheme** fails with its error and leaves the registry as it was. -/
theorem plan_of_verdict_error (steady : Steady settings session) {error : Error}
    (refused : verdict s = .error error) :
    (session.plan s).result = .error error ∧
      (session.plan s).session.registry = session.registry := by
  have ends := assemble_start steady s (.opened session.settings.query.name s.source.shape)
  rw [refused] at ends
  unfold Session.plan
  dsimp only
  generalize EStateM.run _ _ = result at ends ⊢
  cases ends with
  | failure => exact ⟨rfl, rfl⟩

/-- **A query with a scheme** gets its plan, and its tables their prototypes. -/
theorem plan_of_verdict_ok (steady : Steady settings session) {scheme : Scheme}
    (accepted : verdict s = .ok scheme) :
    (session.plan s).result = .ok (scheme.descriptor settings.query) ∧
      (session.plan s).session.registry =
        scheme.tables.foldl Registry.ensure session.registry := by
  have ends := assemble_start steady s (.opened session.settings.query.name s.source.shape)
  rw [accepted] at ends
  unfold Session.plan
  dsimp only
  generalize EStateM.run _ _ = result at ends ⊢
  cases ends with
  | value holds =>
    obtain ⟨rfl, registry⟩ := holds
    exact ⟨rfl, registry⟩

/-- **The result of a query is its verdict.** -/
theorem plan_result (steady : Steady settings session) (s : Select) :
    (session.plan s).result = (verdict s).map (Scheme.descriptor settings.query) := by
  cases outcome : verdict s with
  | error error => exact (plan_of_verdict_error steady outcome).1
  | ok scheme => exact (plan_of_verdict_ok steady outcome).1

end Plan

/-! ### Many calls -/

theorem foldl_ensure_faithful {r : Registry} (faithful : r.Faithful) (tables : List String) :
    (tables.foldl Registry.ensure r).Faithful := by
  induction tables generalizing r with
  | nil => exact faithful
  | cons table rest ih => exact ih (faithful.ensure table)

namespace Session.Steady

variable {settings : Config.Settings} {session : Session}

theorem plan (steady : Steady settings session) (s : Select) :
    Steady settings (session.plan s).session := by
  have same : (session.plan s).session.settings = settings := by
    rw [plan_settings, steady.settings]
  cases outcome : verdict s with
  | error error =>
    have kept := (plan_of_verdict_error steady outcome).2
    exact ⟨same, by rw [kept, steady.package], kept ▸ steady.faithful⟩
  | ok scheme =>
    have grown := (plan_of_verdict_ok steady outcome).2
    refine ⟨same, ?_, ?_⟩
    · rw [grown, foldl_ensure_package, steady.package]
    · rw [grown]
      exact foldl_ensure_faithful steady.faithful scheme.tables

/-- **One call** keeps a session steady. -/
theorem after (steady : Steady settings session) (call : Call) :
    Steady settings (session.after call) := by
  cases call with
  | plan s => exact steady.plan s
  | planText text =>
    show Steady settings (session.planText text).session
    unfold planText
    cases Sql.parse text with
    | ok s => exact steady.plan s
    | error error => exact steady
  | reset => exact ⟨steady.settings, steady.package, Registry.faithful_clear _⟩

/-- **Every number of calls** keeps a session steady. -/
theorem afterCalls (steady : Steady settings session) (calls : List Call) :
    Steady settings (session.afterCalls calls) := by
  induction calls generalizing session with
  | nil => exact steady
  | cons call rest ih => exact ih (steady.after call)

end Session.Steady

/-- **After any calls the result of a query is its verdict.** -/
theorem plan_afterCalls (settings : Config.Settings) (calls : List Call) (s : Select) :
    (((Session.new settings).afterCalls calls).plan s).result =
      (verdict s).map (Scheme.descriptor settings.query) :=
  plan_result ((Session.Steady.new settings).afterCalls calls) s

/-- After any calls, a query with a scheme has a plan, and no other. -/
theorem plan_isOk_iff (settings : Config.Settings) (calls : List Call) (s : Select) :
    (∃ d, (((Session.new settings).afterCalls calls).plan s).result = .ok d) ↔
      ∃ scheme, verdict s = .ok scheme := by
  rw [plan_afterCalls]
  cases verdict s with
  | error e => exact ⟨nofun, nofun⟩
  | ok scheme => exact ⟨fun _ => ⟨scheme, rfl⟩, fun _ => ⟨_, rfl⟩⟩

end RuleQuery.Planner
