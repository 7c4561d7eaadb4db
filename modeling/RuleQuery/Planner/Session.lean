import RuleQuery.Config.Settings
import RuleQuery.Plan.RuleSource
import RuleQuery.Planner.Body

/-!
**Sessions.**

A session plans one query after another under the same settings, and keeps the prototypes between
them. A query without a plan leaves the prototypes as they were. The aliases of a query, and the
variables of one without a plan, lie about in the session until the next query clears them.
-/

namespace RuleQuery.Planner

open Plan Sql

/-- **The plan of a query** under a name. -/
def assemble (name : String) (s : Select) : Planning Descriptor := do
  modify Scope.clear
  let items ← body s
  let scope ← get
  let d : Descriptor := ⟨name, scope.registry.package, scope.arena, items⟩
  set { scope with arena := .empty }
  match d.validate with
  | .error error => throw (.plan error)
  | .ok () =>
    report (.assembled d.patterns.length d.aggregation?.isSome d.arena.size)
    return d

/-- A series of queries under the same settings. -/
structure Session where
  /-- The settings. -/
  settings : Config.Settings
  /-- The known prototypes. -/
  registry : Registry
  /-- The aliases that the last query bound. -/
  aliases : List (String × Binding)
  /-- The variables that the last query declared, unless its plan took them. -/
  arena : Arena
deriving DecidableEq, Repr

/-- What a session gives for a query. -/
structure Reply where
  /-- The plan, or why there is none. -/
  result : Except Error Descriptor
  /-- The session after the query. -/
  session : Session
  /-- What happened meanwhile. -/
  events : List Event

namespace Session

/-- A new session. -/
def new (settings : Config.Settings) : Session :=
  ⟨settings, .empty settings.query.package, [], .empty⟩

/-- The session without its prototypes, aliases and variables. -/
def reset (session : Session) : Session :=
  ⟨session.settings, session.registry.clear, [], .empty⟩

/-- The scope in which the next query begins. -/
def scope (session : Session) : Scope :=
  ⟨session.registry, session.aliases, session.arena, []⟩

/-- The session with a registry, and with the aliases and variables of a scope. -/
def leave (session : Session) (registry : Registry) (scope : Scope) : Session :=
  ⟨session.settings, registry, scope.aliases, scope.arena⟩

/-- **The plan of a query in a session.** -/
def plan (session : Session) (s : Select) : Reply :=
  let name := session.settings.query.name
  let opened := session.scope.report (.opened name s.source.shape)
  match (assemble name s).run opened with
  | .ok d scope => ⟨.ok d, session.leave scope.registry scope, scope.events⟩
  | .error error scope =>
    ⟨.error error, session.leave session.registry scope, scope.events ++ [.failed error]⟩

/-- **The plan of the query that a text writes.** A text that is not a query opens no span. -/
def planText (session : Session) (text : String) : Reply :=
  match Sql.parse text with
  | .ok s => session.plan s
  | .error error => ⟨.error (.parse error), session, []⟩

/-- A plan as source text of a rule, over the type of facts of the settings. -/
def render (session : Session) (d : Descriptor) : Except Error String :=
  (d.ruleSource session.settings.query.factType).mapError .plan

end Session

/-- **The plan of the query that a text writes**, under the default settings. -/
def plan (text : String) : Except Error Descriptor :=
  ((Session.new .default).planText text).result

end RuleQuery.Planner
