/-!
**Settings.**

The settings of the queries are the name and the package that every plan gets, and the type of facts
in the rule source. The settings of the log are texts, which are read where the log is set up. A
variable of the environment, where it is set, wins over every other value, even if it is empty.
-/

namespace RuleQuery.Config

/-- How queries are named. -/
structure QuerySettings where
  /-- The name of every query. -/
  name : String
  /-- The package of the queries and of their prototypes. -/
  package : String
  /-- The type of facts in the rule source. -/
  factType : String
deriving DecidableEq, Repr

/-- How events are logged. -/
structure LogSettings where
  /-- The directives that choose events by level and target. -/
  level : String
  /-- The form of the lines. -/
  format : String
  /-- Where the lines go. -/
  output : String
  /-- The directory of the log files. -/
  directory : String
deriving DecidableEq, Repr

/-- All settings. -/
structure Settings where
  /-- How queries are named. -/
  query : QuerySettings
  /-- How events are logged. -/
  log : LogSettings
deriving DecidableEq, Repr

/-- How queries are named where nothing else is said. -/
def QuerySettings.default : QuerySettings :=
  ⟨"Q0", "sqlrule.materialized", "Fact"⟩

/-- How events are logged where nothing else is said. -/
def LogSettings.default : LogSettings :=
  ⟨"info", "pretty", "stdout", "./logs"⟩

/-- The settings where nothing else is said. -/
def Settings.default : Settings :=
  ⟨.default, .default⟩

/-- The values of the variables of the environment. -/
abbrev Environment := String → Option String

/-- **The settings with those of the environment over them.** -/
def Settings.override (s : Settings) (environment : Environment) : Settings where
  query :=
    { name := (environment "SQLRULE_QUERY_NAME").getD s.query.name
      package := (environment "SQLRULE_NAMESPACE").getD s.query.package
      factType := (environment "SQLRULE_FACT_TYPE").getD s.query.factType }
  log :=
    { level := (environment "RUST_LOG").getD s.log.level
      format := (environment "LOG_FORMAT").getD s.log.format
      output := (environment "LOG_OUTPUT").getD s.log.output
      directory := (environment "LOG_DIR").getD s.log.directory }

end RuleQuery.Config
