import RuleQuery.Config.Settings
import RuleQuery.Yaml.Reader

/-!
**Settings in a file.**

The file is a YAML document with two sections, `query` and `logging`. A setting that is left out has
its default, and so has every setting of a section that is left out or empty. Other keys do not
matter, but no key of a setting or a section may occur twice. The environment wins over the file; a
file that cannot be read is an error in any case.
-/

namespace RuleQuery.Config

/-- Why a file gives no settings. -/
inductive LoadError where
  /-- There is no file. -/
  | missing
  /-- There is a directory instead. -/
  | isDirectory
  /-- The bytes are not UTF-8. -/
  | notText
  /-- The text is not YAML, or not that of settings. -/
  | notSettings
deriving DecidableEq, Repr

/-- The message of an error. -/
def LoadError.message : LoadError → String
  | missing => "Failed to read config file: No such file or directory (os error 2)"
  | isDirectory => "Failed to read config file: Is a directory (os error 21)"
  | notText => "Failed to read config file: stream did not contain valid UTF-8"
  | notSettings => "Failed to parse YAML"

/-- What stands at a path. -/
inductive FileContent where
  | missing
  | directory
  | bytes (content : ByteArray)

/-! ### Sections and settings -/

/-- The keys of a section with their values. Nothing reads as an empty section. -/
def section? : Yaml → Option (List (String × Yaml))
  | .blank => some []
  | .mapping entries => entries.mapM fun (key, value) => return (← key.text?, value)
  | _ => none

/-- The value of the only entry with a key, or none; a repeated key is an error. -/
def entry? (entries : List (String × Yaml)) (key : String) : Option (Option Yaml) :=
  match entries.filter (·.1 == key) with
  | [] => some none
  | [(_, value)] => some (some value)
  | _ => none

/-- The text of a setting, or its default. -/
def setting? (entries : List (String × Yaml)) (key fallback : String) : Option String := do
  match ← entry? entries key with
  | none => return fallback
  | some value => value.text?

/-- The settings of the queries in a section. -/
def QuerySettings.ofYaml? (value : Yaml) : Option QuerySettings := do
  let entries ← section? value
  let fallback := QuerySettings.default
  return {
    name := ← setting? entries "name" fallback.name
    package := ← setting? entries "namespace" fallback.package
    factType := ← setting? entries "fact_type" fallback.factType }

/-- The settings of the log in a section. -/
def LogSettings.ofYaml? (value : Yaml) : Option LogSettings := do
  let entries ← section? value
  let fallback := LogSettings.default
  return {
    level := ← setting? entries "level" fallback.level
    format := ← setting? entries "format" fallback.format
    output := ← setting? entries "output" fallback.output
    directory := ← setting? entries "directory" fallback.directory }

/-- **The settings of a document.** -/
def Settings.ofYaml? (value : Yaml) : Option Settings := do
  let entries ← section? value
  return {
    query := ← QuerySettings.ofYaml? ((← entry? entries "query").getD .blank)
    log := ← LogSettings.ofYaml? ((← entry? entries "logging").getD .blank) }

/-! ### Files -/

/-- The text of a file. -/
def FileContent.text : FileContent → Except LoadError String
  | missing => .error .missing
  | directory => .error .isDirectory
  | bytes content =>
    match String.fromUTF8? content with
    | some text => .ok text
    | none => .error .notText

/-- **The settings of a file under an environment.** -/
def Settings.load (content : FileContent) (environment : Environment) :
    Except LoadError Settings := do
  let text ← content.text
  match (Yaml.parse text).bind Settings.ofYaml? with
  | some settings => return settings.override environment
  | none => throw .notSettings

/-- The default settings under an environment. -/
def Settings.ofEnvironment (environment : Environment) : Settings :=
  Settings.default.override environment

end RuleQuery.Config
