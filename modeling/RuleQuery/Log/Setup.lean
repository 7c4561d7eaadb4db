import RuleQuery.Config.Settings
import RuleQuery.Log.Directory
import RuleQuery.Log.Filter
import RuleQuery.Text.Lowercase

/-!
**Setting up the log.**

The settings name a filter, the form of the lines, where the lines go, and a directory for log files.
A form or an output that is not known falls back to the first one. The filter is read first; then the
directory is made, if lines go to a file; then the log is installed, once in a process. A log that is
installed reports this as its first event, so that the filter decides whether a line is written.
-/

namespace RuleQuery.Log

/-- The forms of the lines. -/
inductive Format where
  /-- For reading by people. -/
  | pretty
  /-- For reading by programs. -/
  | json
  /-- One short line for each event. -/
  | compact
deriving DecidableEq, Repr

/-- The form that a text names, in any case. -/
def Format.ofText (text : String) : Format :=
  match Text.lowercase text with
  | "json" => .json
  | "compact" => .compact
  | _ => .pretty

/-- Where the lines go. -/
inductive Output where
  | stdout
  | file
  | both
deriving DecidableEq, Repr

/-- The output that a text names, in any case. -/
def Output.ofText (text : String) : Output :=
  match Text.lowercase text with
  | "file" => .file
  | "both" => .both
  | _ => .stdout

/-- Lines go to the standard output. -/
def Output.toStdout (output : Output) : Bool :=
  output ≠ .file

/-- Lines go to a file. -/
def Output.toFile (output : Output) : Bool :=
  output ≠ .stdout

/-! ### Installation -/

/-- Why the log is not set up. -/
inductive SetupError where
  /-- The filter cannot be read. -/
  | filter (error : FilterError)
  /-- The directory cannot be made. -/
  | directory (error : DirectoryError)
  /-- A log is installed already. -/
  | installed
deriving DecidableEq, Repr

/-- The message of an error. -/
def SetupError.message : SetupError → String
  | filter error => "Invalid log filter: " ++ error.message
  | directory error => "Failed to create log directory: " ++ error.message
  | installed =>
    "Failed to install subscriber: a global default trace dispatcher has already been set"

/-- A log that is set up. -/
structure Logger where
  /-- The form of the lines. -/
  format : Format
  /-- Where they go. -/
  output : Output
  /-- Which events they show. -/
  directives : List Directive
deriving DecidableEq, Repr

/-- The report of an installation under a target. -/
def report (target : String) : Occurrence :=
  ⟨target, ["message", "format", "output", "level"], .info⟩

/-- **The log shows the report of its installation**, under a target. -/
def Logger.reportsItself (logger : Logger) (target : String) : Bool :=
  passes logger.directives (report target)

/-- The file tree with a directory for the output, if lines go to a file. -/
def Output.prepare (output : Output) (directory : String) (tree : FileTree) :
    FileTree × Option DirectoryError :=
  if output.toFile then tree.makeDirectory directory else (tree, none)

/-- **The log of the settings and the file tree after setting it up**, in a process that has a log
already or not. -/
def install (settings : Config.LogSettings) (tree : FileTree) (present : Bool) :
    Except SetupError Logger × FileTree :=
  let output := Output.ofText settings.output
  match directives settings.level with
  | .error error => (.error (.filter error), tree)
  | .ok rules =>
    match output.prepare settings.directory tree with
    | (grown, some error) => (.error (.directory error), grown)
    | (grown, none) =>
      if present then (.error .installed, grown)
      else (.ok ⟨Format.ofText settings.format, output, rules⟩, grown)

end RuleQuery.Log
