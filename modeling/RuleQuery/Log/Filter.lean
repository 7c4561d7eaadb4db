import RuleQuery.Log.Level
import RuleQuery.Log.Pattern.Validity
import RuleQuery.Text.Alphanumeric
import RuleQuery.Text.Blank
import RuleQuery.Text.Bytes
import RuleQuery.Text.Numeral
import RuleQuery.Text.Split

/-!
**Filters of events.**

A filter is a list of directives with commas between them. A directive is a level, which holds for
all targets, a target with a level after an equals sign, or a target alone, for which everything is
let through. Before the equals sign a directive may name a span in brackets, and in them a field in
braces, with a value after an equals sign or without. The value is a number or a pattern. A directive
that names a span or a value holds inside spans only; one with a field alone holds for the events that
have the field. A target covers every target that it is the start of. Of the directives that hold for
an event outside spans, the one with the longest target decides, then one with a field, and of two
alike the later one. An event that no directive covers is held back.
-/

namespace RuleQuery.Log

/-- What a filter lets through: nothing, or all levels up to one. -/
inductive Threshold where
  | off
  | upTo (level : Level)
deriving DecidableEq, Repr

/-- The threshold lets events of a level through. -/
def Threshold.allows : Threshold → Level → Bool
  | off, _ => false
  | upTo limit, level => level.rank ≤ limit.rank

/-- The thresholds in the order of their numbers. -/
def Threshold.byNumber : List Threshold :=
  [.off, .upTo .error, .upTo .warn, .upTo .info, .upTo .debug, .upTo .trace]

/-- The words for the thresholds, in the same order. -/
def Threshold.words : List String :=
  ["off", "error", "warn", "info", "debug", "trace"]

/-- The number that digits write, with a plus sign before them or not. -/
def number? (text : List Char) : Option Nat :=
  let digits := if text.head? = some '+' then text.tail else text
  if digits.isEmpty ∨ !digits.all Char.isDigit then none else some (Nat.ofDigitChars 10 digits 0)

/-- The threshold that a text names, by its number or by its word in any case. -/
def Threshold.ofText? (text : List Char) : Option Threshold :=
  match (number? text).bind (byNumber[·]?) with
  | some threshold => some threshold
  | none => (words.zip byNumber).lookup (String.ofList (text.map Char.toLower))

/-- Why a text is not a filter. -/
inductive FilterError where
  /-- A directive is not well formed. -/
  | directive
  /-- What stands after the equals sign is not a level. -/
  | level
  /-- What stands after the equals sign of a field is not a pattern. -/
  | field (cause : Pattern.PatternError)
deriving DecidableEq, Repr

/-- The message of an error. -/
def FilterError.message : FilterError → String
  | field cause => "invalid field filter: " ++ cause.message
  | directive => "invalid filter directive"
  | level => "error parsing level filter: expected one of \"off\", \"error\", \"warn\", \"info\", " ++
      "\"debug\", \"trace\", or a number 0-5"

/-! ### Directives -/

/-- A field that a directive asks for. -/
structure FieldRule where
  /-- The name of the field. -/
  name : List Char
  /-- A value is asked for as well. -/
  valued : Bool
deriving DecidableEq, Repr

/-- A value may be asked for: it is a number or a pattern. -/
def validateValue (value : List Char) : Except FilterError Unit :=
  if Text.isNumeral value then .ok () else (Pattern.validate value).mapError .field

/-- The field that a text asks for. The value ends where a second equals sign stands. -/
def FieldRule.ofText (text : List Char) : Except FilterError FieldRule := do
  match Text.splitAt '=' text with
  | name :: value :: _ =>
    validateValue value
    return ⟨name, true⟩
  | _ => return ⟨text, false⟩

/-- Which spans and events a directive holds for. -/
structure Scope where
  /-- The start of the targets; all targets start with nothing. -/
  target : List Char
  /-- The name of the span. -/
  span : Option (List Char)
  /-- The field. -/
  field : Option FieldRule
deriving DecidableEq, Repr

/-- A threshold for a scope. -/
structure Directive where
  /-- What the directive holds for. -/
  scope : Scope
  /-- What is let through. -/
  threshold : Threshold
deriving DecidableEq, Repr

/-- The scope of the targets that start with a text. -/
def Scope.ofTarget (target : List Char) : Scope :=
  ⟨target, none, none⟩

/-- The character may start a target. -/
def startsTarget (c : Char) : Bool :=
  c = '-' ∨ c = ':' ∨ c = '_' ∨ Text.isAlphanumeric c

/-- The threshold that stands after an equals sign; nothing lets everything through. -/
def thresholdAfter (text : List Char) : Except FilterError Threshold :=
  if text.isEmpty then .ok (.upTo .trace)
  else
    match Threshold.ofText? text with
    | some threshold => .ok threshold
    | none => .error .level

/-- The scope that brackets write after a target, and what follows the brackets. The signs are those of
one text, and the parts between them are cut out of another at the same bytes. -/
def Scope.ofBrackets (target signs text : List Char) : Except FilterError (Scope × List Char) := do
  let name := signs.takeWhile fun c => c ≠ ']' ∧ c ≠ '\x7b'
  let span := Text.takeBytes (Text.byteCount name) text
  match signs.drop name.length with
  | ']' :: rest => return (⟨target, some span, none⟩, rest)
  | '\x7b' :: rest =>
    let field := rest.takeWhile (· ≠ '\x7d')
    match rest.drop field.length with
    | '\x7d' :: rest =>
      if field.isEmpty then throw .directive
      let inner := Text.dropBytes (Text.byteCount name + 1) text
      let rule ← FieldRule.ofText (Text.takeBytes (Text.byteCount field) inner)
      match rest with
      | ']' :: rest => return (⟨target, if name.isEmpty then none else some span, some rule⟩, rest)
      | _ => throw .directive
    | _ => throw .directive
  | _ => throw .directive

/-- **The directive that a text writes.** Its signs are looked for without the white space around the
text, but its parts are cut out of the text with it, at the same bytes. -/
def Directive.ofText (text : List Char) : Except FilterError Directive := do
  let signs := Text.trim text
  let name := signs.takeWhile fun c => c ≠ '=' ∧ c ≠ '['
  let target := Text.takeBytes (Text.byteCount name) text
  let after (rest : List Char) := Text.dropBytes (Text.byteCount signs - Text.byteCount rest) text
  match signs.head? with
  | none => throw .directive
  | some c => if c ≠ '[' ∧ !startsTarget c then throw .directive
  match signs.drop name.length with
  | '[' :: rest =>
    let (scope, rest) ← Scope.ofBrackets target rest (after rest)
    match rest with
    | [] => return ⟨scope, .upTo .trace⟩
    | '=' :: level => return ⟨scope, ← thresholdAfter (after level)⟩
    | _ => throw .directive
  | '=' :: level => return ⟨.ofTarget target, ← thresholdAfter (after level)⟩
  | _ =>
    match Threshold.ofText? text with
    | some threshold => return ⟨.ofTarget [], threshold⟩
    | none => return ⟨.ofTarget text, .upTo .trace⟩

/-- **The directives that a text writes.** Empty ones do not count. -/
def directives (text : String) : Except FilterError (List Directive) :=
  ((Text.splitAt ',' text.toList).filter (· ≠ [])).mapM Directive.ofText

/-! ### Events -/

/-- An event outside spans. -/
structure Occurrence where
  /-- The target. -/
  target : String
  /-- The names of the fields. -/
  fields : List String
  /-- The level. -/
  level : Level
deriving DecidableEq, Repr

/-- The scope holds for an event outside spans. -/
def Scope.covers (scope : Scope) (event : Occurrence) : Bool :=
  scope.span.isNone && scope.target.isPrefixOf event.target.toList &&
    match scope.field with
    | some field => !field.valued && event.fields.contains (String.ofList field.name)
    | none => true

/-- The name of the field, or nothing where there is none. -/
def Scope.fieldName (scope : Scope) : List Char :=
  (scope.field.map FieldRule.name).getD []

/-- A scope decides before another one that covers the same event: its target is longer, or it is as
long and the name of its field stands later in the order of texts. -/
def Scope.precedes (scope other : Scope) : Bool :=
  other.target.length < scope.target.length ||
    (other.target.length == scope.target.length && decide (other.fieldName < scope.fieldName))

/-- The better of two directives that cover an event: the one whose scope decides first, or the later
one. -/
def better (current : Option Directive) (next : Directive) : Option Directive :=
  match current with
  | none => some next
  | some old => if old.scope.precedes next.scope then some old else some next

/-- **An event outside spans passes the directives.** -/
def passes (directives : List Directive) (event : Occurrence) : Bool :=
  match (directives.filter (·.scope.covers event)).foldl better none with
  | some d => d.threshold.allows event.level
  | none => false

end RuleQuery.Log
