import RuleQuery.Log.Pattern.Class
import RuleQuery.Log.Pattern.Group

/-!
**Which texts are patterns.**

A pattern is a row of parts: symbols, classes in brackets and groups in parentheses, each of which may
be repeated, with bars between alternatives. `validate` reads a text once and keeps, for each group
that is open, how deep its parts are nested. A pattern that is nested too deeply is refused, and so is
one over characters that asks where words start and end; that is found out only for what is well formed
otherwise.
-/

namespace RuleQuery.Log.Pattern

/-- Why a text is not a pattern. -/
inductive PatternError where
  /-- The text is not well formed, or needs what there is no table for. -/
  | malformed
  /-- The pattern asks where words start or end. -/
  | wordEdge
deriving DecidableEq, Repr

/-- The message of an error. -/
def PatternError.message : PatternError → String
  | malformed => "error building NFA"
  | wordEdge =>
    "unsupported regex feature for DFAs: cannot build DFAs for regexes with Unicode word " ++
      "boundaries; switch to ASCII word boundaries, or heuristically enable Unicode word " ++
      "boundaries or use a different regex engine"

/-- A part of a row. -/
structure Part where
  /-- How deep the part is nested. -/
  depth : Nat
  /-- The part may be repeated. -/
  repeatable : Bool
deriving DecidableEq, Repr

/-- A group whose closing parenthesis has not come yet. -/
structure OpenGroup where
  /-- The mode at this place of the group. -/
  mode : Mode
  /-- How deep the alternatives before the last bar are nested. -/
  alternatives : List Nat
  /-- The parts since the last bar, the last one first. -/
  parts : List Part
deriving DecidableEq, Repr

/-- A group in which nothing has come yet. -/
def OpenGroup.empty (mode : Mode) : OpenGroup :=
  ⟨mode, [], []⟩

/-- The group with one more part, which may be repeated. -/
def OpenGroup.add (depth : Nat) (group : OpenGroup) : OpenGroup :=
  ⟨group.mode, group.alternatives, ⟨depth, true⟩ :: group.parts⟩

/-- How deep the row since the last bar is nested. -/
def OpenGroup.row (group : OpenGroup) : Nat :=
  rowDepth (group.parts.map Part.depth)

/-- The group after a bar. -/
def OpenGroup.bar (group : OpenGroup) : OpenGroup :=
  ⟨group.mode, group.row :: group.alternatives, []⟩

/-- How deep the alternatives of the group are nested. -/
def OpenGroup.depth (group : OpenGroup) : Nat :=
  rowDepth (group.row :: group.alternatives)

/-- The group from a change of its mode on. The change is a part, but not one to repeat. -/
def OpenGroup.change (mode : Mode) (group : OpenGroup) : OpenGroup :=
  ⟨mode, group.alternatives, ⟨0, false⟩ :: group.parts⟩

/-- The group with its last part repeated. -/
def OpenGroup.repeatLast? (group : OpenGroup) : Option OpenGroup :=
  match group.parts with
  | ⟨depth, true⟩ :: others => some ⟨group.mode, group.alternatives, ⟨1 + depth, true⟩ :: others⟩
  | _ => none

/-- What has been read of a pattern. -/
structure Reading where
  /-- The innermost open group, or the whole pattern. -/
  group : OpenGroup
  /-- The groups around it, from the inside out. -/
  around : List OpenGroup
  /-- The names of the groups. -/
  names : List (List Char)
  /-- The pattern asks where words start or end. -/
  wordEdges : Bool
deriving DecidableEq, Repr

/-- The reading with the innermost group changed. -/
def Reading.update (reading : Reading) (group : OpenGroup) : Reading :=
  ⟨group, reading.around, reading.names, reading.wordEdges⟩

/-- The reading inside one more group. -/
def Reading.enter (reading : Reading) (mode : Mode) (names : List (List Char)) : Reading :=
  ⟨.empty mode, reading.group :: reading.around, names ++ reading.names, reading.wordEdges⟩

/-- The reading after the innermost group is closed. -/
def Reading.leave? (reading : Reading) : Option Reading :=
  match reading.around with
  | [] => none
  | outer :: others =>
    some ⟨outer.add (1 + reading.group.depth), others, reading.names, reading.wordEdges⟩

/-- The reading after a symbol. -/
def Reading.symbol? (reading : Reading) (symbol : Symbol) : Option Reading :=
  if reading.group.mode.admits symbol then
    some ⟨reading.group.add 0, reading.around, reading.names,
      reading.wordEdges || (symbol = .wordEdge && reading.group.mode.wide)⟩
  else none

/-- The reading after an opening parenthesis and what stands behind it. -/
def Reading.open? (reading : Reading) (text : List Char) : Option (Reading × List Char) := do
  let (head, rest) ← groupHead? reading.group.mode text
  match head with
  | .named name =>
    if reading.names.contains name then none
    else return (reading.enter reading.group.mode [name], rest)
  | .plain mode => return (reading.enter mode [], rest)
  | .change mode => return (reading.update (reading.group.change mode), rest)

/-- The reading after the last part is repeated. A question mark right behind the sign belongs to it. -/
def Reading.repeat? (reading : Reading) (text : List Char) : Option (Reading × List Char) := do
  let group ← reading.group.repeatLast?
  return (reading.update group, if text.head? = some '?' then text.tail else text)

/-- **One step in a pattern**, from a character and what follows it. A number of repetitions stands
in braces, which nothing closes. -/
def Reading.step (reading : Reading) (c : Char) (rest : List Char) : Option (Reading × List Char) :=
  match c with
  | '(' => reading.open? rest
  | ')' => reading.leave?.map (·, rest)
  | '|' => some (reading.update reading.group.bar, rest)
  | '[' => (readClass reading.group.mode rest).map fun (depth, after) =>
      (reading.update (reading.group.add depth), after)
  | '?' => reading.repeat? rest
  | '*' => reading.repeat? rest
  | '+' => reading.repeat? rest
  | '\x7b' => none
  | '\\' => do
    let (symbol, after) ← escape? reading.group.mode rest
    return (← reading.symbol? symbol, after)
  | '.' => (reading.symbol? .any).map (·, rest)
  | '^' => (reading.symbol? .edge).map (·, rest)
  | '$' => (reading.symbol? .edge).map (·, rest)
  | c => (reading.symbol? (.literal c false)).map (·, rest)

/-- The reading of the rest of a text. -/
def Reading.run : Nat → Reading → List Char → Option Reading
  | 0, _, _ => none
  | fuel + 1, reading, text =>
    match reading.group.mode.skip text with
    | [] => some reading
    | c :: rest => do
      let (next, after) ← reading.step c rest
      next.run fuel after

/-- How deep a pattern may be nested. -/
def depthLimit : Nat := 250

/-- **The text is a pattern**, or why it is not. Each step takes a character, so the length of the text
bounds the steps. -/
def validate (text : List Char) : Except PatternError Unit :=
  match Reading.run (text.length + 1) ⟨.empty .initial, [], [], false⟩ text with
  | none => .error .malformed
  | some reading =>
    if !reading.around.isEmpty || depthLimit < reading.group.depth then .error .malformed
    else if reading.wordEdges then .error .wordEdge
    else .ok ()

end RuleQuery.Log.Pattern
