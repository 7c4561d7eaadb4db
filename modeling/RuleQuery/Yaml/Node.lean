/-!
**The values of a YAML document.**
-/

namespace RuleQuery

/-- A value of a YAML document. -/
inductive Yaml where
  /-- Nothing is written. -/
  | blank
  /-- A text, with or without quotes. -/
  | scalar (text : String)
  /-- Values in order. -/
  | sequence (items : List Yaml)
  /-- Keys with their values, in order. -/
  | mapping (entries : List (Yaml × Yaml))
deriving Repr

/-- The text of a value that is a key or a plain setting. -/
def Yaml.text? : Yaml → Option String
  | blank => some ""
  | scalar text => some text
  | _ => none

end RuleQuery
