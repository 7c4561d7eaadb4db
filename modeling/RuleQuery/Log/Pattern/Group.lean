import RuleQuery.Log.Pattern.Symbol
import RuleQuery.Text.Alphabetic

/-!
**Heads of groups.**

What stands after an opening parenthesis says what the group is: it has a name, it sets flags for
itself, or it is no group and sets flags for the rest of the group around it.
-/

namespace RuleQuery.Log.Pattern

/-- What an opening parenthesis starts. -/
inductive GroupHead where
  /-- A group with a name. -/
  | named (name : List Char)
  /-- A group with a mode of its own. -/
  | plain (mode : Mode)
  /-- The mode from here on. -/
  | change (mode : Mode)
deriving DecidableEq, Repr

/-! ### Names -/

/-- The character may start a name. -/
def startsName (c : Char) : Bool :=
  c = '_' || Text.isAlphabetic c

/-- The character may go on with a name. -/
def continuesName (c : Char) : Bool :=
  c = '_' || c = '.' || c = '[' || c = ']' || Text.isAlphanumeric c

/-- The text is a name. -/
def isName : List Char → Bool
  | [] => false
  | c :: rest => startsName c && rest.all continuesName

/-- The group with the name that ends at the next closing angle, and what follows it. -/
def readName (text : List Char) : Option (GroupHead × List Char) :=
  let name := text.takeWhile (· ≠ '>')
  match text.drop name.length with
  | '>' :: rest => if isName name then some (.named name, rest) else none
  | _ => none

/-! ### Flags -/

/-- The letters of the flags. -/
def flagLetters : List Char :=
  ['i', 'm', 's', 'U', 'u', 'R', 'x']

/-- The mode after a flag is set or cleared. The other flags change what a pattern matches and not which
patterns there are. -/
def Mode.put (mode : Mode) (flag : Char) (value : Bool) : Mode :=
  match flag with
  | 'i' => ⟨value, mode.wide, mode.spaced⟩
  | 'u' => ⟨mode.caseless, value, mode.spaced⟩
  | 'x' => ⟨mode.caseless, mode.wide, value⟩
  | _ => mode

/-- **The flags up to a colon or a closing parenthesis**, after those that have been seen, the last one
first. Flags after a hyphen are cleared; none of them comes twice, and the hyphen is not the last. -/
def readFlags (seen : List Char) (mode : Mode) : List Char → Option (GroupHead × List Char)
  | [] => none
  | ':' :: rest => if seen.head? = some '-' then none else some (.plain mode, rest)
  | ')' :: rest =>
    if seen.isEmpty || seen.head? = some '-' then none else some (.change mode, rest)
  | c :: rest =>
    if seen.contains c || !('-' :: flagLetters).contains c then none
    else readFlags (c :: seen) (mode.put c !(seen.contains '-')) rest

/-- **The head of the group whose opening parenthesis stands before a text**, and what follows it. -/
def groupHead? (mode : Mode) (text : List Char) : Option (GroupHead × List Char) :=
  match mode.skip text with
  | '?' :: 'P' :: '<' :: rest => readName rest
  | '?' :: '<' :: rest => readName rest
  | '?' :: rest => readFlags [] mode rest
  | rest => some (.plain mode, rest)

end RuleQuery.Log.Pattern
