import RuleQuery.Log.Pattern.Symbol

/-!
**Classes of characters in brackets.**

A class has characters, ranges of them, named classes and classes in brackets of their own, with signs
for what is in two sets, in one but not the other, or in one only. `readClass` reads a class and says
how deep it is nested.
-/

namespace RuleQuery.Log.Pattern

/-- A class whose closing bracket has not come yet. -/
structure OpenClass where
  /-- Nothing but hyphens has come yet. -/
  fresh : Bool
  /-- How deep what stands before the last sign between two sets is nested. -/
  operand : Option Nat
  /-- How deep the items since then are nested. -/
  items : List Nat
deriving DecidableEq, Repr

/-- A class in which nothing has come yet. -/
def OpenClass.empty : OpenClass :=
  ⟨true, none, []⟩

/-- The class with one more item. -/
def OpenClass.add (item : Nat) (c : OpenClass) : OpenClass :=
  ⟨false, c.operand, item :: c.items⟩

/-- How deep the sets of a class are nested. -/
def OpenClass.depth (c : OpenClass) : Nat :=
  match c.operand with
  | none => rowDepth c.items
  | some operand => 1 + max operand (rowDepth c.items)

/-- The class after a sign between two sets. -/
def OpenClass.operate (c : OpenClass) : OpenClass :=
  ⟨false, some c.depth, []⟩

/-! ### Items -/

/-- The symbol may stand in a class. -/
def Mode.admitsItem (mode : Mode) : Symbol → Bool
  | .literal c byte => mode.admits (.literal c byte) && (mode.wide || isNarrow c)
  | .kind negated => mode.admits (.kind negated)
  | _ => false

/-- A class with a name may stand in a class. -/
def Mode.admitsNamed (mode : Mode) (negated : Bool) : Bool :=
  if mode.wide then !mode.caseless else !negated

/-- The symbol that starts a text in a class, and what follows it. -/
def item? (mode : Mode) : List Char → Option (Symbol × List Char)
  | [] => none
  | '\\' :: rest => escape? mode rest
  | c :: rest => some (.literal c false, rest)

/-- Two symbols are the ends of a range. -/
def isRange : Symbol → Symbol → Bool
  | .literal first _, .literal last _ => first ≤ last
  | _, _ => false

/-- The character that a look ahead finds. It passes white space and one number sign; where nothing
follows them it finds the first of them. -/
def Mode.peek (mode : Mode) (text : List Char) : Option Char :=
  if mode.spaced then
    let rest := text.dropWhile Text.isBlank
    let rest := if rest.head? = some '#' then rest.tail.dropWhile Text.isBlank else rest
    rest.head?.or text.head?
  else text.head?

/-- The hyphen before a text makes a range. -/
def Mode.joinsRange (mode : Mode) (text : List Char) : Bool :=
  mode.peek text ≠ some ']' && mode.peek text ≠ some '-'

/-- What follows a character, a kind or a range that may stand in a class. -/
def readItem (mode : Mode) (text : List Char) : Option (List Char) := do
  let (first, rest) ← item? mode text
  guard (mode.admitsItem first)
  match mode.skip rest with
  | '-' :: tail =>
    if mode.joinsRange tail then
      let (last, after) ← item? mode (mode.skip tail)
      guard (mode.admitsItem last && isRange first last)
      return after
    else return '-' :: tail
  | after => return after

/-- The names of the classes with a name. -/
def classNames : List String :=
  ["alnum", "alpha", "ascii", "blank", "cntrl", "digit", "graph", "lower", "print", "punct", "space",
    "upper", "word", "xdigit"]

/-- Whether the class with a name is negated, and what follows it, where a text after an opening bracket
writes one. -/
def named? : List Char → Option (Bool × List Char)
  | ':' :: rest =>
    let negated := rest.head? = some '^'
    let rest := if negated then rest.tail else rest
    let name := rest.takeWhile (· ≠ ':')
    match rest.drop name.length with
    | ':' :: ']' :: after =>
      if classNames.contains (String.ofList name) then some (negated, after) else none
    | _ => none
  | _ => none

/-! ### Classes -/

/-- The class whose opening bracket stands before a text, and what follows the sign of negation. All
other characters are many bytes, so in bytes there is no such sign. -/
def openClass? (mode : Mode) (text : List Char) : Option (OpenClass × List Char) :=
  match mode.skip text with
  | '^' :: rest => if mode.wide then some (.empty, rest) else none
  | rest => some (.empty, rest)

/-- What comes next in a class. -/
inductive ClassStep where
  /-- The class goes on. -/
  | more (current : OpenClass) (rest : List Char)
  /-- A class in it starts. -/
  | inner (start : OpenClass) (rest : List Char)
  /-- The class is closed. -/
  | closed (rest : List Char)
deriving DecidableEq, Repr

/-- A character, a kind or a range comes next. -/
def itemStep (mode : Mode) (current : OpenClass) (text : List Char) : Option ClassStep :=
  (readItem mode text).map (.more (current.add 0))

/-- A hyphen or a bracket at the start of a class stands for itself. -/
def markStep (mode : Mode) (current : OpenClass) (mark : Char) (rest : List Char) : Option ClassStep :=
  if mode.admitsItem (.literal mark false) then
    some (.more ⟨mark = '-', current.operand, 0 :: current.items⟩ rest)
  else none

/-- A class with a name or one in brackets of its own comes next. -/
def bracketStep (mode : Mode) (current : OpenClass) (rest : List Char) : Option ClassStep :=
  match named? rest with
  | some (negated, after) =>
    if mode.admitsNamed negated then some (.more (current.add 0) after) else none
  | none => (openClass? mode rest).map fun (start, after) => .inner start after

/-- **One step in a class.** Hyphens at its start stand for themselves, and so does a closing bracket
that is the first character. -/
def classStep (mode : Mode) (current : OpenClass) : List Char → Option ClassStep
  | [] => none
  | '-' :: rest =>
    if current.fresh then markStep mode current '-' rest
    else if rest.head? = some '-' then some (.more current.operate rest.tail)
    else itemStep mode current ('-' :: rest)
  | '&' :: '&' :: rest => some (.more current.operate rest)
  | '~' :: '~' :: rest => some (.more current.operate rest)
  | ']' :: rest =>
    if current.fresh && current.items.isEmpty then markStep mode current ']' rest
    else some (.closed rest)
  | '[' :: rest => bracketStep mode current rest
  | text => itemStep mode current text

/-- The rest of a class in the classes around it: how deep the outermost is nested, and what follows
it. -/
def classLoop (mode : Mode) :
    Nat → OpenClass → List OpenClass → List Char → Option (Nat × List Char)
  | 0, _, _, _ => none
  | fuel + 1, current, around, text => do
    match ← classStep mode current (mode.skip text) with
    | .more next rest => classLoop mode fuel next around rest
    | .inner start rest => classLoop mode fuel start (current :: around) rest
    | .closed rest =>
      match around with
      | [] => return (1 + current.depth, rest)
      | next :: others => classLoop mode fuel (next.add (1 + current.depth)) others rest

/-- **The class whose opening bracket stands before a text**: how deep it is nested, and what follows
it. Each step takes a character, so the length of the text bounds the steps. -/
def readClass (mode : Mode) (text : List Char) : Option (Nat × List Char) := do
  let (start, rest) ← openClass? mode text
  classLoop mode (rest.length + 1) start [] rest

end RuleQuery.Log.Pattern
