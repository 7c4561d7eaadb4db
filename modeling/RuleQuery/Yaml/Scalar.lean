import RuleQuery.Text.Hexadecimal
import RuleQuery.Yaml.Folding

/-!
**Plain and quoted texts.**

`scanPlain`, `scanSingle` and `scanDouble` read a text without quotes, in single quotes and in double
quotes, and give what follows it. A plain text goes on in the lines below that stand deep enough,
whatever they start with, until a comment or a colon before a blank; between brackets it goes on in
every line, and brackets and commas end it. A line that starts or ends a document ends a plain text
and may not stand in a quoted one.
-/

namespace RuleQuery.Yaml

/-! ### Plain texts -/

/-- The character is a bracket or a comma. -/
def isFlowIndicator (c : Char) : Bool :=
  c = '[' ∨ c = ']' ∨ c = '\x7b' ∨ c = '\x7d' ∨ c = ','

/-- The character cannot start a plain text by itself. -/
def isReserved (c : Char) : Bool :=
  "\t-?:,[]\x7b\x7d#&*!|>'\"%@`".toList.contains c

/-- A plain text starts here. A hyphen starts one before a character that is no blank, and so do a
question mark and a colon outside brackets. -/
def startsPlain (inside : Bool) : List Mark → Bool
  | [] => false
  | m :: rest =>
    !isReserved m.char ∨
      (!endsWord rest ∧ (m.char = '-' ∨ (!inside ∧ (m.char = '?' ∨ m.char = ':'))))

/-- A colon between brackets that stands right before a bracket, a comma or a question mark. -/
def isStrayColon : List Mark → Bool
  | m :: n :: _ => m.char = ':' ∧ (isFlowIndicator n.char ∨ n.char = '?')
  | _ => false

/-- A plain text ends at this character of a word. -/
def endsPlain (inside : Bool) : List Mark → Bool
  | [] => true
  | m :: rest => (m.char = ':' ∧ endsWord rest) ∨ (inside ∧ isFlowIndicator m.char)

/-- A plain text does not go on with the word that starts here, after a gap. -/
def stopsBefore (inside : Bool) (least : Nat) : List Mark → Bool
  | [] => true
  | m :: rest =>
    isBoundary (m :: rest) ∨ m.char = '#' ∨ (!inside ∧ m.column < least)

/-- **A plain text after a gap**, whether a line ends between the text and what follows it, and what
follows it. In the lines below the first, a tab may not stand before the least column. -/
def scanPlain (inside : Bool) (least : Nat) (gap : Gap) :
    List Mark → Option (List Char × Bool × List Mark)
  | [] => some ([], gap.crosses, [])
  | m :: rest =>
    if isBlank m.char ∨ isBreak m.char then
      if gap.crosses ∧ m.char = '\t' ∧ m.column < least then none
      else scanPlain inside least (gap.add m.char) rest
    else if gap ≠ .empty ∧ stopsBefore inside least (m :: rest) then
      some ([], gap.crosses, m :: rest)
    else if inside ∧ isStrayColon (m :: rest) then none
    else if endsPlain inside (m :: rest) then some ([], gap.crosses, m :: rest)
    else do
      let (text, crosses, after) ← scanPlain inside least .empty rest
      return (gap.text ++ m.char :: text, crosses, after)

/-! ### Quoted texts -/

/-- **The rest of a text in single quotes** after a gap, in which two quotes stand for one. -/
def scanSingle (gap : Gap) : List Mark → Option (List Char × List Mark)
  | [] => none
  | [m] => if m.char = '\'' then some (gap.text, []) else none
  | m :: n :: rest =>
    if isBlank m.char ∨ isBreak m.char then scanSingle (gap.add m.char) (n :: rest)
    else if isBoundary (m :: n :: rest) then none
    else if m.char = '\'' then
      if n.char = '\'' then do
        let (text, after) ← scanSingle .empty rest
        return (gap.text ++ '\'' :: text, after)
      else some (gap.text, n :: rest)
    else do
      let (text, after) ← scanSingle .empty (n :: rest)
      return (gap.text ++ m.char :: text, after)

/-- What a letter after a backslash stands for. -/
def escape? (c : Char) : Option Char :=
  [('0', 0x00), ('a', 0x07), ('b', 0x08), ('t', 0x09), ('\t', 0x09), ('n', 0x0A), ('v', 0x0B),
    ('f', 0x0C), ('r', 0x0D), ('e', 0x1B), (' ', 0x20), ('"', 0x22), ('/', 0x2F), ('\\', 0x5C),
    ('N', 0x85), ('_', 0xA0), ('L', 0x2028), ('P', 0x2029)].lookup c |>.map Char.ofNat

/-- How many hexadecimal digits follow a letter after a backslash. -/
def escapeDigits? (c : Char) : Option Nat :=
  [('x', 2), ('u', 4), ('U', 8)].lookup c

/-- How far an escape has been read. -/
inductive Pending where
  /-- There is no escape. -/
  | none
  /-- After the backslash. -/
  | backslash
  /-- So many digits are left after those with a value. -/
  | digits (left value : Nat)

/-- **The rest of a text in double quotes** after a gap and what has been read of an escape. -/
def scanDouble (gap : Gap) : Pending → List Mark → Option (List Char × List Mark)
  | _, [] => .none
  | .none, m :: rest =>
    if isBlank m.char ∨ isBreak m.char then scanDouble (gap.add m.char) .none rest
    else if isBoundary (m :: rest) then .none
    else if m.char = '"' then some (gap.text, rest)
    else if m.char = '\\' then do
      let (text, after) ← scanDouble .empty .backslash rest
      return (gap.text ++ text, after)
    else do
      let (text, after) ← scanDouble .empty .none rest
      return (gap.text ++ m.char :: text, after)
  | .backslash, m :: rest =>
    if isBreak m.char then scanDouble .afterBackslash .none rest
    else
      match escapeDigits? m.char with
      | some count => scanDouble .empty (.digits count 0) rest
      | .none => do
        let c ← escape? m.char
        let (text, after) ← scanDouble .empty .none rest
        return (c :: text, after)
  | .digits left value, m :: rest => do
    let code := value * 16 + (← Text.hexValue? m.char)
    if left = 1 then
      if code.isValidChar then
        let (text, after) ← scanDouble .empty .none rest
        return (Char.ofNat code :: text, after)
      else failure
    else scanDouble .empty (.digits (left - 1) code) rest

end RuleQuery.Yaml
