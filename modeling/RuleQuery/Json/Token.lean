import RuleQuery.Json.Magnitude
import RuleQuery.Text.Hexadecimal

/-!
**The tokens of a JSON text.**

`lex` divides a text into its punctuation marks, words, numbers and strings, and drops the blanks.
A text with a character that starts no token, a number or an escape that is not well formed, or a
control character inside a string has no tokens. A string with half of a surrogate pair and a number
out of range are tokens, but stand for nothing.
-/

namespace RuleQuery.Json

/-- A token of a JSON text. -/
inductive Token where
  | openArray
  | closeArray
  | openObject
  | closeObject
  | comma
  | colon
  | null
  | bool (value : Bool)
  | int (value : Int)
  | real (literal : List Char)
  | str (text : List Char)
  /-- A string with half of a surrogate pair. -/
  | broken
  /-- A number out of range. -/
  | huge
deriving DecidableEq, Repr

/-! ### Strings -/

/-- The number written by four hexadecimal digits. -/
def hex4? (a b c d : Char) : Option Nat := do
  let w ← Text.hexValue? a
  let x ← Text.hexValue? b
  let y ← Text.hexValue? c
  let z ← Text.hexValue? d
  return ((w * 16 + x) * 16 + y) * 16 + z

/-- The character that a letter after a backslash stands for. -/
def escaped? (c : Char) : Option Char :=
  if c = '"' then some '"'
  else if c = '\\' then some '\\'
  else if c = '/' then some '/'
  else if c = 'b' then some '\x08'
  else if c = 'f' then some '\x0c'
  else if c = 'n' then some '\n'
  else if c = 'r' then some '\r'
  else if c = 't' then some '\t'
  else none

/-- The first half of a surrogate pair. -/
def isHighSurrogate (unit : Nat) : Bool :=
  0xD800 ≤ unit && unit < 0xDC00

/-- The second half of a surrogate pair. -/
def isLowSurrogate (unit : Nat) : Bool :=
  0xDC00 ≤ unit && unit < 0xE000

/-- The character of a surrogate pair. -/
def pairChar (high low : Nat) : Char :=
  Char.ofNat (0x10000 + (high - 0xD800) * 0x400 + (low - 0xDC00))

/-- The character written by the second half of a surrogate pair after its first half. -/
def lexLowSurrogate (high : Nat) : List Char → Option (Char × List Char)
  | '\\' :: 'u' :: a :: b :: c :: d :: rest =>
    match hex4? a b c d with
    | some low => if isLowSurrogate low then some (pairChar high low, rest) else none
    | none => none
  | _ => none

/-- The character written by what follows a backslash, unless it is half of a surrogate pair, and the
text after it. -/
def lexEscape : List Char → Option (Option Char × List Char)
  | 'u' :: a :: b :: c :: d :: rest =>
    match hex4? a b c d with
    | some unit =>
      if isHighSurrogate unit then
        match lexLowSurrogate unit rest with
        | some (e, left) => some (some e, left)
        | none => some (none, rest)
      else if isLowSurrogate unit then some (none, rest)
      else some (some (Char.ofNat unit), rest)
    | none => none
  | c :: rest => (escaped? c).map fun e => (some e, rest)
  | [] => none

/-- The first character of the inside of a string, unless it is half of a surrogate pair, and the
text after it. -/
def lexChar : List Char → Option (Option Char × List Char)
  | [] => none
  | c :: rest =>
    if c = '\\' then lexEscape rest else if c.toNat < 0x20 then none else some (some c, rest)

theorem lexLowSurrogate_length {high : Nat} {s rest : List Char} {c : Char}
    (read : lexLowSurrogate high s = some (c, rest)) : rest.length < s.length := by
  unfold lexLowSurrogate at read
  grind

theorem lexEscape_length {s rest : List Char} {c : Option Char}
    (read : lexEscape s = some (c, rest)) : rest.length < s.length := by
  unfold lexEscape at read
  split at read
  · split at read
    · split at read
      · split at read
        · next low =>
          have := lexLowSurrogate_length low
          simp only [Option.some.injEq, Prod.mk.injEq] at read
          simp only [List.length_cons, ← read.2]
          omega
        · grind
      · grind
    · simp at read
  · obtain ⟨e, _, eq⟩ := Option.map_eq_some_iff.1 read
    simp only [Prod.mk.injEq] at eq
    simp [← eq.2]
  · simp at read

theorem lexChar_length {s rest : List Char} {c : Option Char}
    (read : lexChar s = some (c, rest)) : rest.length < s.length := by
  unfold lexChar at read
  split at read
  · simp at read
  · split at read
    · have := lexEscape_length read
      simp only [List.length_cons]
      omega
    · grind

/-- A text with a character before it, where there are both. -/
def consChar : Option Char → Option (List Char) → Option (List Char)
  | some c, some text => some (c :: text)
  | _, _ => none

/-- The characters of a string whose opening quote has been read, unless there is half of a surrogate
pair among them, and the text after it. -/
def lexString (s : List Char) : Option (Option (List Char) × List Char) :=
  match s with
  | '"' :: rest => some (some [], rest)
  | s =>
    match read : lexChar s with
    | none => none
    | some (c, rest) => (lexString rest).map fun (text, left) => (consChar c text, left)
termination_by s.length
decreasing_by exact lexChar_length read

theorem lexString_length {s left : List Char} {text : Option (List Char)}
    (read : lexString s = some (text, left)) : left.length < s.length := by
  induction s using lexString.induct generalizing text left with
  | case1 rest =>
    rw [lexString] at read
    simp only [Option.some.injEq, Prod.mk.injEq] at read
    simp [← read.2]
  | case2 s other none =>
    rw [lexString] at read
    · grind
    · exact other
  | case3 s other c rest first ih =>
    rw [lexString] at read
    · split at read
      · simp at read
      · next c' rest' again =>
        obtain ⟨⟨text', left'⟩, inner, eq⟩ := Option.map_eq_some_iff.1 read
        rw [first] at again
        simp only [Option.some.injEq, Prod.mk.injEq] at again eq
        obtain ⟨rfl, rfl⟩ := again
        have := ih inner
        have := lexChar_length first
        rw [← eq.2]
        omega
    · exact other

/-! ### Numbers and words -/

/-- A character of numbers. -/
def isNumberChar (c : Char) : Bool :=
  c.isDigit || c == '-' || c == '+' || c == '.' || c == 'e' || c == 'E'

/-- One digit or more. -/
def isDigits (s : List Char) : Bool :=
  !s.isEmpty && s.all Char.isDigit

/-- An exponent, or nothing. -/
def isExponent : List Char → Bool
  | [] => true
  | 'e' :: '+' :: ds | 'e' :: '-' :: ds | 'E' :: '+' :: ds | 'E' :: '-' :: ds => isDigits ds
  | 'e' :: ds | 'E' :: ds => isDigits ds
  | _ => false

/-- What may follow the whole part of a number: a fraction, an exponent, both or nothing. -/
def isFraction : List Char → Bool
  | '.' :: rest => isDigits (rest.takeWhile Char.isDigit) && isExponent (rest.dropWhile Char.isDigit)
  | rest => isExponent rest

/-- A whole part of a number: digits without a zero in front of others. -/
def isWhole : List Char → Bool
  | ['0'] => true
  | '0' :: _ => false
  | ds => isDigits ds

/-- The number that a run of number characters writes. -/
def number? (run : List Char) : Option Token :=
  let negative := run.head? == some '-'
  let magnitude := if negative then run.drop 1 else run
  let whole := magnitude.takeWhile Char.isDigit
  let tail := magnitude.dropWhile Char.isDigit
  if !isWhole whole || !isFraction tail then none
  else if !inRange whole tail then some .huge
  else if tail.isEmpty && !(negative && whole == ['0']) then
    let value : Int := Nat.ofDigitChars 10 whole 0
    some (.int (if negative then -value else value))
  else some (.real run)

/-- The value that a word stands for. -/
def word? (run : List Char) : Option Token :=
  if run = ['n', 'u', 'l', 'l'] then some .null
  else if run = ['t', 'r', 'u', 'e'] then some (.bool true)
  else if run = ['f', 'a', 'l', 's', 'e'] then some (.bool false)
  else none

/-! ### The whole text -/

/-- A blank of JSON. -/
def isSpace (c : Char) : Bool :=
  c == ' ' || c == '\n' || c == '\t' || c == '\r'

/-- The token of a punctuation mark. -/
def mark? (c : Char) : Option Token :=
  if c = '[' then some .openArray
  else if c = ']' then some .closeArray
  else if c = '\x7b' then some .openObject
  else if c = '\x7d' then some .closeObject
  else if c = ',' then some .comma
  else if c = ':' then some .colon
  else none

/-- The token of a string. -/
def stringToken : Option (List Char) → Token
  | some text => .str text
  | none => .broken

/-- The first token of a text that starts with a character other than a blank, and the text after
the token. -/
def lexToken (c : Char) (rest : List Char) : Option (Token × List Char) :=
  match mark? c with
  | some token => some (token, rest)
  | none =>
    if c = '"' then (lexString rest).map fun (text, left) => (stringToken text, left)
    else if isNumberChar c then
      (number? (c :: rest.takeWhile isNumberChar)).map fun token =>
        (token, rest.dropWhile isNumberChar)
    else (word? (c :: rest.takeWhile Char.isAlpha)).map fun token =>
      (token, rest.dropWhile Char.isAlpha)

theorem length_dropWhile_le (inClass : Char → Bool) (s : List Char) :
    (s.dropWhile inClass).length ≤ s.length :=
  (List.dropWhile_suffix inClass).length_le

theorem lexToken_length {c : Char} {rest left : List Char} {token : Token}
    (read : lexToken c rest = some (token, left)) : left.length ≤ rest.length := by
  have number := length_dropWhile_le isNumberChar rest
  have word := length_dropWhile_le Char.isAlpha rest
  unfold lexToken at read
  split at read
  · grind
  · split at read
    · obtain ⟨⟨text, left'⟩, inner, eq⟩ := Option.map_eq_some_iff.1 read
      have := lexString_length inner
      simp only [Prod.mk.injEq] at eq
      rw [← eq.2]
      omega
    · split at read <;>
      · obtain ⟨_, _, eq⟩ := Option.map_eq_some_iff.1 read
        simp only [Prod.mk.injEq] at eq
        rw [← eq.2]
        assumption

/-- **The tokens of a text.** -/
def lex (s : List Char) : Option (List Token) :=
  match s with
  | [] => some []
  | c :: rest =>
    if isSpace c then lex rest
    else
      match read : lexToken c rest with
      | none => none
      | some (token, left) => (lex left).map (token :: ·)
termination_by s.length
decreasing_by
  · simp
  · have := lexToken_length read
    simp only [List.length_cons]
    omega

end RuleQuery.Json
