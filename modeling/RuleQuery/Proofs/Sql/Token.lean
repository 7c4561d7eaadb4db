import RuleQuery.Proofs.Sql.WellFormed

/-!
**Texts as tokens.**

A token is a reserved word, a name, a literal, a comparison or a sign. A text spells a list of tokens
when it has their spellings in turn, with any blanks and comments before, between and after them
(`Spelling`). Only words have to be kept apart from what follows them.

* `Spelling.face`: taking the gap before a token leads to the token itself (`Facing`).
* `Facing.token`: there the text starts with a spelling of the token.
* `Token.Spelled.first`: which token it is shows at its first character.
-/

namespace RuleQuery.Sql

/-! ### Tokens and their spellings -/

/-- A token of the language. -/
inductive Token where
  | keyword (k : Keyword)
  | name (text : String)
  | value (v : Value)
  | compare (op : BinOp)
  | sign (c : Char)
deriving DecidableEq

namespace Token

/-- The signs of the language apart from comparisons. -/
def signs : List Char :=
  ['(', ')', ',', '.', '*', ';']

/-- **The characters are a spelling of the token.** Reserved words have any letter case, integers any
number of zeros in front, and a quote inside a string is written twice. -/
inductive Spelled : Token → List Char → Prop where
  | keyword {k : Keyword} {w : List Char} (spells : k.Spells w) : Spelled (.keyword k) w
  | name {text : String} (named : Named text) : Spelled (.name text) text.toList
  | natural {i : Int64} {digits : List Char} (some : digits ≠ [])
      (all : ∀ c ∈ digits, c.isDigit = true)
      (denotes : i.toInt = (Nat.ofDigitChars 10 digits 0 : Int)) :
      Spelled (.value (.int i)) digits
  | negative {i : Int64} {digits : List Char} (some : digits ≠ [])
      (all : ∀ c ∈ digits, c.isDigit = true)
      (denotes : i.toInt = -(Nat.ofDigitChars 10 digits 0 : Int)) :
      Spelled (.value (.int i)) ('-' :: digits)
  | string (text : String) :
      Spelled (.value (.string text)) ('\'' :: (doubleQuotes text.toList ++ ['\'']))
  | eq : Spelled (.compare .eq) ['=']
  | ne : Spelled (.compare .ne) ['<', '>']
  | bang : Spelled (.compare .ne) ['!', '=']
  | lt : Spelled (.compare .lt) ['<']
  | le : Spelled (.compare .le) ['<', '=']
  | gt : Spelled (.compare .gt) ['>']
  | ge : Spelled (.compare .ge) ['>', '=']
  | sign {c : Char} (member : c ∈ signs) : Spelled (.sign c) [c]

/-- The token is a word. -/
def isWord : Token → Bool
  | keyword _ | name _ => true
  | _ => false

end Token

/-! ### Gaps -/

/-- Blanks, and comments with the ends of their lines. -/
inductive Gap : List Char → Prop where
  | none : Gap []
  | blank {c : Char} {rest : List Char} (blank : isGapChar c = true) (others : Gap rest) :
      Gap (c :: rest)
  | comment {line rest : List Char} (single : '\n' ∉ line) (others : Gap rest) :
      Gap ('-' :: '-' :: (line ++ '\n' :: rest))

/-- A gap at the end of a text: its last comment may lack the end of its line. -/
inductive FinalGap : List Char → Prop where
  | closed {gap : List Char} (inside : Gap gap) : FinalGap gap
  | unclosed {gap line : List Char} (inside : Gap gap) (single : '\n' ∉ line) :
      FinalGap (gap ++ '-' :: '-' :: line)

/-- **The text spells the tokens**, with gaps before, between and after them. -/
inductive Spelling : List Token → List Char → Prop where
  | finish {gap : List Char} (last : FinalGap gap) : Spelling [] gap
  | token {t : Token} {tokens : List Token} {gap w rest : List Char} (before : Gap gap)
      (spelled : t.Spelled w) (apart : t.isWord = true → EndsWord rest)
      (others : Spelling tokens rest) : Spelling (t :: tokens) (gap ++ (w ++ rest))

/-! ### Taking a gap -/

theorem splitGap_cons_blank {c : Char} (blank : isGapChar c = true) (rest : List Char) :
    splitGap (c :: rest) = (c :: (splitGap rest).1, (splitGap rest).2) := by
  rw [splitGap.eq_2]
  · rw [if_pos blank]
  · rintro _ rfl _
    cases blank

theorem splitGap_cons_solid {c : Char} {rest : List Char} (solid : isGapChar c = false)
    (single : c = '-' → rest.head? ≠ some '-') : splitGap (c :: rest) = ([], c :: rest) := by
  rw [splitGap.eq_2]
  · rw [if_neg (by simp [solid])]
  · rintro _ hyphen rfl
    exact single hyphen rfl

theorem splitComment_append_line {line : List Char} (single : '\n' ∉ line) (rest : List Char) :
    splitComment (line ++ '\n' :: rest) =
      (line ++ '\n' :: (splitGap rest).1, (splitGap rest).2) := by
  induction line with
  | nil => rw [List.nil_append, splitComment, if_pos rfl]; rfl
  | cons c line ih =>
    rw [List.mem_cons, not_or] at single
    rw [List.cons_append, splitComment, if_neg (Ne.symm single.1), ih single.2]
    rfl

theorem splitComment_line {line : List Char} (single : '\n' ∉ line) :
    splitComment line = (line, []) := by
  induction line with
  | nil => rw [splitComment]
  | cons c line ih =>
    rw [List.mem_cons, not_or] at single
    rw [splitComment, if_neg (Ne.symm single.1), ih single.2]

/-- **A gap is taken as a whole, together with one that follows.** -/
theorem Gap.splitGap_append {gap : List Char} (inside : Gap gap) (s : List Char) :
    splitGap (gap ++ s) = (gap ++ (splitGap s).1, (splitGap s).2) := by
  induction inside with
  | none => rfl
  | blank blank _ ih => rw [List.cons_append, splitGap_cons_blank blank, ih, List.cons_append]
  | @comment line rest single _ ih =>
    have whole : ('-' :: '-' :: (line ++ '\n' :: rest)) ++ s =
        '-' :: '-' :: (line ++ '\n' :: (rest ++ s)) := by simp
    rw [whole, splitGap, splitComment_append_line single, ih]
    simp

theorem FinalGap.splitGap_eq {gap : List Char} (last : FinalGap gap) : splitGap gap = (gap, []) := by
  cases last with
  | closed inside =>
    have whole := inside.splitGap_append []
    rwa [List.append_nil, splitGap, List.append_nil] at whole
  | unclosed inside single =>
    rw [inside.splitGap_append, splitGap, splitComment_line single]

/-! ### First characters -/

/-- A spelling of the token can start with the character. -/
def Token.StartsWith : Token → Char → Prop
  | .keyword _, c | .name _, c => isWordStart c = true
  | .value (.int _), c => c.isDigit = true ∨ c = '-'
  | .value (.string _), c => c = '\''
  | .compare _, c => c = '=' ∨ c = '<' ∨ c = '>' ∨ c = '!'
  | .sign d, c => c = d ∧ d ∈ signs

theorem isWordChar_of_isDigit {c : Char} (digit : c.isDigit = true) : isWordChar c = true := by
  rw [isWordChar, Char.isAlphanum, digit, Bool.or_true]
  rfl

/-- **Which token it is shows at the first character.** -/
theorem Token.Spelled.first {t : Token} {w : List Char} (spelled : t.Spelled w) :
    ∃ c rest, w = c :: rest ∧ t.StartsWith c := by
  have ofAny : w.head?.any isWordStart = true → ∃ c rest, w = c :: rest ∧ isWordStart c = true := by
    intro starts
    cases w with
    | nil => cases starts
    | cons c rest => exact ⟨c, rest, rfl, starts⟩
  cases spelled with
  | keyword spells => exact ofAny spells.starts
  | name named => exact ofAny named.starts
  | natural some all =>
    obtain ⟨c, rest, rfl⟩ := List.exists_cons_of_ne_nil some
    exact ⟨c, rest, rfl, .inl (all c List.mem_cons_self)⟩
  | negative => exact ⟨_, _, rfl, .inr rfl⟩
  | string => exact ⟨_, _, rfl, rfl⟩
  | sign member => exact ⟨_, _, rfl, rfl, member⟩
  | _ => exact ⟨_, _, rfl, by simp [Token.StartsWith]⟩

/-- No token starts with a blank. -/
theorem Token.StartsWith.solid {t : Token} {c : Char} (starts : t.StartsWith c) :
    isGapChar c = false := by
  have ofWord : isWordChar c = true → isGapChar c = false := by
    intro word
    cases blank : isGapChar c with
    | false => rfl
    | true =>
      simp only [isGapChar, Bool.or_eq_true, beq_iff_eq] at blank
      rcases blank with ((rfl | rfl) | rfl) | rfl <;> cases word
  cases t with
  | keyword => exact ofWord (isWordChar_of_isWordStart starts)
  | name => exact ofWord (isWordChar_of_isWordStart starts)
  | value v =>
    cases v with
    | int =>
      rcases starts with digit | rfl
      · exact ofWord (isWordChar_of_isDigit digit)
      · rfl
    | string => cases starts; rfl
  | compare => rcases starts with rfl | rfl | rfl | rfl <;> rfl
  | sign d =>
    obtain ⟨rfl, member⟩ := starts
    have solid : ∀ d ∈ signs, isGapChar d = false := by simp [signs, isGapChar]
    exact solid c member

/-! ### Facing a token -/

/-- The text spells the tokens, and no gap stands before them. -/
def Facing (tokens : List Token) (s : List Char) : Prop :=
  Spelling tokens s ∧ splitGap s = ([], s)

/-- No gap starts at a token. -/
theorem Token.Spelled.splitGap_append {t : Token} {w : List Char} (spelled : t.Spelled w)
    (rest : List Char) : splitGap (w ++ rest) = ([], w ++ rest) := by
  obtain ⟨c, tail, rfl, starts⟩ := spelled.first
  apply splitGap_cons_solid starts.solid
  rintro rfl
  cases t with
  | keyword => exact absurd starts (show ¬ isWordStart '-' = true by decide)
  | name => exact absurd starts (show ¬ isWordStart '-' = true by decide)
  | value v =>
    cases v with
    | int =>
      -- only a negative number starts with a hyphen, and a digit follows
      cases spelled with
      | natural _ all => exact absurd (all '-' List.mem_cons_self) (by decide)
      | negative some all =>
        obtain ⟨d, digits, rfl⟩ := List.exists_cons_of_ne_nil some
        rintro ⟨⟩
        exact absurd (all '-' List.mem_cons_self) (by decide)
    | string => cases starts
  | compare => exact absurd starts (by simp [Token.StartsWith])
  | sign => exact absurd starts.2 (starts.1 ▸ by decide)

/-- **Taking the gap before tokens leads to the first of them.** -/
theorem Spelling.face {tokens : List Token} {s : List Char} (spelling : Spelling tokens s) :
    ∃ gap solid, splitGap s = (gap, solid) ∧ Facing tokens solid := by
  cases spelling with
  | finish last => exact ⟨_, [], last.splitGap_eq, .finish (.closed .none), by rw [splitGap]⟩
  | @token t tokens gap w rest before spelled apart others =>
    have solid := spelled.splitGap_append rest
    refine ⟨gap, w ++ rest, ?_, .token .none spelled apart others, solid⟩
    rw [before.splitGap_append, solid, List.append_nil]

theorem Facing.finish {s : List Char} (facing : Facing [] s) : s = [] := by
  obtain ⟨spelling, solid⟩ := facing
  cases spelling with
  | finish last =>
    rw [last.splitGap_eq] at solid
    exact (Prod.mk.inj solid).1

/-- **A text that faces tokens starts with a spelling of the first.** -/
theorem Facing.token {t : Token} {tokens : List Token} {s : List Char}
    (facing : Facing (t :: tokens) s) :
    ∃ w rest, s = w ++ rest ∧ t.Spelled w ∧ (t.isWord = true → EndsWord rest) ∧
      Spelling tokens rest := by
  obtain ⟨spelling, solid⟩ := facing
  cases spelling with
  | @token _ _ gap w rest before spelled apart others =>
    rw [before.splitGap_append, spelled.splitGap_append rest, List.append_nil] at solid
    obtain ⟨rfl, -⟩ := Prod.mk.inj solid
    exact ⟨w, rest, rfl, spelled, apart, others⟩

theorem Gap.first {gap rest s : List Char} {c : Char} (inside : Gap gap)
    (whole : c :: s = gap ++ rest) : gap = [] ∨ isGapChar c = true ∨ c = '-' := by
  cases inside with
  | none => exact .inl rfl
  | blank blank => cases whole; exact .inr (.inl blank)
  | comment => cases whole; exact .inr (.inr rfl)

/-- What follows a token starts with a blank, a comment or the next token. -/
theorem Spelling.first {tokens : List Token} {c : Char} {s : List Char}
    (spelling : Spelling tokens (c :: s)) :
    isGapChar c = true ∨ c = '-' ∨ ∃ t ∈ tokens.head?, t.StartsWith c := by
  generalize whole : c :: s = text at spelling
  cases spelling with
  | finish last =>
    cases last with
    | closed inside =>
      rcases inside.first (whole.trans (List.append_nil _).symm) with rfl | blank | hyphen
      · cases whole
      · exact .inl blank
      · exact .inr (.inl hyphen)
    | unclosed inside =>
      rcases inside.first whole with rfl | blank | hyphen
      · cases whole; exact .inr (.inl rfl)
      · exact .inl blank
      · exact .inr (.inl hyphen)
  | token before spelled =>
    rcases before.first whole with rfl | blank | hyphen
    · obtain ⟨d, tail, rfl, starts⟩ := spelled.first
      cases whole
      exact .inr (.inr ⟨_, rfl, starts⟩)
    · exact .inl blank
    · exact .inr (.inl hyphen)

end RuleQuery.Sql
