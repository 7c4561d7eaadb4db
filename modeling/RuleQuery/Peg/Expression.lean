/-!
**Grammars as data: parsing expressions and the rules that they define.**

An `Expression` says how to match a text from its start, choosing the first alternative that
matches. Rules may call each other and themselves. A `Grammar` gives each rule a body together with
what makes matching end: a rule that is called before any character has been taken has a smaller
rank than the rule that calls it, and what is repeated takes at least one character. Both are
checked on the grammar once, by evaluation (`Expression.ranked`).
-/

namespace RuleQuery.Peg

/-- How to match a text from its start, with calls to the rules `ρ`. -/
inductive Expression (ρ : Type) where
  /-- The place before the first character of the source. -/
  | start
  /-- Blanks and comments, as many as there are. -/
  | gap
  /-- These characters. -/
  | text (characters : List Char)
  /-- These characters, each in either letter case of ASCII. -/
  | word (characters : List Char)
  /-- One character of a class. -/
  | char (inClass : Char → Bool)
  /-- A match of the rule's body. -/
  | rule (name : ρ)
  /-- The first expression and then the second. -/
  | next (first second : Expression ρ)
  /-- The first expression, or the second where the first does not match. -/
  | choice (first second : Expression ρ)
  /-- The expression, or nothing where it does not match. -/
  | optional (inner : Expression ρ)
  /-- The expression again and again until it does not match. -/
  | many (inner : Expression ρ)
  /-- Nothing, at a place where the expression does not match. -/
  | absent (inner : Expression ρ)

/-- What a call to a rule leaves in the tree and in the record of failures. -/
inductive Visibility where
  /-- No node of its own: the nodes inside take its place. -/
  | silent
  /-- A node with the nodes inside as its children. -/
  | plain
  /-- A node without children: nothing inside is seen. -/
  | atomic
deriving DecidableEq, Repr

/-- The numbers that bound a match, one decision per rule. -/
structure Ranking (ρ : Type) where
  /-- The rule takes at least one character. -/
  consuming : ρ → Bool
  /-- A rule calls only rules of smaller rank before it takes a character. -/
  rank : ρ → Nat
  /-- A level above the ranks of the rules. -/
  top : Nat
  /-- A bound on the size of the rules' bodies. -/
  width : Nat

namespace Expression

variable {ρ : Type}

/-- The number of constructors. -/
def size : Expression ρ → Nat
  | start | gap | text _ | word _ | char _ | rule _ => 1
  | next a b | choice a b => a.size + b.size + 1
  | optional a | many a | absent a => a.size + 1

/-- A match of the expression takes at least one character. -/
def consumes (ranking : Ranking ρ) : Expression ρ → Bool
  | start | gap | optional _ | many _ | absent _ => false
  | text w | word w => !w.isEmpty
  | char _ => true
  | rule r => ranking.consuming r
  | next a b => a.consumes ranking || b.consumes ranking
  | choice a b => a.consumes ranking && b.consumes ranking

/-- **Every rule called before a character is taken has a rank below the level, and what is
repeated takes a character.** -/
def ranked (ranking : Ranking ρ) (level : Nat) : Expression ρ → Bool
  | start | gap | text _ | word _ | char _ => true
  | rule r => ranking.rank r < level
  | next a b =>
    a.ranked ranking level &&
      b.ranked ranking (if a.consumes ranking then ranking.top else level)
  | choice a b => a.ranked ranking level && b.ranked ranking level
  | optional a | absent a => a.ranked ranking level
  | many a => a.ranked ranking level && a.consumes ranking

/-! ### Sequences and choices of several expressions -/

/-- The expressions in turn, with nothing between them. -/
def joined : List (Expression ρ) → Expression ρ
  | [] => text []
  | [a] => a
  | a :: rest => next a (joined rest)

/-- The expressions in turn, with a gap between each and the next. -/
def spaced : List (Expression ρ) → Expression ρ
  | [] => text []
  | [a] => a
  | a :: rest => next a (next gap (spaced rest))

/-- The first of the expressions that matches. -/
def anyOf : List (Expression ρ) → Expression ρ
  | [] => absent (text [])
  | [a] => a
  | a :: rest => choice a (anyOf rest)

/-- The expression any number of times, with a gap between each and the next. -/
def repeated (a : Expression ρ) : Expression ρ :=
  optional (next a (many (next gap a)))

end Expression

/-- The rules of a language, the gaps between its words, and the reason why matching ends. -/
structure Grammar (ρ : Type) extends Ranking ρ where
  /-- What a rule matches. -/
  body : ρ → Expression ρ
  /-- What a call to a rule leaves behind. -/
  visibility : ρ → Visibility
  /-- The blanks and comments at the start of a text, and the text after them. -/
  splitGap : List Char → List Char × List Char
  splitGap_append : ∀ s, (splitGap s).1 ++ (splitGap s).2 = s
  rank_lt_top : ∀ r, rank r < top
  body_ranked : ∀ r, (body r).ranked toRanking (rank r) = true
  body_consumes : ∀ r, consuming r = true → (body r).consumes toRanking = true
  body_size : ∀ r, (body r).size ≤ width

end RuleQuery.Peg
