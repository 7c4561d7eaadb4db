import RuleQuery.Proofs.Sql.Built
import RuleQuery.Proofs.Sql.Token

/-!
**What expressions of the grammar read from tokens.**

* `Accepts`: at every text that starts with spellings of the tokens, the expression matches, its trees
  build the parts, separators left out, and the tokens that come after are left.
* `Refuses`: the expression does not match where the tokens come next.

One lemma for each operator says how these go together, and one for each lexical rule which token it
accepts. A choice of the grammar commits to its first alternative that matches, so that what follows
matters: `Clear` says that the next token is none of some.
-/

namespace RuleQuery.Sql

open Peg
open Peg.Expression

/-- The trees build the parts and separators. -/
def Yields (nodes : List (Node Rule)) (parts : List Part) : Prop :=
  ∃ built, buildAll nodes = .ok built ∧ significant built = parts

theorem Yields.nil : Yields [] [] :=
  ⟨[], rfl, rfl⟩

theorem Yields.append {nodes nodes' : List (Node Rule)} {parts parts' : List Part}
    (first : Yields nodes parts) (second : Yields nodes' parts') :
    Yields (nodes ++ nodes') (parts ++ parts') := by
  obtain ⟨xs, built, rfl⟩ := first
  obtain ⟨ys, built', rfl⟩ := second
  refine ⟨xs ++ ys, ?_, List.filter_append _ _⟩
  rw [buildAll_append, built, built']
  rfl

theorem Yields.node {r : Rule} {text : List Char} {nodes : List (Node Rule)} {parts : List Part}
    {part : Part} (position : Nat) (inside : Yields nodes parts)
    (made : combine? r text parts = some part) :
    Yields [.mk r position text nodes] (significant [part]) := by
  obtain ⟨built, children, rfl⟩ := inside
  exact ⟨[part], buildAll_node position children (by rw [combine, made]), rfl⟩

/-- **The expression reads the tokens before others, and its trees build the parts.** -/
def Accepts (e : Expression Rule) (tokens more : List Token) (parts : List Part) : Prop :=
  ∀ position s, Facing (tokens ++ more) s → ∃ nodes taken rest,
    Matches grammar e position s (.ok nodes taken rest) ∧ Yields nodes parts ∧ Spelling more rest

/-- **The expression does not match where the tokens come next.** -/
def Refuses (e : Expression Rule) (tokens : List Token) : Prop :=
  ∀ position s, Facing tokens s → Matches grammar e position s .fail

/-- The next token is none for which the test holds. -/
def Clear (test : Token → Bool) (tokens : List Token) : Prop :=
  ∀ t ∈ tokens.head?, test t = false

@[simp] theorem clear_nil (test : Token → Bool) : Clear test [] := by
  intro t member
  cases member

@[simp] theorem clear_cons {test : Token → Bool} {t : Token} {tokens : List Token} :
    Clear test (t :: tokens) ↔ test t = false := by
  simp [Clear]

theorem Clear.append {test : Token → Bool} {tokens more : List Token} (first : Clear test tokens)
    (others : Clear test more) : Clear test (tokens ++ more) := by
  cases tokens with
  | nil => exact others
  | cons => exact clear_cons.2 (clear_cons.1 first)

theorem Clear.imp {test weaker : Token → Bool} {tokens : List Token} (clear : Clear test tokens)
    (implies : ∀ t, weaker t = true → test t = true) : Clear weaker tokens := by
  intro t member
  have never := clear t member
  cases holds : weaker t with
  | false => rfl
  | true => rw [implies t holds] at never; exact never

variable {a b e : Expression Rule} {r : Rule} {tokens tokens' more : List Token}
  {parts parts' : List Part} {part : Part}

/-! ### Operators -/

/-- A gap is taken up to the next token. -/
theorem Spelling.gap_matches {s : List Char} (spelling : Spelling tokens s) (position : Nat) :
    ∃ gap solid, Matches grammar .gap position s (.ok [] gap solid) ∧ Facing tokens solid := by
  obtain ⟨gap, solid, split, facing⟩ := spelling.face
  refine ⟨gap, solid, ?_, facing⟩
  have found := Matches.gap (g := grammar) position s
  rwa [show grammar.splitGap s = (gap, solid) from split] at found

/-- Two expressions with a gap between them read one list of tokens after the other. -/
theorem Accepts.then (first : Accepts a tokens (tokens' ++ more) parts)
    (second : Accepts b tokens' more parts') :
    Accepts (.next a (.next .gap b)) (tokens ++ tokens') more (parts ++ parts') := by
  intro position s facing
  rw [List.append_assoc] at facing
  obtain ⟨nodes, taken, rest, found, yields, spelling⟩ := first position s facing
  obtain ⟨gap, solid, between, facing'⟩ := spelling.gap_matches (position + Text.byteCount taken)
  obtain ⟨nodes', taken', rest', found', yields', spelling'⟩ := second _ solid facing'
  exact ⟨_, _, rest', .next found (.next between found'), yields.append yields', spelling'⟩

theorem Accepts.optional (inside : Accepts e tokens more parts) :
    Accepts (.optional e) tokens more parts := by
  intro position s facing
  obtain ⟨nodes, taken, rest, found, others⟩ := inside position s facing
  exact ⟨nodes, taken, rest, .optional found, others⟩

/-- What is refused is left out where it is optional. -/
theorem Refuses.skip (refused : Refuses e more) : Accepts (.optional e) [] more [] := by
  intro position s facing
  exact ⟨[], [], s, .skip (refused position s facing), .nil, facing.1⟩

/-- What is refused is left out behind something. -/
theorem Accepts.thenSkip (first : Accepts a tokens more parts) (refused : Refuses b more) :
    Accepts (.next a (.next .gap (.optional b))) tokens more parts := by
  have whole : Accepts (.next a (.next .gap (.optional b))) (tokens ++ []) more (parts ++ []) :=
    .then first refused.skip
  rwa [List.append_nil, List.append_nil] at whole

theorem Accepts.first (inside : Accepts a tokens more parts) :
    Accepts (.choice a b) tokens more parts := by
  intro position s facing
  obtain ⟨nodes, taken, rest, found, others⟩ := inside position s facing
  exact ⟨nodes, taken, rest, .first _ found, others⟩

theorem Accepts.second (refused : Refuses a (tokens ++ more)) (inside : Accepts b tokens more parts) :
    Accepts (.choice a b) tokens more parts := by
  intro position s facing
  obtain ⟨nodes, taken, rest, found, others⟩ := inside position s facing
  exact ⟨nodes, taken, rest, .second (refused position s facing) found, others⟩

theorem Accepts.plain (seen : visibility r = .plain)
    (made : ∀ text, combine? r text parts = some part) (inside : Accepts (body r) tokens more parts) :
    Accepts (.rule r) tokens more (significant [part]) := by
  intro position s facing
  obtain ⟨nodes, taken, rest, found, yields, spelling⟩ := inside position s facing
  exact ⟨_, taken, rest, .plain seen found, yields.node position (made taken), spelling⟩

theorem Accepts.silent (seen : visibility r = .silent) (inside : Accepts (body r) tokens more parts) :
    Accepts (.rule r) tokens more parts := by
  intro position s facing
  obtain ⟨nodes, taken, rest, found, others⟩ := inside position s facing
  exact ⟨nodes, taken, rest, .silent seen found, others⟩

theorem Refuses.next (refused : Refuses a tokens) : Refuses (.next a b) tokens := by
  intro position s facing
  exact .next_fail _ (refused position s facing)

/-- A sequence is refused where its first expression reads tokens after which the second is
refused. -/
theorem Refuses.then (first : Accepts a tokens more parts) (refused : Refuses b more) :
    Refuses (.next a (.next .gap b)) (tokens ++ more) := by
  intro position s facing
  obtain ⟨nodes, taken, rest, found, -, spelling⟩ := first position s facing
  obtain ⟨gap, solid, between, facing'⟩ := spelling.gap_matches (position + Text.byteCount taken)
  exact (Matches.next found (.next between (refused _ solid facing')) :)

theorem Refuses.choice (first : Refuses a tokens) (second : Refuses b tokens) :
    Refuses (.choice a b) tokens := by
  intro position s facing
  exact .second (first position s facing) (second position s facing)

theorem Refuses.rule (inside : Refuses (body r) tokens) : Refuses (.rule r) tokens := by
  intro position s facing
  exact .rule_fail (inside position s facing)

/-! ### Repetition -/

/-- The expression reads the tokens by piece, and is refused after them. -/
inductive Row (a : Expression Rule) (more : List Token) : List Token → List Part → Prop where
  | nil (refused : Refuses a more) : Row a more [] []
  | cons {tokens tokens' : List Token} {parts parts' : List Part}
      (first : Accepts a tokens (tokens' ++ more) parts) (others : Row a more tokens' parts') :
      Row a more (tokens ++ tokens') (parts ++ parts')

theorem Row.many_matches (row : Row a more tokens parts) (position : Nat) (s : List Char)
    (spelling : Spelling (tokens ++ more) s) :
    ∃ nodes taken rest, Matches grammar (.many (.next .gap a)) position s (.ok nodes taken rest) ∧
      Yields nodes parts ∧ Spelling more rest := by
  induction row generalizing position s with
  | nil refused =>
    obtain ⟨gap, solid, before, facing⟩ := spelling.gap_matches position
    exact ⟨[], [], s, .stop (Matches.next before (refused _ solid facing) :), .nil, spelling⟩
  | cons first _ ih =>
    obtain ⟨gap, solid, before, facing⟩ := spelling.gap_matches position
    rw [List.append_assoc] at facing
    obtain ⟨nodes, taken, rest, found, yields, spelling'⟩ := first _ solid facing
    obtain ⟨nodes', taken', rest', found', yields', spelling''⟩ := ih _ rest spelling'
    exact ⟨_, _, rest', .again (.next before found) found', yields.append yields', spelling''⟩

/-- **Pieces in a row are read one after the other.** -/
theorem Row.accepts (row : Row a more tokens parts) : Accepts (.repeated a) tokens more parts := by
  cases row with
  | nil refused => exact refused.next.skip
  | cons first others =>
    refine Accepts.optional ?_
    intro position s facing
    rw [List.append_assoc] at facing
    obtain ⟨nodes, taken, rest, found, yields, spelling⟩ := first position s facing
    obtain ⟨nodes', taken', rest', found', yields', spelling'⟩ := others.many_matches _ rest spelling
    exact ⟨_, _, rest', .next found found', yields.append yields', spelling'⟩

section Lists

variable {α : Type} {as : List α} {test : Token → Bool} {write : α → List Token} {make : α → Part}

theorem clear_flatMap (starts : ∀ x ∈ as, ∀ more, Clear test (write x ++ more))
    (ends : Clear test more) : Clear test (as.flatMap write ++ more) := by
  cases as with
  | nil => exact ends
  | cons x as =>
    rw [List.flatMap_cons, List.append_assoc]
    exact starts x List.mem_cons_self _

/-- Things in a list make a row where each can stand before the next one and the last before the
end. -/
theorem Row.of_list (each : ∀ x ∈ as, ∀ more, Clear test more → Accepts a (write x) more [make x])
    (starts : ∀ x ∈ as, ∀ more, Clear test (write x ++ more)) (ends : Clear test more)
    (refused : Refuses a more) : Row a more (as.flatMap write) (as.map make) := by
  induction as with
  | nil => exact .nil refused
  | cons x as ih =>
    rw [List.forall_mem_cons] at each starts
    exact .cons (each.1 _ (clear_flatMap starts.2 ends)) (ih each.2 starts.2)

/-- **Something and a list of things behind it are read one after the other.** -/
theorem Accepts.thenEach (first : ∀ more, Clear test more → Accepts a tokens more parts)
    (each : ∀ x ∈ as, ∀ more, Clear test more → Accepts b (write x) more [make x])
    (starts : ∀ x ∈ as, ∀ more, Clear test (write x ++ more)) (ends : Clear test more)
    (refused : Refuses b more) :
    Accepts (spaced [a, repeated b]) (tokens ++ as.flatMap write) more (parts ++ as.map make) := by
  have row : Row b more (as.flatMap write) (as.map make) := .of_list each starts ends refused
  exact .then (first _ (clear_flatMap starts ends)) row.accepts

end Lists

end RuleQuery.Sql
