import RuleQuery.Proofs.Sql.Lexeme
import RuleQuery.Proofs.Sql.Phrase

/-!
**Expressions are read as they are written.**

* `Reads`: the rule of a level reads the tokens as the expression, before every token that does not go
  on with an expression of that level.
* `Connective.reads`: operands under one connective are read from left to right.
* `Phrase.readsOn`, `Phrase.accepts`: every phrase is read as its expression, by induction over the
  phrase.
-/

namespace RuleQuery.Sql

open Peg
open Peg.Expression

/-! ### Levels -/

/-- The rule that reads expressions of a level. -/
def Level.rule : Level → Rule
  | or => .orExpr
  | and => .andExpr
  | comparison => .cmpExpr
  | primary => .primary

/-- The token would go on with an expression of the level that stands before it. -/
def Token.continues (level : Level) (t : Token) : Bool :=
  t == .sign '(' || t == .sign '.' || t.isValue || (level != .primary && t.isCompare) ||
    (t == .keyword .AND && (level == .and || level == .or)) || (t == .keyword .OR && level == .or)

/-- The token can start an expression. -/
def Token.begins (t : Token) : Bool :=
  t.isName || t.isValue || t == .sign '('

/-- **The rule of the level reads the tokens as the expression.** -/
def Reads (level : Level) (e : Expr) (tokens : List Token) : Prop :=
  ∀ more, Clear (Token.continues level) more →
    Accepts (.rule level.rule) tokens more [.expr e]

variable {level : Level} {e : Expr} {tokens more : List Token}

theorem Clear.notOpen (clear : Clear (Token.continues level) more) : Clear (· == .sign '(') more :=
  clear.imp fun t same => by simp_all [Token.continues]

theorem Clear.notDot (clear : Clear (Token.continues level) more) : Clear (· == .sign '.') more :=
  clear.imp fun t same => by simp_all [Token.continues]

theorem Clear.notValue (clear : Clear (Token.continues level) more) : Clear Token.isValue more :=
  clear.imp fun t same => by simp [Token.continues, same]

/-- **Every expression starts with a name, a literal or a parenthesis.** -/
theorem Phrase.begins (written : Phrase level e tokens) :
    ∃ t others, tokens = t :: others ∧ t.begins = true := by
  induction written with
  | column => exact ⟨_, _, rfl, rfl⟩
  | qualified => exact ⟨_, _, rfl, rfl⟩
  | literal => exact ⟨_, _, rfl, rfl⟩
  | call => exact ⟨_, _, rfl, rfl⟩
  | callAll => exact ⟨_, _, rfl, rfl⟩
  | parens => exact ⟨_, _, rfl, rfl⟩
  | ofPrimary _ ih => exact ih
  | ofComparison _ ih => exact ih
  | ofAnd _ ih => exact ih
  | compare _ _ _ ih =>
    obtain ⟨t, others, rfl, begins⟩ := ih
    exact ⟨t, _, rfl, begins⟩
  | and _ _ ih =>
    obtain ⟨t, others, rfl, begins⟩ := ih
    exact ⟨t, _, rfl, begins⟩
  | or _ _ ih =>
    obtain ⟨t, others, rfl, begins⟩ := ih
    exact ⟨t, _, rfl, begins⟩

/-- A test that fails for all of them fails at an expression. -/
theorem Phrase.clear {test : Token → Bool} (written : Phrase level e tokens)
    (names : ∀ text, test (.name text) = false) (values : ∀ v, test (.value v) = false)
    (group : test (.sign '(') = false) (more : List Token) : Clear test (tokens ++ more) := by
  obtain ⟨t, others, rfl, begins⟩ := written.begins
  refine clear_cons.2 ?_
  cases t with
  | name => exact names _
  | value => exact values _
  | sign c =>
    have same : c = '(' := by simpa [Token.begins, Token.isName, Token.isValue] using begins
    rw [same]
    exact group
  | _ => cases begins

/-! ### Primary expressions -/

/-- A primary expression is refused where none starts. -/
theorem primary_refuses (clear : Clear Token.begins tokens) : Refuses (.rule .primary) tokens := by
  have noName : Clear Token.isName tokens := clear.imp fun t same => by simp [Token.begins, same]
  have noValue : Clear Token.isValue tokens := clear.imp fun t same => by simp [Token.begins, same]
  have noOpen : Clear (· == .sign '(') tokens := clear.imp fun t same => by simp_all [Token.begins]
  have call : Refuses (.rule .funcCall) tokens := .rule (.next (ident_refuses noName))
  have column : Refuses (.rule .colRef) tokens := .rule (.next (ident_refuses noName))
  have group : Refuses (spaced [.text ['('], .rule .expr, .text [')']]) tokens :=
    .next (sign_refuses (by decide) noOpen)
  exact .rule (.choice call (.choice column (.choice (literal_refuses noValue) group)))

/-- A name without a parenthesis after it is no call. -/
theorem funcCall_refuses (name : String) (clear : Clear (· == .sign '(') tokens) :
    Refuses (.rule .funcCall) (.name name :: tokens) := by
  show Refuses (.rule .funcCall) ([.name name] ++ tokens)
  exact .rule (.then (ident_accepts name tokens) (.next (sign_refuses (by decide) clear)))

theorem column_reads (name : String) : Reads .primary (.column ⟨none, name⟩) [.name name] := by
  intro more clear
  have call := funcCall_refuses name clear.notOpen
  have made : ∀ text, combine? .colRef text [.name name] = some (.expr (.column ⟨none, name⟩)) :=
    fun _ => rfl
  have noDot : Refuses (spaced [.text ['.'], .rule .ident]) more :=
    .next (sign_refuses (by decide) clear.notDot)
  have column := Accepts.plain rfl made ((ident_accepts name more).thenSkip noDot)
  exact .silent rfl (.second call (.first column))

theorem qualified_reads (qualifier name : String) :
    Reads .primary (.column ⟨some qualifier, name⟩) [.name qualifier, .sign '.', .name name] := by
  intro more _
  have call : Refuses (.rule .funcCall) ([.name qualifier, .sign '.', .name name] ++ more) :=
    funcCall_refuses qualifier (clear_cons.2 rfl)
  have made : ∀ text, combine? .colRef text [.name qualifier, .name name] =
      some (.expr (.column ⟨some qualifier, name⟩)) := fun _ => rfl
  have column := Accepts.plain rfl made (.then (ident_accepts qualifier _)
    (Accepts.optional (.then (sign_accepts '.' _) (ident_accepts name more))))
  exact .silent rfl (.second call (.first column))

theorem literal_reads (v : Value) : Reads .primary (.literal v) [.value v] := by
  intro more clear
  have noName : Refuses (.rule .ident) ([.value v] ++ more) := ident_refuses (clear_cons.2 rfl)
  have call : Refuses (.rule .funcCall) ([.value v] ++ more) := .rule noName.next
  have column : Refuses (.rule .colRef) ([.value v] ++ more) := .rule noName.next
  exact .silent rfl (.second call (.second column (.first (literal_accepts v clear.notValue))))

theorem expr_accepts (reads : Reads .or e tokens) (clear : Clear (Token.continues .or) more) :
    Accepts (.rule .expr) tokens more [.expr e] := by
  have made : ∀ text, combine? .expr text [.expr e] =
      some (.expr e) := fun _ => rfl
  exact .plain rfl made (reads more clear)

theorem parens_reads (inside : Reads .or e tokens) :
    Reads .primary e (.sign '(' :: (tokens ++ [.sign ')'])) := by
  intro more _
  have noName : Refuses (.rule .ident) (.sign '(' :: (tokens ++ [.sign ')']) ++ more) :=
    ident_refuses (clear_cons.2 rfl)
  have noValue : Refuses (.rule .literal) (.sign '(' :: (tokens ++ [.sign ')']) ++ more) :=
    literal_refuses (clear_cons.2 rfl)
  have call : Refuses (.rule .funcCall) (.sign '(' :: (tokens ++ [.sign ')']) ++ more) :=
    .rule noName.next
  have column : Refuses (.rule .colRef) (.sign '(' :: (tokens ++ [.sign ')']) ++ more) :=
    .rule noName.next
  have closed : Clear (Token.continues .or) ([.sign ')'] ++ more) := clear_cons.2 rfl
  have group := Accepts.then (sign_accepts '(' _)
    (.then (expr_accepts inside closed) (sign_accepts ')' more))
  exact .silent rfl (.second call (.second column (.second noValue group)))

/-! ### Lists -/

/-- **A list with commas is read by item**, before a token that goes on neither with an item nor with
the list. -/
theorem Listed.accepts {α : Type} {writes : α → List Token → Prop} {as : List α}
    {test : Token → Bool} {r : Rule} (make : α → Part) (listed : Listed writes as tokens)
    (each : ∀ a item, writes a item → ∀ more, Clear test more → Accepts (.rule r) item more [make a])
    (comma : test (.sign ',') = false) (ends : Clear test more)
    (noComma : Clear (· == .sign ',') more) :
    Accepts (spaced [.rule r, repeated (spaced [.text [','], .rule r])]) tokens more
      (as.map make) := by
  obtain @⟨pairs, some, written⟩ := listed
  obtain ⟨⟨a, first⟩, pairs, rfl⟩ := List.exists_cons_of_ne_nil some
  rw [List.forall_mem_cons] at written
  have whole : Accepts (spaced [.rule r, repeated (spaced [.text [','], .rule r])])
      (first ++ pairs.flatMap fun pair => .sign ',' :: pair.2) more
      ([make a] ++ pairs.map fun pair => make pair.1) := by
    refine .thenEach (each a first written.1) ?_ (fun _ _ _ => clear_cons.2 comma) ends
      (.next (sign_refuses (by decide) noComma))
    intro pair member more clear
    exact .then (sign_accepts ',' _) (each pair.1 pair.2 (written.2 pair member) more clear)
  rwa [List.map_cons, List.map_cons, List.map_cons, separated, List.flatMap_map, List.map_map]

theorem Listed.clear {α : Type} {writes : α → List Token → Prop} {as : List α}
    {test : Token → Bool} (listed : Listed writes as tokens)
    (each : ∀ a item, writes a item → ∀ more, Clear test (item ++ more)) (more : List Token) :
    Clear test (tokens ++ more) := by
  obtain @⟨pairs, some, written⟩ := listed
  obtain ⟨⟨a, first⟩, pairs, rfl⟩ := List.exists_cons_of_ne_nil some
  rw [List.map_cons, separated, List.append_assoc]
  exact each a first (written _ List.mem_cons_self) _

/-! ### Calls -/

/-- An expression is refused where none starts. -/
theorem expr_refuses (clear : Clear Token.begins tokens) : Refuses (.rule .expr) tokens := by
  have comparison : Refuses (.rule .cmpExpr) tokens := .rule (.next (primary_refuses clear))
  have conjunction : Refuses (.rule .andExpr) tokens := .rule comparison.next
  have disjunction : Refuses (.rule .orExpr) tokens := .rule conjunction.next
  exact .rule disjunction

/-- What stands between the parentheses of a call. -/
abbrev arguments : Expression Rule :=
  optional (choice (.rule .star) (spaced [.rule .expr, repeated (spaced [.text [','], .rule .expr])]))

theorem arguments_accepts {args : List (Expr × List Token)}
    (written : ∀ arg ∈ args, Phrase .or arg.1 arg.2) (each : ∀ arg ∈ args, Reads .or arg.1 arg.2) :
    Accepts arguments (separated (args.map Prod.snd)) (.sign ')' :: more)
      ((args.map Prod.fst).map Part.expr) := by
  by_cases none : args = []
  · rw [none]
    have star : Refuses (.rule .star) (.sign ')' :: more) :=
      .rule (sign_refuses (by decide) (clear_cons.2 rfl))
    exact (star.choice (.next (expr_refuses (clear_cons.2 rfl)))).skip
  · have list : Accepts _ _ (.sign ')' :: more) _ :=
      (Listed.mk none each).accepts Part.expr (fun _ _ reads _ clear => expr_accepts reads clear) rfl
        (clear_cons.2 rfl) (clear_cons.2 rfl)
    have noStar : Clear (· == .sign '*') (separated (args.map Prod.snd) ++ .sign ')' :: more) :=
      (Listed.mk none written).clear
        (fun _ _ written => written.clear (fun _ => rfl) (fun _ => rfl) rfl) _
    exact .optional (.second (.rule (sign_refuses (by decide) noStar)) list)

theorem call_accepts (name : String) {parts : List Part}
    (inside : Accepts arguments tokens (.sign ')' :: more) parts) :
    Accepts (body .funcCall) (.name name :: .sign '(' :: (tokens ++ [.sign ')'])) more
      (.name name :: parts) := by
  have whole := Accepts.then (ident_accepts name _) (.then (sign_accepts '(' _)
    (.then inside (sign_accepts ')' more)))
  rwa [List.append_nil] at whole

theorem call_reads (name : String) {args : List (Expr × List Token)}
    (written : ∀ arg ∈ args, Phrase .or arg.1 arg.2) (each : ∀ arg ∈ args, Reads .or arg.1 arg.2) :
    Reads .primary (.call name (args.map Prod.fst))
      (.name name :: .sign '(' :: (separated (args.map Prod.snd) ++ [.sign ')'])) := by
  intro more _
  have whole : Accepts _ _ more _ := call_accepts name (arguments_accepts written each)
  exact .silent rfl (.first (.plain rfl (fun text => combine?_call text name _) whole))

theorem callAll_reads (name : String) :
    Reads .primary (.call name [.wildcard]) [.name name, .sign '(', .sign '*', .sign ')'] := by
  intro more _
  have made : ∀ text, combine? .funcCall text [.name name, .expr .wildcard] =
      some (.expr (.call name [.wildcard])) := fun _ => rfl
  have starMade : ∀ text, combine? .star text [] = some (.expr .wildcard) := fun _ => rfl
  have star : Accepts (.rule .star) [.sign '*'] (.sign ')' :: more) [.expr .wildcard] :=
    .plain rfl starMade (sign_accepts '*' _)
  have whole := call_accepts name (.optional (.first star))
  exact .silent rfl (.first (.plain rfl made whole))

/-! ### Comparisons -/

theorem Reads.comparison (reads : Reads .primary e tokens) : Reads .comparison e tokens := by
  intro more clear
  have made : ∀ text, combine? .cmpExpr text [.expr e] =
      some (.expr e) := fun _ => rfl
  have noValue : Clear (Token.continues .primary) more :=
    clear.imp fun t same => by simp_all [Token.continues]
  have noCompare : Refuses (spaced [.rule .cmpOp, .rule .primary]) more :=
    .next (cmpOp_refuses (clear.imp fun t same => by simp [Token.continues, same]))
  exact .plain rfl made ((reads more noValue).thenSkip noCompare)

theorem compare_reads (op : BinOp) {left right : Expr} {ls rs : List Token}
    (first : Reads .primary left ls) (second : Reads .primary right rs)
    (written : Phrase .primary right rs) :
    Reads .comparison (.binary op left right) (ls ++ .compare op :: rs) := by
  intro more clear
  have made : ∀ text, combine? .cmpExpr text [.expr left, .op op, .expr right] =
      some (.expr (.binary op left right)) := fun _ => rfl
  have weaker : Clear (Token.continues .primary) more :=
    clear.imp fun t same => by simp_all [Token.continues]
  have apart : Clear Token.isCompare (rs ++ more) :=
    written.clear (fun _ => rfl) (fun _ => rfl) rfl more
  have before : Clear (Token.continues .primary) (.compare op :: rs ++ more) := clear_cons.2 rfl
  exact .plain rfl made (.then (first _ before)
    (.optional (.then (cmpOp_accepts op apart) (second more weaker))))

/-! ### Connectives -/

/-- A connective with its word, the level of its operands and its own. -/
inductive Connective : BinOp → Keyword → Level → Level → Prop where
  | and : Connective .and .AND .comparison .and
  | or : Connective .or .OR .and .or

/-- **Operands under one connective are read from left to right.** -/
theorem Connective.reads {op : BinOp} {k : Keyword} {inner outer : Level}
    (connective : Connective op k inner outer) (first : Reads inner e tokens)
    {tail : List (Expr × List Token)} (each : ∀ x ∈ tail, Reads inner x.1 x.2) :
    Reads outer (connect op e (tail.map Prod.fst))
      (tokens ++ tail.flatMap fun x => .keyword k :: x.2) := by
  intro more clear
  have weaker : Clear (Token.continues inner) more := by
    refine clear.imp fun t same => ?_
    cases connective <;> simp_all [Token.continues]
  have word : Token.continues inner (.keyword k) = false := by cases connective <;> rfl
  have refused : Refuses (spaced [.rule (.word k), .rule inner.rule]) more := by
    refine .next (word_refuses (clear.imp fun t same => ?_))
    cases connective <;> simp_all [Token.continues]
  have whole : Accepts (spaced [.rule inner.rule, repeated (spaced [.rule (.word k),
      .rule inner.rule])]) (tokens ++ tail.flatMap fun x => .keyword k :: x.2) more
      ([.expr e] ++ tail.map fun x => .expr x.1) := by
    refine .thenEach first ?_ (fun _ _ _ => clear_cons.2 word) weaker refused
    intro x member more clear
    have piece := Accepts.then (word_accepts k _) (each x member more clear)
    cases connective <;> exact piece
  have parts : (tail.map fun x => Part.expr x.1) = (tail.map Prod.fst).map Part.expr := by
    rw [List.map_map]
    rfl
  rw [parts] at whole
  cases connective with
  | and => exact .plain rfl (fun text => combine?_and text e _) whole
  | or => exact .plain rfl (fun text => combine?_or text e _) whole

/-! ### All expressions -/

/-- The tokens are read as the expression, also with more operands behind them where its level has a
connective. The operands behind make the induction go through: a connective binds to the left, and
the grammar reads its operands as a list. -/
def ReadsOn : Level → Expr → List Token → Prop
  | .and, e, tokens => ∀ tail : List (Expr × List Token), (∀ x ∈ tail, Reads .comparison x.1 x.2) →
      Reads .and (connect .and e (tail.map Prod.fst))
        (tokens ++ tail.flatMap fun x => .keyword .AND :: x.2)
  | .or, e, tokens => ∀ tail : List (Expr × List Token), (∀ x ∈ tail, Reads .and x.1 x.2) →
      Reads .or (connect .or e (tail.map Prod.fst))
        (tokens ++ tail.flatMap fun x => .keyword .OR :: x.2)
  | level, e, tokens => Reads level e tokens

theorem ReadsOn.reads (reads : ReadsOn level e tokens) : Reads level e tokens := by
  cases level with
  | or =>
    have whole := reads [] (by simp)
    rwa [List.flatMap_nil, List.append_nil] at whole
  | and =>
    have whole := reads [] (by simp)
    rwa [List.flatMap_nil, List.append_nil] at whole
  | comparison => exact reads
  | primary => exact reads

theorem Phrase.readsOn (written : Phrase level e tokens) : ReadsOn level e tokens := by
  induction written with
  | column name => exact column_reads name
  | qualified qualifier name => exact qualified_reads qualifier name
  | literal v => exact literal_reads v
  | call name each ih => exact call_reads name each fun arg member => (ih arg member).reads
  | callAll name => exact callAll_reads name
  | parens _ ih => exact parens_reads ih.reads
  | ofPrimary _ ih => exact Reads.comparison ih
  | compare op _ written first second => exact compare_reads op first second written
  | ofComparison _ ih => exact fun tail each => Connective.and.reads ih each
  | ofAnd _ ih => exact fun tail each => Connective.or.reads ih.reads each
  | @and left right ls rs _ _ first second =>
    -- the right operand becomes the first of those behind the left one
    intro tail each
    have whole := first ((right, rs) :: tail) (List.forall_mem_cons.2 ⟨second, each⟩)
    rwa [List.flatMap_cons, ← List.append_assoc] at whole
  | @or left right ls rs _ _ first second =>
    intro tail each
    have whole := first ((right, rs) :: tail) (List.forall_mem_cons.2 ⟨second.reads, each⟩)
    rwa [List.flatMap_cons, ← List.append_assoc] at whole

/-- **Every phrase is read as its expression.** -/
theorem Phrase.accepts (written : Phrase .or e tokens) (clear : Clear (Token.continues .or) more) :
    Accepts (.rule .expr) tokens more [.expr e] :=
  expr_accepts written.readsOn.reads clear

end RuleQuery.Sql
