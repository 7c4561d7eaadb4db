import RuleQuery.Proofs.Sql.Token

/-!
**The texts of a statement.**

`Writes s text` says that the text writes the statement `s`: it spells the tokens of `s` in the order
of the language. The tokens leave choices open: parentheses around any expression, and words that may
be left out (AS, INNER, OUTER, ASC, the last semicolon). An operand that binds less tightly than its
place needs them (`Phrase`).

* `exists_writes`: every well-formed statement has a text.
-/

namespace RuleQuery.Sql

/-! ### Words and lists -/

/-- The reserved word or nothing. -/
def Maybe (k : Keyword) (tokens : List Token) : Prop :=
  tokens = [] ∨ tokens = [.keyword k]

/-- The tokens with commas between them. -/
def separated : List (List Token) → List Token
  | [] => []
  | first :: others => first ++ others.flatMap (.sign ',' :: ·)

/-- One thing or more are written one after the other with commas between them. -/
inductive Listed {α : Type} (writes : α → List Token → Prop) : List α → List Token → Prop where
  | mk {pairs : List (α × List Token)} (some : pairs ≠ [])
      (each : ∀ pair ∈ pairs, writes pair.1 pair.2) :
      Listed writes (pairs.map Prod.fst) (separated (pairs.map Prod.snd))

/-- Something optional is written after the words that announce it, or nothing is. -/
inductive Clause {α : Type} (words : List Token) (writes : α → List Token → Prop) :
    Option α → List Token → Prop where
  | absent : Clause words writes none []
  | present {a : α} {tokens : List Token} (written : writes a tokens) :
      Clause words writes (some a) (words ++ tokens)

/-! ### Expressions -/

/-- How tightly an expression binds at least. -/
inductive Level where
  | or
  | and
  | comparison
  | primary
deriving DecidableEq

/-- **The tokens write the expression at a place that needs the level.** -/
inductive Phrase : Level → Expr → List Token → Prop where
  | column (name : String) : Phrase .primary (.column ⟨none, name⟩) [.name name]
  | qualified (qualifier name : String) :
      Phrase .primary (.column ⟨some qualifier, name⟩) [.name qualifier, .sign '.', .name name]
  | literal (v : Value) : Phrase .primary (.literal v) [.value v]
  | call (name : String) {args : List (Expr × List Token)}
      (each : ∀ arg ∈ args, Phrase .or arg.1 arg.2) :
      Phrase .primary (.call name (args.map Prod.fst))
        (.name name :: .sign '(' :: (separated (args.map Prod.snd) ++ [.sign ')']))
  | callAll (name : String) :
      Phrase .primary (.call name [.wildcard]) [.name name, .sign '(', .sign '*', .sign ')']
  | parens {e : Expr} {tokens : List Token} (inside : Phrase .or e tokens) :
      Phrase .primary e (.sign '(' :: (tokens ++ [.sign ')']))
  | ofPrimary {e : Expr} {tokens : List Token} (inside : Phrase .primary e tokens) :
      Phrase .comparison e tokens
  | compare (op : BinOp) {left right : Expr} {ls rs : List Token}
      (first : Phrase .primary left ls) (second : Phrase .primary right rs) :
      Phrase .comparison (.binary op left right) (ls ++ .compare op :: rs)
  | ofComparison {e : Expr} {tokens : List Token} (inside : Phrase .comparison e tokens) :
      Phrase .and e tokens
  | and {left right : Expr} {ls rs : List Token} (first : Phrase .and left ls)
      (second : Phrase .comparison right rs) :
      Phrase .and (.binary .and left right) (ls ++ .keyword .AND :: rs)
  | ofAnd {e : Expr} {tokens : List Token} (inside : Phrase .and e tokens) : Phrase .or e tokens
  | or {left right : Expr} {ls rs : List Token} (first : Phrase .or left ls)
      (second : Phrase .and right rs) :
      Phrase .or (.binary .or left right) (ls ++ .keyword .OR :: rs)

/-! ### Projections, sources and clauses -/

/-- The tokens write an item of a projection. -/
inductive ItemTokens : SelectItem → List Token → Prop where
  | expr {e : Expr} {tokens : List Token} (written : Phrase .or e tokens) :
      ItemTokens (.expr e) tokens
  | aliased {e : Expr} {tokens word : List Token} (written : Phrase .or e tokens)
      (maybe : Maybe .AS word) (name : String) :
      ItemTokens (.aliased e name) (tokens ++ (word ++ [.name name]))

/-- The tokens write a projection. -/
inductive ProjectionTokens : List SelectItem → List Token → Prop where
  | wildcard : ProjectionTokens [.wildcard] [.sign '*']
  | items {items : List SelectItem} {tokens : List Token} (listed : Listed ItemTokens items tokens) :
      ProjectionTokens items tokens

/-- The tokens stand between two joined sources. -/
inductive JoinTokens : JoinKind → List Token → Prop where
  | inner {word : List Token} (maybe : Maybe .INNER word) :
      JoinTokens .inner (word ++ [.keyword .JOIN])
  | left {word : List Token} (maybe : Maybe .OUTER word) :
      JoinTokens .left (.keyword .LEFT :: (word ++ [.keyword .JOIN]))
  | right {word : List Token} (maybe : Maybe .OUTER word) :
      JoinTokens .right (.keyword .RIGHT :: (word ++ [.keyword .JOIN]))
  | full {word : List Token} (maybe : Maybe .OUTER word) :
      JoinTokens .full (.keyword .FULL :: (word ++ [.keyword .JOIN]))
  | cross : JoinTokens .cross [.keyword .CROSS, .keyword .JOIN]
  | comma : JoinTokens .comma [.sign ',']

/-- The tokens write an item of an ordering. -/
inductive OrderTokens : OrderItem → List Token → Prop where
  | plain {e : Expr} {tokens : List Token} (written : Phrase .or e tokens) :
      OrderTokens ⟨e, false⟩ tokens
  | asc {e : Expr} {tokens : List Token} (written : Phrase .or e tokens) :
      OrderTokens ⟨e, false⟩ (tokens ++ [.keyword .ASC])
  | desc {e : Expr} {tokens : List Token} (written : Phrase .or e tokens) :
      OrderTokens ⟨e, true⟩ (tokens ++ [.keyword .DESC])

/-- The tokens write the optional clauses. -/
inductive ClausesTokens : Option Expr → Option (List Expr) → List OrderItem → List Token → Prop where
  | mk {selection : Option Expr} {groupBy : Option (List Expr)} {orderBy : Option (List OrderItem)}
      {ws gs os : List Token} (filtered : Clause [.keyword .WHERE] (Phrase .or) selection ws)
      (grouped : Clause [.keyword .GROUP, .keyword .BY] (Listed (Phrase .or)) groupBy gs)
      (ordered : Clause [.keyword .ORDER, .keyword .BY] (Listed OrderTokens) orderBy os) :
      ClausesTokens selection groupBy (orderBy.getD []) (ws ++ (gs ++ os))

/-- The tokens of a statement, made of those of its parts. -/
def statementTokens (projection source clauses : List Token) : List Token :=
  .keyword .SELECT :: (projection ++ .keyword .FROM :: (source ++ clauses))

/-- **The tokens write the source.** -/
inductive SourceTokens : Source → List Token → Prop where
  | table (name : String) : SourceTokens (.relation ⟨name, none⟩) [.name name]
  | aliased (name aliasName : String) {word : List Token} (maybe : Maybe .AS word) :
      SourceTokens (.relation ⟨name, some aliasName⟩) (.name name :: (word ++ [.name aliasName]))
  | join {kind : JoinKind} {left right : Source} {condition : Option Expr}
      {ls js rs cs : List Token} (first : SourceTokens left ls) (joined : JoinTokens kind js)
      (second : SourceTokens right rs) (single : right.shape ≠ .join)
      (conditioned : Clause [.keyword .ON] (Phrase .or) condition cs) :
      SourceTokens (.join kind left right condition) (ls ++ (js ++ (rs ++ cs)))
  | subquery {projection : List SelectItem} {source : Source} {selection : Option Expr}
      {groupBy : Option (List Expr)} {orderBy : List OrderItem} {ps ss cs word : List Token}
      (projected : ProjectionTokens projection ps) (sourced : SourceTokens source ss)
      (clauses : ClausesTokens selection groupBy orderBy cs) (maybe : Maybe .AS word)
      (aliasName : String) :
      SourceTokens (.subquery projection source selection groupBy orderBy aliasName)
        (.sign '(' :: (statementTokens ps ss cs ++ .sign ')' :: (word ++ [.name aliasName])))

/-- **The tokens write the statement.** -/
inductive SelectTokens (s : Select) : List Token → Prop where
  | mk {ps ss cs : List Token} (projected : ProjectionTokens s.projection ps)
      (sourced : SourceTokens s.source ss)
      (clauses : ClausesTokens s.selection s.groupBy s.orderBy cs) :
      SelectTokens s (statementTokens ps ss cs)

/-- **The text writes the statement**, with a semicolon at the end or without. -/
def Writes (s : Select) (text : String) : Prop :=
  ∃ tokens closing, SelectTokens s tokens ∧ (closing = [] ∨ closing = [.sign ';']) ∧
    Spelling (tokens ++ closing) text.toList

/-! ### Every well-formed statement has a text -/

/-- Some characters spell the token. -/
def Token.Spellable (t : Token) : Prop :=
  ∃ w, t.Spelled w

/-- Some tokens that have spellings write it. -/
def Writable (writes : List Token → Prop) : Prop :=
  ∃ tokens, writes tokens ∧ ∀ t ∈ tokens, t.Spellable

theorem Keyword.spellable (k : Keyword) : (Token.keyword k).Spellable :=
  ⟨k.letters, .keyword k.letters_toLower⟩

theorem Named.spellable {name : String} (named : Named name) : (Token.name name).Spellable :=
  ⟨name.toList, .name named⟩

theorem sign_spellable {c : Char} (member : c ∈ Token.signs) : (Token.sign c).Spellable :=
  ⟨[c], .sign member⟩

theorem Value.spellable (v : Value) : (Token.value v).Spellable := by
  cases v with
  | int i =>
    have digits : ∀ c ∈ Nat.toDigits 10 i.toInt.natAbs, c.isDigit = true :=
      fun c member => Nat.isDigit_of_mem_toDigits (by decide) (by decide) member
    by_cases sign : 0 ≤ i.toInt
    · refine ⟨_, .natural Nat.toDigits_ne_nil digits ?_⟩
      rw [Nat.ofDigitChars_ten_toDigits, Int.natAbs_of_nonneg sign]
    · refine ⟨_, .negative Nat.toDigits_ne_nil digits ?_⟩
      rw [Nat.ofDigitChars_ten_toDigits]
      omega
  | string text => exact ⟨_, .string text⟩

theorem separated_spellable {lists : List (List Token)}
    (each : ∀ tokens ∈ lists, ∀ t ∈ tokens, t.Spellable) :
    ∀ t ∈ separated lists, t.Spellable := by
  have comma : (Token.sign ',').Spellable := sign_spellable (by decide)
  cases lists with
  | nil => intro t member; cases member
  | cons first others =>
    rw [List.forall_mem_cons] at each
    intro t member
    rw [separated, List.mem_append, List.mem_flatMap] at member
    rcases member with member | ⟨tokens, inside, member⟩
    · exact each.1 t member
    · exact List.forall_mem_cons.2 ⟨comma, each.2 tokens inside⟩ t member

/-- Things that can be written one by one can be written beside each other. -/
theorem exists_pairs {α : Type} {writes : α → List Token → Prop} {items : List α}
    (each : ∀ a ∈ items, Writable (writes a)) :
    ∃ pairs : List (α × List Token), pairs.map Prod.fst = items ∧
      (∀ pair ∈ pairs, writes pair.1 pair.2) ∧
      ∀ t ∈ separated (pairs.map Prod.snd), t.Spellable := by
  have chosen : ∀ items' : List α, (∀ a ∈ items', Writable (writes a)) →
      ∃ pairs : List (α × List Token), pairs.map Prod.fst = items' ∧
        ∀ pair ∈ pairs, writes pair.1 pair.2 ∧ ∀ t ∈ pair.2, t.Spellable := by
    intro items' each
    induction items' with
    | nil => exact ⟨[], rfl, by simp⟩
    | cons a items' ih =>
      rw [List.forall_mem_cons] at each
      obtain ⟨tokens, written, spelled⟩ := each.1
      obtain ⟨pairs, rfl, others⟩ := ih each.2
      exact ⟨(a, tokens) :: pairs, rfl, List.forall_mem_cons.2 ⟨⟨written, spelled⟩, others⟩⟩
  obtain ⟨pairs, same, all⟩ := chosen items each
  refine ⟨pairs, same, fun pair member => (all pair member).1, separated_spellable ?_⟩
  intro tokens member
  obtain ⟨pair, inside, rfl⟩ := List.mem_map.1 member
  exact (all pair inside).2

theorem Listed.writable {α : Type} {writes : α → List Token → Prop} {items : List α}
    (some : items ≠ []) (each : ∀ a ∈ items, Writable (writes a)) :
    Writable (Listed writes items) := by
  obtain ⟨pairs, rfl, written, spelled⟩ := exists_pairs each
  exact ⟨_, .mk (fun none => some (by rw [none]; rfl)) written, spelled⟩

theorem Clause.writable {α : Type} {words : List Token} {writes : α → List Token → Prop}
    {content : Option α} (spelled : ∀ t ∈ words, t.Spellable)
    (each : ∀ a ∈ content, Writable (writes a)) : Writable (Clause words writes content) := by
  cases content with
  | none => exact ⟨[], .absent, by simp⟩
  | some a =>
    obtain ⟨tokens, written, others⟩ := each a rfl
    exact ⟨_, .present written, List.forall_mem_append.2 ⟨spelled, others⟩⟩

theorem Writable.imp {writes writes' : List Token → Prop} (some : Writable writes)
    (implies : ∀ tokens, writes tokens → writes' tokens) : Writable writes' := by
  obtain ⟨tokens, written, spelled⟩ := some
  exact ⟨tokens, implies tokens written, spelled⟩

/-- Two things that can be written can be written with a token between them. -/
theorem Writable.around {first second writes : List Token → Prop} {t : Token}
    (left : Writable first) (spelled : t.Spellable) (right : Writable second)
    (joined : ∀ ls rs, first ls → second rs → writes (ls ++ t :: rs)) : Writable writes := by
  obtain ⟨ls, leftWritten, leftSpelled⟩ := left
  obtain ⟨rs, rightWritten, rightSpelled⟩ := right
  exact ⟨_, joined ls rs leftWritten rightWritten,
    List.forall_mem_append.2 ⟨leftSpelled, List.forall_mem_cons.2 ⟨spelled, rightSpelled⟩⟩⟩

theorem Writable.parens {e : Expr} (inside : Writable (Phrase .or e)) :
    Writable (Phrase .primary e) := by
  obtain ⟨tokens, written, spelled⟩ := inside
  refine ⟨_, .parens written, List.forall_mem_cons.2 ⟨sign_spellable (by decide), ?_⟩⟩
  exact List.forall_mem_append.2
    ⟨spelled, List.forall_mem_singleton.2 (sign_spellable (by decide))⟩

theorem Writable.binary {left right : Expr} (op : BinOp) (first : Writable (Phrase .primary left))
    (second : Writable (Phrase .primary right)) :
    Writable (Phrase .primary (.binary op left right)) := by
  have compared : (Token.compare op).Spellable → Writable (Phrase .or (.binary op left right)) :=
    fun spelled => first.around spelled second fun _ _ left right =>
      .ofAnd (.ofComparison (.compare op left right))
  apply Writable.parens
  cases op with
  | and =>
    exact first.around (Keyword.spellable .AND) second fun _ _ left right =>
      .ofAnd (.and (.ofComparison (.ofPrimary left)) (.ofPrimary right))
  | or =>
    exact first.around (Keyword.spellable .OR) second fun _ _ left right =>
      .or (.ofAnd (.ofComparison (.ofPrimary left))) (.ofComparison (.ofPrimary right))
  | eq => exact compared ⟨_, .eq⟩
  | ne => exact compared ⟨_, .ne⟩
  | lt => exact compared ⟨_, .lt⟩
  | le => exact compared ⟨_, .le⟩
  | gt => exact compared ⟨_, .gt⟩
  | ge => exact compared ⟨_, .ge⟩

/-- **A well-formed expression can be written**, with parentheses around each of its operations. -/
theorem Expr.WellFormed.writable {e : Expr} (formed : e.WellFormed) :
    Writable (Phrase .primary e) := by
  have opens : (Token.sign '(').Spellable := sign_spellable (by decide)
  have closes : (Token.sign ')').Spellable := sign_spellable (by decide)
  have star : (Token.sign '*').Spellable := sign_spellable (by decide)
  have dot : (Token.sign '.').Spellable := sign_spellable (by decide)
  induction formed with
  | @column column qualifier name =>
    obtain ⟨_ | q, n⟩ := column
    · exact ⟨_, .column n, by simp [name.spellable]⟩
    · exact ⟨_, .qualified q n, by simp [name.spellable, (qualifier q rfl).spellable, dot]⟩
  | literal v => exact ⟨_, .literal v, by simp [v.spellable]⟩
  | binary op _ _ first second => exact first.binary op second
  | call named _ ih =>
    have each : ∀ arg ∈ _, Writable (Phrase .or arg) := fun arg member =>
      (ih arg member).imp fun _ written => .ofAnd (.ofComparison (.ofPrimary written))
    obtain ⟨args, rfl, written, spelled⟩ := exists_pairs each
    exact ⟨_, .call _ written, by
      simp only [List.forall_mem_cons, List.forall_mem_append]
      simpa [named.spellable, opens, closes] using spelled⟩
  | callAll named => exact ⟨_, .callAll _, by simp [named.spellable, opens, closes, star]⟩

theorem Expr.WellFormed.writable_or {e : Expr} (formed : e.WellFormed) : Writable (Phrase .or e) :=
  formed.writable.imp fun _ written => .ofAnd (.ofComparison (.ofPrimary written))

theorem WellFormedProjection.writable {projection : List SelectItem}
    (formed : WellFormedProjection projection) : Writable (ProjectionTokens projection) := by
  cases formed with
  | wildcard => exact ⟨_, .wildcard, by simpa using sign_spellable (by decide)⟩
  | items some formed =>
    have each : ∀ item ∈ projection, Writable (ItemTokens item) := by
      intro item member
      cases formed item member with
      | expr formed => exact formed.writable_or.imp fun _ written => .expr written
      | aliased formed named =>
        obtain ⟨tokens, written, spelled⟩ := formed.writable_or
        refine ⟨_, .aliased written (.inl rfl) _, List.forall_mem_append.2 ⟨spelled, ?_⟩⟩
        simpa using named.spellable
    exact (Listed.writable some each).imp fun _ listed => .items listed

/-- An ordering is left out where it is empty. -/
theorem ordering_writable {orderBy : List OrderItem}
    (formed : ∀ item ∈ orderBy, item.expr.WellFormed) :
    ∃ content : Option (List OrderItem), content.getD [] = orderBy ∧
      Writable (Clause [.keyword .ORDER, .keyword .BY] (Listed OrderTokens) content) := by
  have each : ∀ item ∈ orderBy, Writable (OrderTokens item) := by
    intro item member
    obtain ⟨tokens, written, spelled⟩ := (formed item member).writable_or
    obtain ⟨e, _ | _⟩ := item
    · exact ⟨_, .plain written, spelled⟩
    · exact ⟨_, .desc written, List.forall_mem_append.2 ⟨spelled, by simp [Keyword.spellable]⟩⟩
  by_cases none : orderBy = []
  · exact ⟨.none, none.symm, [], .absent, by simp⟩
  · refine ⟨some orderBy, rfl, Clause.writable (by simp [Keyword.spellable]) ?_⟩
    rintro items ⟨⟩
    exact Listed.writable none each

theorem WellFormedClauses.writable {selection : Option Expr} {groupBy : Option (List Expr)}
    {orderBy : List OrderItem} (formed : WellFormedClauses selection groupBy orderBy) :
    Writable (ClausesTokens selection groupBy orderBy) := by
  have filtered : Writable (Clause [.keyword .WHERE] (Phrase .or) selection) :=
    Clause.writable (by simp [Keyword.spellable]) fun e member =>
      (formed.selection e member).writable_or
  have grouped : Writable (Clause [.keyword .GROUP, .keyword .BY] (Listed (Phrase .or)) groupBy) :=
    Clause.writable (by simp [Keyword.spellable]) fun keys member =>
      Listed.writable (formed.grouped keys member) fun e inside =>
        (formed.groupBy keys member e inside).writable_or
  obtain ⟨content, rfl, ordered⟩ := ordering_writable formed.orderBy
  obtain ⟨ws, filtered, spelledWhere⟩ := filtered
  obtain ⟨gs, grouped, spelledGroup⟩ := grouped
  obtain ⟨os, ordered, spelledOrder⟩ := ordered
  exact ⟨_, .mk filtered grouped ordered, List.forall_mem_append.2
    ⟨spelledWhere, List.forall_mem_append.2 ⟨spelledGroup, spelledOrder⟩⟩⟩

theorem statementTokens_spellable {ps ss cs : List Token} (projected : ∀ t ∈ ps, t.Spellable)
    (sourced : ∀ t ∈ ss, t.Spellable) (clauses : ∀ t ∈ cs, t.Spellable) :
    ∀ t ∈ statementTokens ps ss cs, t.Spellable := by
  refine List.forall_mem_cons.2 ⟨Keyword.spellable .SELECT, List.forall_mem_append.2 ⟨projected, ?_⟩⟩
  exact List.forall_mem_cons.2
    ⟨Keyword.spellable .FROM, List.forall_mem_append.2 ⟨sourced, clauses⟩⟩

theorem joinTokens_writable (kind : JoinKind) : Writable (JoinTokens kind) := by
  cases kind with
  | inner => exact ⟨_, .inner (.inl rfl), by simp [Keyword.spellable]⟩
  | left => exact ⟨_, .left (.inl rfl), by simp [Keyword.spellable]⟩
  | right => exact ⟨_, .right (.inl rfl), by simp [Keyword.spellable]⟩
  | full => exact ⟨_, .full (.inl rfl), by simp [Keyword.spellable]⟩
  | cross => exact ⟨_, .cross, by simp [Keyword.spellable]⟩
  | comma => exact ⟨_, .comma, by simpa using sign_spellable (by decide)⟩

/-- **A well-formed source can be written.** -/
theorem Source.WellFormed.writable {source : Source} (formed : source.WellFormed) :
    Writable (SourceTokens source) := by
  induction formed with
  | @relation table name aliasName =>
    obtain ⟨n, _ | a⟩ := table
    · exact ⟨_, .table n, by simpa using name.spellable⟩
    · refine ⟨_, .aliased n a (.inl rfl), ?_⟩
      simp [name.spellable, (aliasName a rfl).spellable]
  | @join kind left right condition _ _ single conditionFormed first second =>
    have conditioned : Writable (Clause [.keyword .ON] (Phrase .or) condition) :=
      Clause.writable (by simp [Keyword.spellable]) fun e member =>
        (conditionFormed e member).writable_or
    obtain ⟨ls, first, spelledLeft⟩ := first
    obtain ⟨js, joined, spelledJoin⟩ := joinTokens_writable kind
    obtain ⟨rs, second, spelledRight⟩ := second
    obtain ⟨cs, conditioned, spelledCondition⟩ := conditioned
    refine ⟨_, .join first joined second single conditioned, ?_⟩
    simp only [List.forall_mem_append]
    exact ⟨spelledLeft, spelledJoin, spelledRight, spelledCondition⟩
  | subquery projected _ clauses named inside =>
    obtain ⟨ps, projected, spelledProjection⟩ := projected.writable
    obtain ⟨ss, sourced, spelledSource⟩ := inside
    obtain ⟨cs, clauses, spelledClauses⟩ := clauses.writable
    have spelled := statementTokens_spellable spelledProjection spelledSource spelledClauses
    refine ⟨_, .subquery projected sourced clauses (.inl rfl) _, ?_⟩
    refine List.forall_mem_cons.2 ⟨sign_spellable (by decide), List.forall_mem_append.2 ⟨spelled, ?_⟩⟩
    exact List.forall_mem_cons.2
      ⟨sign_spellable (by decide), List.forall_mem_singleton.2 named.spellable⟩

/-- Tokens that have spellings have them in one text, with a blank before each. -/
theorem exists_spelling {tokens : List Token} (each : ∀ t ∈ tokens, t.Spellable) :
    ∃ s, Spelling tokens s ∧ EndsWord s := by
  induction tokens with
  | nil => exact ⟨[], .finish (.closed .none), by simp [EndsWord]⟩
  | cons t tokens ih =>
    rw [List.forall_mem_cons] at each
    obtain ⟨⟨w, spelled⟩, others⟩ := each
    obtain ⟨rest, spelling, ends⟩ := ih others
    refine ⟨[' '] ++ (w ++ rest), .token (.blank rfl .none) spelled (fun _ => ends) spelling, ?_⟩
    rintro c ⟨⟩
    rfl

/-- **Every well-formed statement has a text.** -/
theorem exists_writes {s : Select} (formed : s.WellFormed) : ∃ text, Writes s text := by
  obtain ⟨ps, projected, spelledProjection⟩ := formed.projection.writable
  obtain ⟨ss, sourced, spelledSource⟩ := formed.source.writable
  obtain ⟨cs, clauses, spelledClauses⟩ := formed.clauses.writable
  obtain ⟨text, spelling, -⟩ :=
    exists_spelling (statementTokens_spellable spelledProjection spelledSource spelledClauses)
  refine ⟨String.ofList text, _, [], .mk projected sourced clauses, .inl rfl, ?_⟩
  rwa [List.append_nil, String.toList_ofList]

end RuleQuery.Sql
