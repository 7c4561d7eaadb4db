import RuleQuery.Proofs.Sql.Reading

/-!
**Statements are read as they are written.**

* `SourceTokens.reads`: every source is read as it is written, with further joins behind it.
* `SelectTokens.accepts`: so is every statement.
* `wellFormed_read_back`: **a well-formed statement has texts, and each of them is read as it.**
* `parse_ok_wellFormed`: what is read from a text is well formed.
-/

namespace RuleQuery.Sql

open Peg
open Peg.Expression

variable {tokens more word : List Token} {k : Keyword}

/-! ### Words that may be left out -/

theorem maybe_accepts (separates : (Part.keyword k).isSeparator = true) (maybe : Maybe k word)
    (other : Clear (· == .keyword k) more) :
    Accepts (optional (.rule (.word k))) word more [] := by
  rcases maybe with rfl | rfl
  · exact (word_refuses other).skip
  · have found := word_accepts k more
    rw [significant, List.filter_cons_of_neg (by rw [separates]; decide)] at found
    exact found.optional

/-- The token starts an alias. -/
def Token.startsAlias (t : Token) : Bool :=
  t == .keyword .AS || t.isName

/-- An alias, with AS before it or without. -/
abbrev aliasExpression : Expression Rule :=
  spaced [optional (.rule (.word .AS)), .rule .ident]

theorem alias_accepts (maybe : Maybe .AS word) (name : String) :
    Accepts aliasExpression (word ++ [.name name]) more [.name name] :=
  .then (maybe_accepts rfl maybe (clear_cons.2 rfl)) (ident_accepts name more)

theorem alias_refuses (clear : Clear Token.startsAlias more) : Refuses aliasExpression more := by
  have noWord : Refuses (.rule (.word .AS)) more :=
    word_refuses (clear.imp fun t same => by simp_all [Token.startsAlias])
  have noName : Refuses (.rule .ident) more :=
    ident_refuses (clear.imp fun t same => by simp [Token.startsAlias, same])
  exact .then noWord.skip noName

/-! ### Projections -/

/-- The token would go on with an item of a projection. -/
def Token.continuesItem (t : Token) : Bool :=
  t.continues .or || t.startsAlias

theorem ItemTokens.accepts {item : SelectItem} (written : ItemTokens item tokens)
    (clear : Clear Token.continuesItem more) :
    Accepts (.rule .selectItem) tokens more [.item item] := by
  cases written with
  | @expr e _ written =>
    have made : ∀ text, combine? .selectItem text [.expr e] = some (.item (.expr e)) := fun _ => rfl
    have stops : Clear (Token.continues .or) more :=
      clear.imp fun t same => by simp [Token.continuesItem, same]
    have noAlias : Refuses aliasExpression more :=
      alias_refuses (clear.imp fun t same => by simp [Token.continuesItem, same])
    exact .plain rfl made ((written.accepts stops).thenSkip noAlias)
  | @aliased e ts ws written maybe name =>
    have made : ∀ text, combine? .selectItem text [.expr e, .name name] =
        some (.item (.aliased e name)) := fun _ => rfl
    have stops : Clear (Token.continues .or) (ws ++ [.name name] ++ more) := by
      rcases maybe with rfl | rfl <;> exact clear_cons.2 rfl
    exact .plain rfl made (.then (written.accepts stops) (alias_accepts maybe name).optional)

theorem ItemTokens.notStar {item : SelectItem} (written : ItemTokens item tokens)
    (more : List Token) : Clear (· == .sign '*') (tokens ++ more) := by
  cases written with
  | expr written => exact written.clear (fun _ => rfl) (fun _ => rfl) rfl more
  | aliased written =>
    rw [List.append_assoc]
    exact written.clear (fun _ => rfl) (fun _ => rfl) rfl _

/-- **A projection is read before FROM.** -/
theorem ProjectionTokens.accepts {projection : List SelectItem}
    (written : ProjectionTokens projection tokens) :
    Accepts (.rule .selectList) tokens (.keyword .FROM :: more) [.items projection] := by
  cases written with
  | wildcard =>
    have single : ∀ text, combine? .wildcard text [] = some (.item .wildcard) := fun _ => rfl
    have star := Accepts.plain rfl single (sign_accepts '*' (.keyword .FROM :: more))
    exact .plain rfl (fun text => combine?_selectList text [.wildcard]) (.first star)
  | items listed =>
    have list : Accepts _ _ (.keyword .FROM :: more) _ :=
      listed.accepts Part.item (fun _ _ written _ clear => written.accepts clear) rfl
        (clear_cons.2 rfl) (clear_cons.2 rfl)
    have noStar := listed.clear (fun _ _ written => written.notStar) (.keyword .FROM :: more)
    exact .plain rfl (fun text => combine?_selectList text _)
      (.second (.rule (sign_refuses (by decide) noStar)) list)

/-! ### Joins -/

/-- The token stands first between two joined sources. -/
def Token.startsJoin (t : Token) : Bool :=
  t == .keyword .JOIN || t == .keyword .INNER || t == .keyword .LEFT || t == .keyword .RIGHT ||
    t == .keyword .FULL || t == .keyword .CROSS || t == .sign ','

/-- An inner join is refused where neither of its words comes next. -/
theorem innerJoin_refuses (noInner : Clear (· == .keyword .INNER) tokens)
    (noJoin : Clear (· == .keyword .JOIN) tokens) : Refuses (.rule .innerJoin) tokens :=
  .rule (.then (word_refuses noInner).skip (word_refuses noJoin))

/-- A word for a side, and OUTER or not, before JOIN. -/
theorem outer_accepts (separates : significant [.keyword k] = []) (maybe : Maybe .OUTER word) :
    Accepts (spaced [.rule (.word k), optional (.rule (.word .OUTER)), .rule (.word .JOIN)])
      (.keyword k :: (word ++ [.keyword .JOIN])) more [] := by
  have side := word_accepts k (word ++ [.keyword .JOIN] ++ more)
  rw [separates] at side
  exact .then side (.then (maybe_accepts rfl maybe (clear_cons.2 rfl)) (word_accepts .JOIN more))

/-- **What stands between two joined sources is read as the kind of their join.** -/
theorem JoinTokens.accepts {kind : JoinKind} (written : JoinTokens kind tokens) :
    Accepts (.rule .joinOp) tokens more [.kind kind] := by
  have made : ∀ text, combine? .joinOp text [.kind kind] = some (.kind kind) := fun _ => rfl
  refine .plain rfl made ?_
  -- the choice of the grammar has the kinds in this order, so each refuses those before it
  cases written with
  | inner maybe =>
    have single : ∀ text, combine? .innerJoin text [] = some (.kind .inner) := fun _ => rfl
    exact .first (.plain rfl single
      (.then (maybe_accepts rfl maybe (clear_cons.2 rfl)) (word_accepts .JOIN more)))
  | left maybe =>
    have single : ∀ text, combine? .leftJoin text [] = some (.kind .left) := fun _ => rfl
    exact .second (innerJoin_refuses (clear_cons.2 rfl) (clear_cons.2 rfl))
      (.first (.plain rfl single (outer_accepts rfl maybe)))
  | right maybe =>
    have single : ∀ text, combine? .rightJoin text [] = some (.kind .right) := fun _ => rfl
    exact .second (innerJoin_refuses (clear_cons.2 rfl) (clear_cons.2 rfl))
      (.second (.rule (.next (word_refuses (clear_cons.2 rfl))))
        (.first (.plain rfl single (outer_accepts rfl maybe))))
  | full maybe =>
    have single : ∀ text, combine? .fullJoin text [] = some (.kind .full) := fun _ => rfl
    exact .second (innerJoin_refuses (clear_cons.2 rfl) (clear_cons.2 rfl))
      (.second (.rule (.next (word_refuses (clear_cons.2 rfl))))
        (.second (.rule (.next (word_refuses (clear_cons.2 rfl))))
          (.first (.plain rfl single (outer_accepts rfl maybe)))))
  | cross =>
    have single : ∀ text, combine? .crossJoin text [] = some (.kind .cross) := fun _ => rfl
    have cross := Accepts.then (word_accepts .CROSS _) (word_accepts .JOIN more)
    exact .second (innerJoin_refuses (clear_cons.2 rfl) (clear_cons.2 rfl))
      (.second (.rule (.next (word_refuses (clear_cons.2 rfl))))
        (.second (.rule (.next (word_refuses (clear_cons.2 rfl))))
          (.second (.rule (.next (word_refuses (clear_cons.2 rfl))))
            (.first (.plain rfl single cross)))))
  | comma =>
    have single : ∀ text, combine? .commaJoin text [] = some (.kind .comma) := fun _ => rfl
    exact .second (innerJoin_refuses (clear_cons.2 rfl) (clear_cons.2 rfl))
      (.second (.rule (.next (word_refuses (clear_cons.2 rfl))))
        (.second (.rule (.next (word_refuses (clear_cons.2 rfl))))
          (.second (.rule (.next (word_refuses (clear_cons.2 rfl))))
            (.second (.rule (.next (word_refuses (clear_cons.2 rfl))))
              (.plain rfl single (sign_accepts ',' more))))))

theorem JoinTokens.clear {kind : JoinKind} {test : Token → Bool} (written : JoinTokens kind tokens)
    (never : ∀ t : Token, t.startsJoin = true → test t = false) (more : List Token) :
    Clear test (tokens ++ more) := by
  cases written with
  | inner maybe => rcases maybe with rfl | rfl <;> exact clear_cons.2 (never _ rfl)
  | _ => exact clear_cons.2 (never _ rfl)

theorem joinOp_refuses (clear : Clear Token.startsJoin tokens) : Refuses (.rule .joinOp) tokens := by
  have no : ∀ t : Token, t.startsJoin = true → Clear (· == t) tokens := by
    intro t starts
    exact clear.imp fun t' same => eq_of_beq same ▸ starts
  have left : Refuses (.rule .leftJoin) tokens := .rule (.next (word_refuses (no _ rfl)))
  have right : Refuses (.rule .rightJoin) tokens := .rule (.next (word_refuses (no _ rfl)))
  have full : Refuses (.rule .fullJoin) tokens := .rule (.next (word_refuses (no _ rfl)))
  have cross : Refuses (.rule .crossJoin) tokens := .rule (.next (word_refuses (no _ rfl)))
  have comma : Refuses (.rule .commaJoin) tokens := .rule (sign_refuses (by decide) (no _ rfl))
  exact .rule (.choice (innerJoin_refuses (no _ rfl) (no _ rfl))
    (.choice left (.choice right (.choice full (.choice cross comma)))))

/-! ### Sources -/

/-- The token would go on with a join that stands before it. -/
def Token.continuesTail (t : Token) : Bool :=
  t.continues .or || t.startsAlias || t == .keyword .ON

/-- The token would go on with a source that stands before it. -/
def Token.continuesSource (t : Token) : Bool :=
  t.continuesTail || t.startsJoin

/-- The tokens are read as one source, which is no join. -/
def ReadsRelation (source : Source) (tokens : List Token) : Prop :=
  ∀ more, Clear Token.startsAlias more → Accepts (.rule .relation) tokens more [.source source]

/-- The tokens are read as a join with what stands before them. -/
def ReadsTail (tail : Part) (tokens : List Token) : Prop :=
  (∀ more, Clear Token.continuesTail more → Accepts (.rule .joinTail) tokens more [tail]) ∧
    ∀ more, Clear Token.continuesTail (tokens ++ more)

/-- The tokens are read as a source, with further joins behind them. -/
def ReadsSource (source : Source) (tokens : List Token) : Prop :=
  ∀ tails : List (Part × List Token), (∀ tail ∈ tails, ReadsTail tail.1 tail.2) →
    ∀ joined, chain source (tails.map Prod.fst) = some joined →
      ∀ more, Clear Token.continuesSource more →
        Accepts (.rule .fromClause) (tokens ++ tails.flatMap Prod.snd) more [.source joined]

/-- A source without parentheses is a table. -/
theorem table_accepts {source : Source} (name : String) {others : List Token}
    (inside : Accepts (.rule .tableRef) (.name name :: others) more [.source source]) :
    Accepts (.rule .relation) (.name name :: others) more [.source source] := by
  have made : ∀ text, combine? .relation text [.source source] = some (.source source) :=
    fun _ => rfl
  have noOpen : Refuses (.rule .subquery) (.name name :: others ++ more) :=
    .rule (.next (sign_refuses (by decide) (clear_cons.2 rfl)))
  exact .plain rfl made (.second noOpen inside)

theorem table_reads (name : String) : ReadsRelation (.relation ⟨name, none⟩) [.name name] := by
  intro more clear
  have made : ∀ text, combine? .tableRef text [.name name] =
      some (.source (.relation ⟨name, none⟩)) := fun _ => rfl
  exact table_accepts name
    (.plain rfl made ((ident_accepts name more).thenSkip (alias_refuses clear)))

theorem aliased_reads (name aliasName : String) (maybe : Maybe .AS word) :
    ReadsRelation (.relation ⟨name, some aliasName⟩) (.name name :: (word ++ [.name aliasName])) := by
  intro more _
  have made : ∀ text, combine? .tableRef text [.name name, .name aliasName] =
      some (.source (.relation ⟨name, some aliasName⟩)) := fun _ => rfl
  exact table_accepts name (.plain rfl made
    (.then (ident_accepts name _) (alias_accepts maybe aliasName).optional))

theorem subquery_reads {s : Select} (maybe : Maybe .AS word) (aliasName : String)
    (inside : ∀ more, Accepts (.rule .selectStmt) tokens (.sign ')' :: more) [.select s]) :
    ReadsRelation (s.asSource aliasName)
      (.sign '(' :: (tokens ++ .sign ')' :: (word ++ [.name aliasName]))) := by
  intro more _
  have made : ∀ text, combine? .subquery text [.select s, .name aliasName] =
      some (.source (s.asSource aliasName)) := fun _ => rfl
  have outer : ∀ text, combine? .relation text [.source (s.asSource aliasName)] =
      some (.source (s.asSource aliasName)) := fun _ => rfl
  have named : Accepts aliasExpression (word ++ [.name aliasName]) more [.name aliasName] :=
    alias_accepts maybe aliasName
  have whole := Accepts.then (sign_accepts '(' _)
    (.then (inside _) (.then (sign_accepts ')' _) named))
  exact .plain rfl outer (.first (.plain rfl made whole))

/-- **A source that is no join is read with the joins behind it.** -/
theorem ReadsRelation.readsSource {source : Source} (reads : ReadsRelation source tokens) :
    ReadsSource source tokens := by
  intro tails each joined chained more clear
  have made : ∀ text, combine? .fromClause text (.source source :: tails.map Prod.fst) =
      some (.source joined) := by
    intro text
    show (chain source (tails.map Prod.fst)).map Part.source = _
    rw [chained, Option.map_some]
  have stops : Clear Token.continuesTail more :=
    clear.imp fun t same => by simp [Token.continuesSource, same]
  have noJoin : Refuses (.rule .joinTail) more :=
    .rule (.next (joinOp_refuses (clear.imp fun t same => by simp [Token.continuesSource, same])))
  have weaker : ∀ t : Token, t.startsAlias = true → t.continuesTail = true := by
    intro t same
    simp [Token.continuesTail, same]
  exact .plain rfl made (.thenEach (fun more clear => reads more (clear.imp weaker))
    (fun tail member => (each tail member).1) (fun tail member => (each tail member).2) stops noJoin)

theorem tail_reads {kind : JoinKind} {right : Source} {condition : Option Expr}
    {js rs cs : List Token} (joined : JoinTokens kind js) (reads : ReadsRelation right rs)
    (conditioned : Clause [.keyword .ON] (Phrase .or) condition cs) :
    ReadsTail (.tail kind right condition) (js ++ (rs ++ cs)) := by
  constructor
  · intro more clear
    have stops : Clear (Token.continues .or) more :=
      clear.imp fun t same => by simp [Token.continuesTail, same]
    have noAlias : Clear Token.startsAlias more :=
      clear.imp fun t same => by simp [Token.continuesTail, same]
    have noOn : Refuses (spaced [.rule (.word .ON), .rule .expr]) more :=
      .next (word_refuses (clear.imp fun t same => by simp_all [Token.continuesTail]))
    cases conditioned with
    | absent =>
      have made : ∀ text, combine? .joinTail text [.kind kind, .source right] =
          some (.tail kind right none) := fun _ => rfl
      rw [List.append_nil]
      exact .plain rfl made (.then joined.accepts ((reads more noAlias).thenSkip noOn))
    | @present e tokens written =>
      have made : ∀ text, combine? .joinTail text [.kind kind, .source right, .expr e] =
          some (.tail kind right (some e)) := fun _ => rfl
      have follow : Clear Token.startsAlias ([.keyword .ON] ++ tokens ++ more) := clear_cons.2 rfl
      exact .plain rfl made (.then joined.accepts (.then (reads _ follow)
        (.optional (.then (word_accepts .ON _) (written.accepts stops)))))
  · intro more
    rw [List.append_assoc]
    refine joined.clear ?_ _
    intro t starts
    simp only [Token.startsJoin, Bool.or_eq_true, beq_iff_eq] at starts
    rcases starts with (((((rfl | rfl) | rfl) | rfl) | rfl) | rfl) | rfl <;> rfl

/-! ### Clauses -/

/-- What comes next closes a statement. -/
def Closes (tokens : List Token) : Prop :=
  ∀ t ∈ tokens.head?, t = .sign ')' ∨ t = .sign ';'

theorem Closes.clear {test : Token → Bool} (closes : Closes more) (close : test (.sign ')') = false)
    (finish : test (.sign ';') = false) : Clear test more := by
  intro t member
  rcases closes t member with rfl | rfl
  · exact close
  · exact finish

theorem Clause.clear {α : Type} {writes : α → List Token → Prop} {o : Option α} {t : Token}
    {words : List Token} {test : Token → Bool} (clause : Clause (t :: words) writes o tokens)
    (never : test t = false) : Clear test tokens := by
  cases clause with
  | absent => exact clear_nil test
  | present => exact clear_cons.2 never

/-- A clause is read where it is written, and left out where it is not. -/
theorem Clause.accepts {α : Type} {writes : α → List Token → Prop} {o : Option α}
    {words : List Token} {r : Rule} (make : α → Part) (clause : Clause words writes o tokens)
    (present : ∀ a inner, writes a inner → Accepts (.rule r) (words ++ inner) more [make a])
    (absent : Refuses (.rule r) more) :
    Accepts (optional (.rule r)) tokens more (o.map make).toList := by
  cases clause with
  | absent => exact absent.skip
  | present written => exact (present _ _ written).optional

theorem where_accepts {e : Expr} (written : Phrase .or e tokens)
    (clear : Clear (Token.continues .or) more) :
    Accepts (.rule .whereClause) ([.keyword .WHERE] ++ tokens) more [.selection e] := by
  have made : ∀ text, combine? .whereClause text [.expr e] = some (.selection e) := fun _ => rfl
  exact .plain rfl made (.then (word_accepts .WHERE _) (written.accepts clear))

theorem groupBy_accepts {keys : List Expr} (written : Listed (Phrase .or) keys tokens)
    (clear : Clear (Token.continues .or) more) (noComma : Clear (· == .sign ',') more) :
    Accepts (.rule .groupByClause) ([.keyword .GROUP, .keyword .BY] ++ tokens) more
      [.groupBy keys] := by
  have made : ∀ text, combine? .groupByClause text [.exprs keys] = some (.groupBy keys) :=
    fun _ => rfl
  have list := written.accepts (r := .expr) Part.expr
    (fun _ _ written _ clear => written.accepts clear) rfl clear noComma
  have exprs : Accepts (.rule .exprList) tokens more [.exprs keys] :=
    .plain rfl (fun text => combine?_exprList text keys) list
  exact .plain rfl made (.then (word_accepts .GROUP _) (.then (word_accepts .BY _) exprs))

/-- The token would go on with an item of an ordering. -/
def Token.continuesOrder (t : Token) : Bool :=
  t.continues .or || t == .keyword .ASC || t == .keyword .DESC

theorem OrderTokens.accepts {item : OrderItem} (written : OrderTokens item tokens)
    (clear : Clear Token.continuesOrder more) :
    Accepts (.rule .orderItem) tokens more [.order item] := by
  cases written with
  | @plain e _ written =>
    have made : ∀ text, combine? .orderItem text [.expr e] = some (.order ⟨e, false⟩) := fun _ => rfl
    have stops : Clear (Token.continues .or) more :=
      clear.imp fun t same => by simp [Token.continuesOrder, same]
    have noAsc : Refuses (.rule (.word .ASC)) more :=
      word_refuses (clear.imp fun t same => by simp_all [Token.continuesOrder])
    have noDesc : Refuses (.rule (.word .DESC)) more :=
      word_refuses (clear.imp fun t same => by simp_all [Token.continuesOrder])
    exact .plain rfl made ((written.accepts stops).thenSkip (noAsc.choice noDesc))
  | @asc e tokens written =>
    have made : ∀ text, combine? .orderItem text [.expr e, .keyword .ASC] =
        some (.order ⟨e, false⟩) := fun _ => rfl
    have stops : Clear (Token.continues .or) ([.keyword .ASC] ++ more) := clear_cons.2 rfl
    exact .plain rfl made
      (.then (written.accepts stops) (.optional (.first (word_accepts .ASC more))))
  | @desc e tokens written =>
    have made : ∀ text, combine? .orderItem text [.expr e, .keyword .DESC] =
        some (.order ⟨e, true⟩) := fun _ => rfl
    have stops : Clear (Token.continues .or) ([.keyword .DESC] ++ more) := clear_cons.2 rfl
    have noAsc : Refuses (.rule (.word .ASC)) ([.keyword .DESC] ++ more) :=
      word_refuses (clear_cons.2 rfl)
    exact .plain rfl made
      (.then (written.accepts stops) (.optional (.second noAsc (word_accepts .DESC more))))

theorem orderBy_accepts {items : List OrderItem} (written : Listed OrderTokens items tokens)
    (clear : Clear Token.continuesOrder more) (noComma : Clear (· == .sign ',') more) :
    Accepts (.rule .orderByClause) ([.keyword .ORDER, .keyword .BY] ++ tokens) more
      [.orderBy items] := by
  have list := written.accepts Part.order (fun _ _ written _ clear => written.accepts clear) rfl
    clear noComma
  exact .plain rfl (fun text => combine?_orderBy text items)
    (.then (word_accepts .ORDER _) (.then (word_accepts .BY _) list))

/-- **The optional clauses are read before what closes a statement.** -/
theorem clauses_accepts {selection : Option Expr} {groupBy : Option (List Expr)}
    {orderBy : Option (List OrderItem)} {ws gs os : List Token}
    (filtered : Clause [.keyword .WHERE] (Phrase .or) selection ws)
    (grouped : Clause [.keyword .GROUP, .keyword .BY] (Listed (Phrase .or)) groupBy gs)
    (ordered : Clause [.keyword .ORDER, .keyword .BY] (Listed OrderTokens) orderBy os)
    (closes : Closes more) :
    Accepts (spaced [optional (.rule .whereClause), optional (.rule .groupByClause),
        optional (.rule .orderByClause)]) (ws ++ (gs ++ os)) more
      (clauseParts selection groupBy orderBy) := by
  have afterGroup : ∀ {test : Token → Bool}, test (.keyword .ORDER) = false →
      test (.sign ')') = false → test (.sign ';') = false → Clear test (os ++ more) :=
    fun word close finish => (ordered.clear word).append (closes.clear close finish)
  have afterWhere : ∀ {test : Token → Bool}, test (.keyword .GROUP) = false →
      test (.keyword .ORDER) = false → test (.sign ')') = false → test (.sign ';') = false →
      Clear test (gs ++ os ++ more) := by
    intro test group order close finish
    rw [List.append_assoc]
    exact (grouped.clear group).append (afterGroup order close finish)
  have first : Accepts (optional (.rule .whereClause)) ws (gs ++ os ++ more) _ :=
    filtered.accepts Part.selection
      (fun _ _ written => where_accepts written (afterWhere rfl rfl rfl rfl))
      (.rule (.next (word_refuses (afterWhere rfl rfl rfl rfl))))
  have second : Accepts (optional (.rule .groupByClause)) gs (os ++ more) _ :=
    grouped.accepts Part.groupBy
      (fun _ _ written => groupBy_accepts written (afterGroup rfl rfl rfl) (afterGroup rfl rfl rfl))
      (.rule (.next (word_refuses (afterGroup rfl rfl rfl))))
  have third : Accepts (optional (.rule .orderByClause)) os more _ :=
    ordered.accepts Part.orderBy
      (fun _ _ written => orderBy_accepts written (closes.clear rfl rfl) (closes.clear rfl rfl))
      (.rule (.next (word_refuses (closes.clear rfl rfl))))
  exact .then first (.then second third)

/-! ### Statements -/

theorem statement_accepts {projection : List SelectItem} {source : Source}
    {selection : Option Expr} {groupBy : Option (List Expr)} {orderBy : List OrderItem}
    {ps ss cs : List Token} (projected : ProjectionTokens projection ps)
    (reads : ReadsSource source ss) (clauses : ClausesTokens selection groupBy orderBy cs)
    (closes : Closes more) :
    Accepts (.rule .selectStmt) (statementTokens ps ss cs) more
      [.select ⟨projection, source, selection, groupBy, orderBy⟩] := by
  cases clauses with
  | @mk orderBy ws gs os filtered grouped ordered =>
    have made : ∀ text, combine? .selectStmt text
        (.items projection :: .source source :: clauseParts selection groupBy orderBy) =
        some (.select ⟨projection, source, selection, groupBy, orderBy.getD []⟩) := by
      intro text
      show (clauses? (clauseParts selection groupBy orderBy)).map _ = _
      rw [clauses?_clauseParts, Option.map_some]
    have follow : Clear Token.continuesSource (ws ++ (gs ++ os) ++ more) := by
      rw [List.append_assoc, List.append_assoc]
      exact (filtered.clear rfl).append ((grouped.clear rfl).append
        ((ordered.clear rfl).append (closes.clear rfl rfl)))
    have sourced := reads [] (by simp) source rfl _ follow
    rw [List.flatMap_nil, List.append_nil] at sourced
    have clauses := clauses_accepts filtered grouped ordered closes
    have projection : Accepts _ ps ([.keyword .FROM] ++ (ss ++ (ws ++ (gs ++ os))) ++ more) _ :=
      projected.accepts
    have whole := Accepts.then (word_accepts .SELECT _)
      (.then projection (.then (word_accepts .FROM _) (.then sourced clauses)))
    exact .plain rfl made whole

/-- **Every source is read as it is written**, alone where it is no join and always with further
joins behind it. -/
theorem SourceTokens.reads {source : Source} (written : SourceTokens source tokens) :
    (source.shape ≠ .join → ReadsRelation source tokens) ∧ ReadsSource source tokens := by
  induction written with
  | table name =>
    have reads := table_reads name
    exact ⟨fun _ => reads, reads.readsSource⟩
  | aliased name aliasName maybe =>
    have reads := aliased_reads name aliasName maybe
    exact ⟨fun _ => reads, reads.readsSource⟩
  | @join kind left right condition ls js rs cs _ joined _ single conditioned first second =>
    refine ⟨fun never => absurd rfl never, ?_⟩
    -- the right side becomes the first of the joins behind the left side
    intro tails each whole chained more clear
    have tail := tail_reads joined (second.1 single) conditioned
    have reads := first.2 ((.tail kind right condition, js ++ (rs ++ cs)) :: tails)
      (List.forall_mem_cons.2 ⟨tail, each⟩) whole chained more clear
    rwa [List.flatMap_cons, ← List.append_assoc] at reads
  | subquery projected _ clauses maybe aliasName ih =>
    have closes : ∀ more, Closes (.sign ')' :: more) := by simp [Closes]
    have reads := subquery_reads maybe aliasName fun more =>
      statement_accepts projected ih.2 clauses (closes more)
    exact ⟨fun _ => reads, reads.readsSource⟩

/-- **Every statement is read as it is written.** -/
theorem SelectTokens.accepts {s : Select} (written : SelectTokens s tokens) (closes : Closes more) :
    Accepts (.rule .selectStmt) tokens more [.select s] := by
  cases written with
  | mk projected sourced clauses => exact statement_accepts projected sourced.reads.2 clauses closes

/-! ### Texts -/

/-- The statement, a semicolon or none, and the end. -/
theorem query_accepts {s : Select} {closing : List Token} (written : SelectTokens s tokens)
    (maybe : closing = [] ∨ closing = [.sign ';']) :
    Accepts (spaced [.rule .selectStmt, optional (.text [';']), .rule .endOfInput])
      (tokens ++ closing) [] [.select s, .finish] := by
  rcases maybe with rfl | rfl
  · have noSign : Refuses (.text [';']) [] := sign_refuses (by decide) (clear_nil _)
    have closes : Closes [] := by simp [Closes]
    have tail := Accepts.then noSign.skip endOfInput_accepts
    exact (written.accepts closes).then tail
  · have closes : Closes [.sign ';'] := by simp [Closes]
    have tail := Accepts.then (sign_accepts ';' []).optional endOfInput_accepts
    exact (written.accepts closes).then tail

/-- **A text that writes a statement is read as that statement.** -/
theorem parse_of_writes {s : Select} {text : String} (writes : Writes s text) :
    parse text = .ok s := by
  obtain ⟨tokens, closing, written, maybe, spelling⟩ := writes
  obtain ⟨gap, solid, before, facing⟩ := spelling.gap_matches (0 + Text.byteCount [])
  rw [← List.append_nil (tokens ++ closing)] at facing
  obtain ⟨nodes, taken, rest, found, ⟨built, children, same⟩, -⟩ :=
    query_accepts written maybe _ solid facing
  have made : combine .query (gap ++ taken) built = .ok (.select s) := by
    rw [combine, show built.filter (!·.isSeparator) = _ from same]
    rfl
  have inside := Matches.next (.start text.toList) (.next before found)
  have derivation : Matches grammar (.rule .query) 0 text.toList
      (.ok [.mk .query 0 (gap ++ taken) nodes] (gap ++ taken) rest) := .plain rfl inside
  have trees : tree .query text.toList = .ok [.mk .query 0 (gap ++ taken) nodes] := by
    rw [tree, Grammar.parse_outcome_eq_iff.2 derivation]
  have stated : statement [.mk .query 0 (gap ++ taken) nodes] = .ok s := by
    rw [statement, buildAll_node 0 children made]
    rfl
  rw [parse, trees]
  dsimp only
  rw [stated]

/-- **Every well-formed statement is read back from each of its texts**, and there are such texts. -/
theorem wellFormed_read_back {s : Select} (formed : s.WellFormed) :
    (∃ text, Writes s text) ∧ ∀ text, Writes s text → parse text = .ok s :=
  ⟨exists_writes formed, fun _ writes => parse_of_writes writes⟩

/-- A statement with a subquery, a join and a condition. -/
def joinedSubquery : Select :=
  ⟨[.expr (.column ⟨none, "a"⟩)],
    .join .comma (.subquery [.wildcard] (.relation ⟨"t", none⟩) none none [] "x")
      (.relation ⟨"u", none⟩) none,
    some (.binary .ne (.column ⟨some "x", "b"⟩) (.literal (.string "it's"))), none, []⟩

theorem joinedSubquery_wellFormed : joinedSubquery.WellFormed := by
  have item : (SelectItem.expr (.column ⟨none, "a"⟩)).WellFormed :=
    .expr (.column nofun (by decide))
  have inner : (Source.subquery [.wildcard] (.relation ⟨"t", none⟩) none none [] "x").WellFormed :=
    .subquery .wildcard (.relation (by decide) nofun) ⟨nofun, nofun, nofun, nofun⟩ (by decide)
  have condition : (Expr.binary .ne (.column ⟨some "x", "b"⟩)
      (.literal (.string "it's"))).WellFormed :=
    .binary .ne (.column (by decide) (by decide)) (.literal _)
  refine ⟨.items nofun ?_, .join .comma inner (.relation (by decide) nofun) nofun nofun, ?_⟩
  · exact List.forall_mem_singleton.2 item
  · exact ⟨fun _ same => Option.some.inj same ▸ condition, nofun, nofun, nofun⟩

/-- A text with parentheses that it could do without, a comment and a quote in a string. -/
theorem writes_joinedSubquery : Writes joinedSubquery
    "Select (a) from (select * from t) as x,u -- rows\nwhere x.b!='it''s';" := by
  have column : Phrase .or (.column ⟨none, "a"⟩) [.sign '(', .name "a", .sign ')'] :=
    .ofAnd (.ofComparison (.ofPrimary (.parens (.ofAnd (.ofComparison (.ofPrimary (.column "a")))))))
  have item : Listed ItemTokens joinedSubquery.projection [.sign '(', .name "a", .sign ')'] :=
    @Listed.mk _ ItemTokens [(_, _)] nofun (List.forall_mem_singleton.2 (.expr column))
  have source : SourceTokens joinedSubquery.source [.sign '(', .keyword .SELECT, .sign '*',
      .keyword .FROM, .name "t", .sign ')', .keyword .AS, .name "x", .sign ',', .name "u"] :=
    .join (.subquery .wildcard (.table "t") (.mk .absent .absent .absent) (.inr rfl) "x") .comma
      (.table "u") nofun .absent
  have clauses : ClausesTokens joinedSubquery.selection none [] [.keyword .WHERE, .name "x",
      .sign '.', .name "b", .compare .ne, .value (.string "it's")] :=
    .mk (.present (.ofAnd (.ofComparison (.compare .ne (.qualified "x" "b") (.literal _)))))
      .absent .absent
  refine ⟨_, [.sign ';'], .mk (.items item) source clauses, .inr rfl, ?_⟩
  have tight : Gap [] := .none
  have blank : Gap [' '] := .blank rfl .none
  have comment : Gap (' ' :: '-' :: '-' :: ([' ', 'r', 'o', 'w', 's'] ++ '\n' :: [])) :=
    .blank rfl (.comment (by decide) .none)
  have capital : (Token.keyword .SELECT).Spelled "Select".toList := .keyword (by decide)
  have select : (Token.keyword .SELECT).Spelled "select".toList := .keyword (by decide)
  have origin : (Token.keyword .FROM).Spelled "from".toList := .keyword (by decide)
  have named : (Token.keyword .AS).Spelled "as".toList := .keyword (by decide)
  have filter : (Token.keyword .WHERE).Spelled "where".toList := .keyword (by decide)
  simp only [String.reduceToList]
  refine .token tight capital (by decide) ?_
  refine .token blank (.sign (by decide)) (by decide) ?_
  refine .token tight (.name (by decide)) (by decide) ?_
  refine .token tight (.sign (by decide)) (by decide) ?_
  refine .token blank origin (by decide) ?_
  refine .token blank (.sign (by decide)) (by decide) ?_
  refine .token tight select (by decide) ?_
  refine .token blank (.sign (by decide)) (by decide) ?_
  refine .token blank origin (by decide) ?_
  refine .token blank (.name (by decide)) (by decide) ?_
  refine .token tight (.sign (by decide)) (by decide) ?_
  refine .token blank named (by decide) ?_
  refine .token blank (.name (by decide)) (by decide) ?_
  refine .token tight (.sign (by decide)) (by decide) ?_
  refine .token tight (.name (by decide)) (by decide) ?_
  refine .token comment filter (by decide) ?_
  refine .token blank (.name (by decide)) (by decide) ?_
  refine .token tight (.sign (by decide)) (by decide) ?_
  refine .token tight (.name (by decide)) (by decide) ?_
  refine .token tight .bang (by decide) ?_
  refine .token tight (.string _) (by decide) ?_
  refine .token tight (.sign (by decide)) (by decide) ?_
  exact .finish (.closed .none)

theorem joinedSubquery_read_back :
    joinedSubquery.WellFormed ∧
      parse "Select (a) from (select * from t) as x,u -- rows\nwhere x.b!='it''s';" =
        .ok joinedSubquery :=
  ⟨joinedSubquery_wellFormed,
    (wellFormed_read_back joinedSubquery_wellFormed).2 _ writes_joinedSubquery⟩

/-- **A text that is read gives a well-formed statement.** -/
theorem parse_ok_wellFormed {text : String} {s : Select} (read : parse text = .ok s) :
    s.WellFormed := by
  rw [parse, tree] at read
  cases ends : (grammar.parse .query text.toList).outcome with
  | fail =>
    rw [ends] at read
    cases read
  | ok nodes taken rest =>
    rw [ends] at read
    have derivation := Grammar.parse_outcome_eq_iff.1 ends
    have builds := matches_builds derivation rfl (by decide)
    dsimp only at read
    rcases builds with ⟨_, built, s', rfl, formed⟩ | ⟨literal, failed⟩
    · have same : statement nodes = .ok s' := by
        rw [statement, built]
        rfl
      rw [same] at read
      cases read
      exact formed
    · have never : statement nodes = .error (.integerRange literal) := by
        rw [statement, failed]
        rfl
      rw [never] at read
      cases read

theorem joinedSubquery_parsed_wellFormed :
    parse "Select (a) from (select * from t) as x,u -- rows\nwhere x.b!='it''s';" =
        .ok joinedSubquery ∧
      joinedSubquery.WellFormed :=
  ⟨parse_of_writes writes_joinedSubquery, parse_ok_wellFormed (parse_of_writes writes_joinedSubquery)⟩

end RuleQuery.Sql
