import RuleQuery.Proofs.Sql.Statement

/-!
**Expressions that read right without parentheses.**

The text of an expression shows no grouping. It is the text of a phrase exactly where no operand
needs parentheses:

* `Expr.RespectsPrecedence`: at every depth, the operands bind tightly enough for their places;
* `Expr.FitsAt`: the expression does so, and fits itself at a place of a level;
* `Prints`: the text of an expression spells the tokens of a phrase of a level;
* `prints_of_respectsPrecedence`: **an expression that respects precedence prints as a phrase**, by
  induction over the expression;
* `parse_where_text`: so its text after WHERE is read as the expression.
-/

namespace RuleQuery.Sql

/-! ### Levels -/

/-- The place of a level in the order of binding: a greater one binds more tightly. -/
def Level.tightness : Level → Nat
  | or => 0
  | and => 1
  | comparison => 2
  | primary => 3

namespace Expr

/-- How tightly the expression binds. -/
def level : Expr → Level
  | binary .or _ _ => .or
  | binary .and _ _ => .and
  | binary _ _ _ => .comparison
  | column _ | literal _ | call _ _ | wildcard => .primary

/-- **No operand needs parentheses, at every depth**: the operands of a comparison are no
operations, the right operand of AND is neither AND nor OR and the left one is not OR, and the right
operand of OR is not OR. -/
inductive RespectsPrecedence : Expr → Prop where
  | column (column : ColumnRef) : RespectsPrecedence (.column column)
  | literal (value : Value) : RespectsPrecedence (.literal value)
  | wildcard : RespectsPrecedence .wildcard
  | call (name : String) {args : List Expr} (each : ∀ arg ∈ args, arg.RespectsPrecedence) :
      RespectsPrecedence (.call name args)
  | compare {op : BinOp} {left right : Expr} (sign : op ≠ .and ∧ op ≠ .or)
      (leftTight : left.level = .primary) (rightTight : right.level = .primary)
      (first : left.RespectsPrecedence) (second : right.RespectsPrecedence) :
      RespectsPrecedence (.binary op left right)
  | and {left right : Expr} (leftTight : left.level ≠ .or)
      (rightTight : right.level ≠ .and ∧ right.level ≠ .or)
      (first : left.RespectsPrecedence) (second : right.RespectsPrecedence) :
      RespectsPrecedence (.binary .and left right)
  | or {left right : Expr} (rightTight : right.level ≠ .or) (first : left.RespectsPrecedence)
      (second : right.RespectsPrecedence) : RespectsPrecedence (.binary .or left right)

/-- **The expression needs no parentheses at a place of the level**, outside and inside. -/
structure FitsAt (place : Level) (e : Expr) : Prop where
  tight : place.tightness ≤ e.level.tightness
  inside : e.RespectsPrecedence

theorem level_compare {op : BinOp} (sign : op ≠ .and ∧ op ≠ .or) (left right : Expr) :
    (binary op left right).level = .comparison := by
  cases op with
  | and => exact absurd rfl sign.1
  | or => exact absurd rfl sign.2
  | _ => rfl

end Expr

/-- **A phrase of a level is one of every looser level.** -/
theorem Phrase.loosen {level place : Level} {e : Expr} {tokens : List Token}
    (written : Phrase level e tokens) (looser : place.tightness ≤ level.tightness) :
    Phrase place e tokens := by
  cases level with
  | or =>
    cases place with
    | or => exact written
    | _ => exact absurd looser (by decide)
  | and =>
    cases place with
    | or => exact .ofAnd written
    | and => exact written
    | _ => exact absurd looser (by decide)
  | comparison =>
    cases place with
    | or => exact .ofAnd (.ofComparison written)
    | and => exact .ofComparison written
    | comparison => exact written
    | primary => exact absurd looser (by decide)
  | primary =>
    cases place with
    | or => exact .ofAnd (.ofComparison (.ofPrimary written))
    | and => exact .ofComparison (.ofPrimary written)
    | comparison => exact .ofPrimary written
    | primary => exact written

/-! ### Tokens and their texts -/

/-- The text spells the tokens before every text where a word ends. -/
def Renders (tokens : List Token) (s : List Char) : Prop :=
  ∀ more rest, Spelling more rest → EndsWord rest → Spelling (tokens ++ more) (s ++ rest)

/-- A blank before a text does not count. -/
theorem Spelling.blank {tokens : List Token} {s : List Char} (spelling : Spelling tokens s) :
    Spelling tokens (' ' :: s) := by
  cases spelling with
  | finish last =>
    cases last with
    | closed inside => exact .finish (.closed (.blank rfl inside))
    | unclosed inside single => exact .finish (.unclosed (.blank rfl inside) single)
  | token before spelled apart others => exact .token (.blank rfl before) spelled apart others

namespace Renders

variable {t : Token} {tokens tokens' : List Token} {w s s' : List Char}

theorem nil : Renders [] [] :=
  fun _ _ spelling _ => spelling

theorem single (spelled : t.Spelled w) : Renders [t] w :=
  fun _ _ others ends => .token .none spelled (fun _ => ends) others

/-- A text behind another, where words end. -/
theorem append (first : Renders tokens s) (second : Renders tokens' s')
    (apart : ∀ rest, EndsWord rest → EndsWord (s' ++ rest)) :
    Renders (tokens ++ tokens') (s ++ s') := by
  intro more rest spelling ends
  rw [List.append_assoc, List.append_assoc]
  exact first _ _ (second more rest spelling ends) (apart rest ends)

theorem blank (inside : Renders tokens s) : Renders tokens (' ' :: s) :=
  fun more rest spelling ends => (inside more rest spelling ends).blank

/-- A text behind another with a blank between them. -/
theorem spaced (first : Renders tokens s) (second : Renders tokens' s') :
    Renders (tokens ++ tokens') (s ++ ' ' :: s') :=
  first.append second.blank fun _ _ c member => by cases member; rfl

/-- A sign is the end of a word. -/
theorem sign {c : Char} (member : c ∈ Token.signs) (inside : Renders tokens s) :
    Renders (.sign c :: tokens) (c :: s) :=
  fun more rest spelling ends => .token .none (.sign member) nofun (inside more rest spelling ends)

/-- A sign behind a text. -/
theorem beforeSign {c : Char} (member : c ∈ Token.signs) (first : Renders tokens s)
    (second : Renders tokens' s') : Renders (tokens ++ .sign c :: tokens') (s ++ c :: s') := by
  refine first.append (second.sign member) fun _ _ d same => ?_
  cases same
  have ends : Token.signs.all (!isWordChar ·) = true := by decide
  simpa using List.all_eq_true.1 ends c member

end Renders

/-! ### The texts of expressions -/

/-- The text of a literal is one of its spellings. -/
theorem Value.spelled_text (v : Value) : (Token.value v).Spelled v.text.toList := by
  cases v with
  | int i =>
    have digits : ∀ c ∈ Nat.toDigits 10 i.toInt.natAbs, c.isDigit = true :=
      fun c member => Nat.isDigit_of_mem_toDigits (by decide) (by decide) member
    rw [Value.text, String.toList_ofList, Text.decimal]
    by_cases sign : i.toInt < 0
    · rw [if_pos sign]
      refine .negative Nat.toDigits_ne_nil digits ?_
      rw [Nat.ofDigitChars_ten_toDigits]
      omega
    · rw [if_neg sign]
      refine .natural Nat.toDigits_ne_nil digits ?_
      rw [Nat.ofDigitChars_ten_toDigits]
      omega
  | string text =>
    have same : (Value.string text).text.toList = '\'' :: (doubleQuotes text.toList ++ ['\'']) := by
      simp [Value.text]
    rw [same]
    exact .string text

/-- The sign of a comparison is one of its spellings. -/
theorem BinOp.spelled_symbol {op : BinOp} (sign : op ≠ .and ∧ op ≠ .or) :
    (Token.compare op).Spelled op.symbol.toList := by
  cases op with
  | eq => exact .eq
  | ne => exact .ne
  | lt => exact .lt
  | le => exact .le
  | gt => exact .gt
  | ge => exact .ge
  | and => exact absurd rfl sign.1
  | or => exact absurd rfl sign.2

/-- **The text of the expression spells the tokens of a phrase of the level.** -/
def Prints (level : Level) (e : Expr) : Prop :=
  ∃ tokens, Phrase level e tokens ∧ Renders tokens e.text.toList

namespace Prints

variable {level place : Level} {left right : Expr} {args : List Expr}

theorem loosen {e : Expr} (prints : Prints level e) (looser : place.tightness ≤ level.tightness) :
    Prints place e := by
  obtain ⟨tokens, written, rendered⟩ := prints
  exact ⟨tokens, written.loosen looser, rendered⟩

theorem column {column : ColumnRef} (qualifier : ∀ q ∈ column.qualifier, Named q)
    (name : Named column.name) : Prints .primary (.column column) := by
  obtain ⟨_ | q, n⟩ := column
  · exact ⟨_, .column n, .single (.name name)⟩
  · refine ⟨_, .qualified q n, ?_⟩
    have rendered : Renders ([.name q] ++ .sign '.' :: [.name n]) (q.toList ++ '.' :: n.toList) :=
      (Renders.single (.name (qualifier q rfl))).beforeSign (by decide) (.single (.name name))
    simpa [Expr.text, ColumnRef.text] using rendered

theorem literal (v : Value) : Prints .primary (.literal v) :=
  ⟨_, .literal v, .single v.spelled_text⟩

/-- Two operands with an operator between them. -/
theorem binary {leftLevel rightLevel : Level} {op : BinOp} {t : Token}
    (spelled : t.Spelled op.symbol.toList)
    (joined : ∀ ls rs, Phrase leftLevel left ls → Phrase rightLevel right rs →
      Phrase level (.binary op left right) (ls ++ t :: rs))
    (first : Prints leftLevel left) (second : Prints rightLevel right) :
    Prints level (.binary op left right) := by
  obtain ⟨ls, leftWritten, leftRendered⟩ := first
  obtain ⟨rs, rightWritten, rightRendered⟩ := second
  refine ⟨_, joined ls rs leftWritten rightWritten, ?_⟩
  have rendered := (leftRendered.spaced (.single spelled)).spaced rightRendered
  simpa [Expr.text] using rendered

/-- Arguments print with commas between them. -/
theorem arguments (each : ∀ arg ∈ args, Prints .or arg) :
    ∃ pairs : List (Expr × List Token), pairs.map Prod.fst = args ∧
      (∀ pair ∈ pairs, Phrase .or pair.1 pair.2) ∧
      Renders (separated (pairs.map Prod.snd)) (Expr.argumentText args).toList := by
  induction args with
  | nil => exact ⟨[], rfl, by simp, .nil⟩
  | cons arg args ih =>
    rw [List.forall_mem_cons] at each
    obtain ⟨tokens, written, rendered⟩ := each.1
    obtain ⟨pairs, rfl, others, renderedOthers⟩ := ih each.2
    refine ⟨(arg, tokens) :: pairs, rfl, List.forall_mem_cons.2 ⟨written, others⟩, ?_⟩
    cases pairs with
    | nil => simpa [separated, Expr.argumentText] using rendered
    | cons next pairs =>
      have listed := rendered.beforeSign (c := ',') (by decide) renderedOthers.blank
      simpa [separated, Expr.argumentText] using listed

theorem call {name : String} (named : Named name) (each : ∀ arg ∈ args, Prints .or arg) :
    Prints .primary (.call name args) := by
  obtain ⟨pairs, rfl, written, rendered⟩ := arguments each
  refine ⟨_, .call name written, ?_⟩
  have closed := rendered.beforeSign (c := ')') (by decide) .nil
  have whole := (Renders.single (.name named)).beforeSign (c := '(') (by decide) closed
  simpa [Expr.text] using whole

theorem callAll {name : String} (named : Named name) :
    Prints .primary (.call name [.wildcard]) := by
  have signs : Renders [.sign '*', .sign ')'] ['*', ')'] :=
    .sign (by decide) (.sign (by decide) .nil)
  have whole := (Renders.single (.name named)).beforeSign (c := '(') (by decide) signs
  refine ⟨_, .callAll name, ?_⟩
  simpa [Expr.text, Expr.argumentText] using whole

end Prints

/-- **An expression that respects precedence prints as a phrase of its level.** -/
theorem prints_of_respectsPrecedence {e : Expr} (formed : e.WellFormed)
    (respects : e.RespectsPrecedence) : Prints e.level e := by
  induction formed with
  | column qualifier name => exact .column qualifier name
  | literal v => exact .literal v
  | callAll named => exact .callAll named
  | @call name args named _ ih =>
    cases respects with
    | call _ each =>
      exact .call named fun arg member => (ih arg member (each arg member)).loosen (Nat.zero_le _)
  | @binary op left right _ _ first second =>
    cases respects with
    | compare sign leftTight rightTight leftRespects rightRespects =>
      have leftPrints := first leftRespects
      have rightPrints := second rightRespects
      rw [leftTight] at leftPrints
      rw [rightTight] at rightPrints
      rw [Expr.level_compare sign]
      exact .binary (op.spelled_symbol sign) (fun _ _ => .compare op) leftPrints rightPrints
    | and leftTight rightTight leftRespects rightRespects =>
      -- Connectives group to the left, so that the left operand may be one of the same level.
      have leftPrints : Prints .and left := (first leftRespects).loosen (by
        cases level : left.level <;> simp_all [Level.tightness])
      have rightPrints : Prints .comparison right := (second rightRespects).loosen (by
        cases level : right.level <;> simp_all [Level.tightness])
      exact .binary (t := .keyword .AND) (.keyword (by decide)) (fun _ _ => .and)
        leftPrints rightPrints
    | or rightTight leftRespects rightRespects =>
      have leftPrints : Prints .or left := (first leftRespects).loosen (Nat.zero_le _)
      have rightPrints : Prints .and right := (second rightRespects).loosen (by
        cases level : right.level <;> simp_all [Level.tightness])
      exact .binary (t := .keyword .OR) (.keyword (by decide)) (fun _ _ => .or)
        leftPrints rightPrints

/-! ### The text after WHERE -/

/-- All rows of a table that meet a condition. -/
def filtered (table : String) (condition : Expr) : Select :=
  ⟨[.wildcard], .relation ⟨table, none⟩, some condition, none, []⟩

/-- **The text of an expression that prints is read as the expression**, after WHERE. -/
theorem parse_where_text {e : Expr} (prints : Prints .or e) :
    parse ("SELECT * FROM t WHERE " ++ e.text) = .ok (filtered "t" e) := by
  obtain ⟨tokens, written, rendered⟩ := prints
  have select : (Token.keyword .SELECT).Spelled ['S', 'E', 'L', 'E', 'C', 'T'] :=
    .keyword (by decide)
  have all : (Token.sign '*').Spelled ['*'] := .sign (by decide)
  have origin : (Token.keyword .FROM).Spelled ['F', 'R', 'O', 'M'] := .keyword (by decide)
  have table : (Token.name "t").Spelled ['t'] := .name (by decide)
  have filter : (Token.keyword .WHERE).Spelled ['W', 'H', 'E', 'R', 'E'] := .keyword (by decide)
  have whole := (Renders.single select).spaced ((Renders.single all).spaced
    ((Renders.single origin).spaced ((Renders.single table).spaced
      ((Renders.single filter).spaced rendered))))
  refine parse_of_writes ⟨_, [], .mk .wildcard (.table "t")
    (.mk (.present written) .absent .absent), .inl rfl, ?_⟩
  have spelling := whole [] [] (.finish (.closed .none)) nofun
  simpa [statementTokens] using spelling

end RuleQuery.Sql
