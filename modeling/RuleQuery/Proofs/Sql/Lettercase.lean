import RuleQuery.Proofs.Peg.Lettercase
import RuleQuery.Proofs.Sql.Lexeme

/-!
**Queries up to the letter case of ASCII.**

* `grammar_caseless`: no rule of the grammar tells a capital from its small letter, and neither do
  the gaps.
* `combine?_toLower`: what a rule makes of parts in small letters is its part in small letters.
* `matches_buildsLower`: so the tree of every match builds in small letters as it does.
* `parse_toLower`: **a text in small letters is read as the statement in small letters**, or has an
  error of the same kind.
-/

namespace RuleQuery.Sql

open Peg

/-! ### The grammar -/

theorem isGapChar_toLower (c : Char) : isGapChar c.toLower = isGapChar c :=
  Text.toLower_of_capitals (by decide) c

theorem isDigit_toLower (c : Char) : c.toLower.isDigit = c.isDigit :=
  Text.toLower_of_capitals (by decide) c

mutual

theorem splitGap_toLower (s : List Char) :
    splitGap (s.map Char.toLower) = bothToLower (splitGap s) := by
  match s with
  | [] => rfl
  | c :: rest =>
    have same := isGapChar_toLower c
    by_cases comment : c = '-' ∧ rest.head? = some '-'
    · obtain ⟨rfl, second⟩ := comment
      obtain ⟨line, rfl⟩ := List.head?_eq_some_iff.1 second
      show splitGap ('-' :: '-' :: line.map Char.toLower) = _
      rw [splitGap, splitGap, splitComment_toLower line]
      rfl
    · cases blank : isGapChar c with
      | true =>
        rw [blank] at same
        rw [List.map_cons, splitGap_cons_blank same, splitGap_cons_blank blank, splitGap_toLower rest]
        rfl
      | false =>
        rw [blank] at same
        have single := not_and.1 comment
        have alone : c.toLower = '-' → (rest.map Char.toLower).head? ≠ some '-' := by
          rwa [Text.toLower_eq_iff (by decide), ne_eq, Text.head?_toLower_eq_iff (by decide)]
        rw [List.map_cons, splitGap_cons_solid same alone, splitGap_cons_solid blank single]
        rfl
termination_by s.length

theorem splitComment_toLower (s : List Char) :
    splitComment (s.map Char.toLower) = bothToLower (splitComment s) := by
  match s with
  | [] => rfl
  | c :: rest =>
    have newline : c.toLower = '\n' ↔ c = '\n' := Text.toLower_eq_iff (by decide) c
    rw [List.map_cons, splitComment, splitComment]
    by_cases ends : c = '\n'
    · rw [if_pos ends, if_pos (newline.2 ends), splitGap_toLower rest]
      rfl
    · rw [if_neg ends, if_neg (ends ∘ newline.1), splitComment_toLower rest]
      rfl
termination_by s.length

end

/-- The bodies of all rules are caseless. -/
theorem body_caseless (r : Rule) : (body r).Caseless := by
  cases r <;>
    simp [body, Expression.spaced, Expression.joined, Expression.anyOf, Expression.repeated,
      Expression.Caseless, Keyword.all, isGapChar_toLower, isWordChar_toLower,
      isWordStart_toLower, isDigit_toLower]

theorem grammar_caseless : grammar.Caseless :=
  ⟨body_caseless, splitGap_toLower⟩

/-! ### Statements in small letters -/

/-- A literal in small letters. -/
def Value.toLower : Value → Value
  | int value => int value
  | string text => string text.toLower

/-- A column in small letters. -/
def ColumnRef.toLower (column : ColumnRef) : ColumnRef :=
  ⟨column.qualifier.map String.toLower, column.name.toLower⟩

mutual

/-- An expression in small letters. -/
def Expr.toLower : Expr → Expr
  | column c => column c.toLower
  | literal v => literal v.toLower
  | binary op left right => binary op left.toLower right.toLower
  | call name args => call name.toLower (Expr.allToLower args)
  | wildcard => wildcard

/-- Expressions in small letters. -/
def Expr.allToLower : List Expr → List Expr
  | [] => []
  | e :: rest => e.toLower :: Expr.allToLower rest

end

theorem Expr.allToLower_eq_map (es : List Expr) : Expr.allToLower es = es.map Expr.toLower := by
  induction es with
  | nil => rfl
  | cons e es ih => rw [allToLower, ih, List.map_cons]

/-- An item of a projection in small letters. -/
def SelectItem.toLower : SelectItem → SelectItem
  | wildcard => wildcard
  | expr e => expr e.toLower
  | aliased e name => aliased e.toLower name.toLower

/-- A table in small letters. -/
def TableRef.toLower (t : TableRef) : TableRef :=
  ⟨t.name.toLower, t.aliasName.map String.toLower⟩

/-- An item of an ordering in small letters. -/
def OrderItem.toLower (item : OrderItem) : OrderItem :=
  ⟨item.expr.toLower, item.desc⟩

/-- A source in small letters. -/
def Source.toLower : Source → Source
  | relation t => relation t.toLower
  | join kind left right condition =>
    join kind left.toLower right.toLower (condition.map Expr.toLower)
  | subquery projection source selection groupBy orderBy aliasName =>
    subquery (projection.map SelectItem.toLower) source.toLower (selection.map Expr.toLower)
      (groupBy.map (List.map Expr.toLower)) (orderBy.map OrderItem.toLower) aliasName.toLower

/-- **A statement in small letters.** -/
def Select.toLower (s : Select) : Select :=
  ⟨s.projection.map SelectItem.toLower, s.source.toLower, s.selection.map Expr.toLower,
    s.groupBy.map (List.map Expr.toLower), s.orderBy.map OrderItem.toLower⟩

/-- A part of a tree in small letters. -/
def Part.toLower : Part → Part
  | keyword k => keyword k
  | name n => name n.toLower
  | value v => value v.toLower
  | op o => op o
  | expr e => expr e.toLower
  | exprs es => exprs (es.map Expr.toLower)
  | item i => item i.toLower
  | items is => items (is.map SelectItem.toLower)
  | kind k => kind k
  | source s => source s.toLower
  | tail k right condition => tail k right.toLower (condition.map Expr.toLower)
  | selection e => selection e.toLower
  | groupBy keys => groupBy (keys.map Expr.toLower)
  | order o => order o.toLower
  | orderBy os => orderBy (os.map OrderItem.toLower)
  | select s => select s.toLower
  | finish => finish

/-! ### What a rule makes of parts in small letters -/

theorem significant_toLower (parts : List Part) :
    significant (parts.map Part.toLower) = (significant parts).map Part.toLower := by
  have same : (fun p : Part => !p.isSeparator) ∘ Part.toLower = fun p => !p.isSeparator := by
    funext p
    cases p with
    | keyword k => cases k <;> rfl
    | _ => rfl
  rw [significant, List.filter_map, same]

/-- A rule that reads its parts one by one reads them in small letters as well. -/
theorem mapM_toLower {α : Type} {read : Part → Option α} {lower : α → α} {make make' : List α → Part}
    (natural : ∀ p : Part, read p.toLower = (read p).map lower)
    (makes : ∀ as, (make as).toLower = make' (as.map lower)) {parts : List Part} {part : Part}
    (made : (parts.mapM read).map make = some part) :
    ((parts.map Part.toLower).mapM read).map make' = some part.toLower := by
  obtain ⟨as, found, rfl⟩ := Option.map_eq_some_iff.1 made
  have each : (parts.map Part.toLower).mapM read = some (as.map lower) := by
    clear made
    induction parts generalizing as with
    | nil =>
      cases found
      rfl
    | cons p parts ih =>
      rw [List.mapM_cons] at found
      obtain ⟨a, first, found⟩ := Option.bind_eq_some_iff.1 found
      obtain ⟨others, rest, found⟩ := Option.bind_eq_some_iff.1 found
      cases found
      rw [List.map_cons, List.mapM_cons, natural, first, ih others rest]
      rfl
  rw [each, Option.map_some, makes]

theorem connect_toLower (op : BinOp) (first : Expr) (rest : List Expr) :
    (connect op first rest).toLower = connect op first.toLower (rest.map Expr.toLower) := by
  induction rest generalizing first with
  | nil => rfl
  | cons e rest ih => exact ih (.binary op first e)

theorem chain_toLower {first last : Source} {parts : List Part}
    (found : chain first parts = some last) :
    chain first.toLower (parts.map Part.toLower) = some last.toLower := by
  induction parts generalizing first with
  | nil =>
    cases found
    rfl
  | cons p parts ih =>
    cases p with
    | tail kind right condition =>
      rw [chain] at found
      exact ih found
    | _ => cases found

/-- The optional clauses come from their parts only. -/
theorem exists_clauseParts {parts : List Part} {selection : Option Expr}
    {groupBy : Option (List Expr)} {orderBy : List OrderItem}
    (found : clauses? parts = some (selection, groupBy, orderBy)) :
    ∃ ordered : Option (List OrderItem),
      parts = clauseParts selection groupBy ordered ∧ orderBy = ordered.getD [] := by
  revert found
  fun_cases clauses? parts with
  | case1 selection rest first groupBy second =>
    rintro ⟨⟩
    refine ⟨none, ?_, rfl⟩
    split at first <;> split at second <;> cases first <;> cases second <;> rfl
  | case2 selection rest first groupBy _ second =>
    rintro ⟨⟩
    refine ⟨some orderBy, ?_, rfl⟩
    split at first <;> split at second <;> cases first <;> cases second <;> rfl
  | case3 => exact nofun

theorem clauses?_toLower {parts : List Part} {selection : Option Expr} {groupBy : Option (List Expr)}
    {orderBy : List OrderItem} (found : clauses? parts = some (selection, groupBy, orderBy)) :
    clauses? (parts.map Part.toLower) = some (selection.map Expr.toLower,
      groupBy.map (List.map Expr.toLower), orderBy.map OrderItem.toLower) := by
  obtain ⟨ordered, rfl, rfl⟩ := exists_clauseParts found
  have parts : (clauseParts selection groupBy ordered).map Part.toLower =
      clauseParts (selection.map Expr.toLower) (groupBy.map (List.map Expr.toLower))
        (ordered.map (List.map OrderItem.toLower)) := by
    cases selection <;> cases groupBy <;> cases ordered <;> rfl
  rw [parts, clauses?_clauseParts]
  cases ordered <;> rfl

theorem ofList_toLower (s : List Char) :
    String.ofList (s.map Char.toLower) = (String.ofList s).toLower := by
  rw [← String.toList_inj, Text.toList_toLower, String.toList_ofList, String.toList_ofList]

theorem undoubleQuotes_toLower (s : List Char) :
    undoubleQuotes (s.map Char.toLower) = (undoubleQuotes s).map Char.toLower := by
  fun_induction undoubleQuotes s with
  | case1 rest ih => rw [List.map_cons, List.map_cons, List.map_cons, ← ih]; rfl
  | case2 c rest single ih =>
    rw [List.map_cons, undoubleQuotes, ih]
    · rfl
    · intro after quote doubled
      have next : (rest.map Char.toLower).head? = some '\'' := by rw [doubled, List.head?_cons]
      rw [Text.head?_toLower_eq_iff (by decide)] at next
      obtain ⟨after, rfl⟩ := List.head?_eq_some_iff.1 next
      exact single after ((Text.toLower_eq_iff (by decide) c).1 quote) rfl
  | case3 => rfl

theorem stringValue_toLower (literal : List Char) :
    stringValue (literal.map Char.toLower) = (stringValue literal).toLower := by
  rw [stringValue, ← List.map_drop, ← List.map_dropLast, undoubleQuotes_toLower, ofList_toLower,
    stringValue]

/-- A comparison has no letters. -/
theorem comparison?_toLower {sign : List Char} {op : BinOp} (found : comparison? sign = some op) :
    comparison? (sign.map Char.toLower) = some op := by
  have same : sign.map Char.toLower = sign := by
    unfold comparison? at found
    grind
  rwa [same]

theorem expr?_toLower (p : Part) : p.toLower.expr? = p.expr?.map Expr.toLower := by
  cases p <;> rfl

theorem item?_toLower (p : Part) : p.toLower.item? = p.item?.map SelectItem.toLower := by
  cases p <;> rfl

theorem order?_toLower (p : Part) : p.toLower.order? = p.order?.map OrderItem.toLower := by
  cases p <;> rfl

/-- **A rule makes of parts in small letters its own part in small letters**, where an integer has no
letters. -/
theorem combine?_toLower {r : Rule} {literal : List Char} {parts : List Part} {part : Part}
    (digital : r = .integer → literal.map Char.toLower = literal)
    (made : combine? r literal parts = some part) :
    combine? r (literal.map Char.toLower) (parts.map Part.toLower) = some part.toLower := by
  unfold combine? at made
  split at made
  -- identifiers, strings, integers and signs, which read the text
  case h_3 =>
    cases made
    exact congrArg (some ∘ Part.name) (ofList_toLower literal)
  case h_4 =>
    cases made
    exact congrArg (some ∘ Part.value ∘ Value.string) (stringValue_toLower literal)
  case h_5 =>
    obtain ⟨i, fits, rfl⟩ := Option.map_eq_some_iff.1 made
    rw [digital rfl]
    exact made
  case h_11 =>
    obtain ⟨op, sign, rfl⟩ := Option.map_eq_some_iff.1 made
    exact congrArg (Option.map Part.op) (comparison?_toLower sign)
  -- calls, conjunctions, disjunctions and lists, which read parts one by one
  case h_10 =>
    refine mapM_toLower expr?_toLower (fun es => ?_) made
    rw [Part.toLower, Expr.toLower, Expr.allToLower_eq_map]
  case h_14 =>
    refine mapM_toLower expr?_toLower (fun es => ?_) made
    rw [Part.toLower, connect_toLower]
  case h_15 =>
    refine mapM_toLower expr?_toLower (fun es => ?_) made
    rw [Part.toLower, connect_toLower]
  case h_17 => exact mapM_toLower expr?_toLower (fun _ => rfl) made
  case h_21 => exact mapM_toLower item?_toLower (fun _ => rfl) made
  case h_41 => exact mapM_toLower order?_toLower (fun _ => rfl) made
  -- sources with their joins, and statements with their clauses
  case h_35 =>
    obtain ⟨last, chained, rfl⟩ := Option.map_eq_some_iff.1 made
    exact congrArg (Option.map Part.source) (chain_toLower chained)
  case h_42 =>
    obtain ⟨⟨selection, groupBy, orderBy⟩, found, rfl⟩ := Option.map_eq_some_iff.1 made
    exact congrArg (Option.map _) (clauses?_toLower found)
  -- every other rule has its parts in one shape
  all_goals
    cases made
    try rfl

/-! ### Building in small letters -/

/-- **How building ends in small letters**: with what was built, in small letters, or at the same
integer. Nothing is said of misshapen trees, which no match has. -/
inductive EndsLower {α : Type} (lower : α → α) : Except BuildError α → Except BuildError α → Prop
  | built (a : α) : EndsLower lower (.ok a) (.ok (lower a))
  | integerRange (literal : List Char) :
      EndsLower lower (.error (.integerRange literal)) (.error (.integerRange literal))
  | misshapen (r : Rule) (other : Except BuildError α) : EndsLower lower (.error (.misshapen r)) other

theorem EndsLower.bind {α β : Type} {lower : α → α} {lower' : β → β} {x y : Except BuildError α}
    {next next' : α → Except BuildError β} (first : EndsLower lower x y)
    (second : ∀ a, EndsLower lower' (next a) (next' (lower a))) :
    EndsLower lower' (x >>= next) (y >>= next') := by
  cases first with
  | built a => exact second a
  | integerRange literal => exact .integerRange literal
  | misshapen r => exact .misshapen r _

theorem combine_toLower {r : Rule} {literal : List Char}
    (digital : r = .integer → literal.map Char.toLower = literal) (parts : List Part) :
    EndsLower Part.toLower (combine r literal parts)
      (combine r (literal.map Char.toLower) (parts.map Part.toLower)) := by
  rw [combine, combine, ← significant, ← significant, significant_toLower]
  cases made : combine? r literal (significant parts) with
  | some part =>
    rw [combine?_toLower digital made]
    exact .built part
  | none =>
    by_cases integer : r = .integer
    · have failed : combine? .integer literal ((significant parts).map Part.toLower) = none := by
        rw [integer] at made
        cases kept : significant parts with
        | nil => rwa [kept] at made
        | cons => rfl
      rw [digital integer, integer, failed]
      exact .integerRange literal
    · rw [if_neg integer]
      exact .misshapen r _

/-- Trees are built in small letters as they are. -/
def BuildsLower (nodes : List (Node Rule)) : Prop :=
  EndsLower (List.map Part.toLower) (buildAll nodes) (buildAll (Node.allToLower nodes))

theorem BuildsLower.nil : BuildsLower [] :=
  .built []

theorem BuildsLower.append {xs ys : List (Node Rule)} (first : BuildsLower xs)
    (second : BuildsLower ys) : BuildsLower (xs ++ ys) := by
  rw [BuildsLower, Node.allToLower_append, buildAll_append, buildAll_append]
  refine first.bind fun built => second.bind fun more => ?_
  rw [← List.map_append]
  exact .built (built ++ more)

theorem BuildsLower.node {r : Rule} {literal : List Char} {nodes : List (Node Rule)}
    (digital : r = .integer → literal.map Char.toLower = literal) (position : Nat)
    (inside : BuildsLower nodes) : BuildsLower [.mk r position literal nodes] := by
  rw [BuildsLower, Node.allToLower, Node.allToLower, Node.toLower, buildAll_single, buildAll_single]
  have made := inside.bind (combine_toLower digital)
  exact made.bind fun part => .built [part]

section

variable {r : Rule} {e : Expression Rule} {position : Nat} {s taken rest : List Char}
  {nodes : List (Node Rule)} {outcome : Outcome Rule}

/-- An integer has no letters. -/
theorem integer_toLower (inside : Matches grammar (body .integer) position s (.ok nodes taken rest)) :
    taken.map Char.toLower = taken := by
  have digit (c : Char) (digit : c.isDigit = true) : c.toLower = c := by
    have starts := not_isWordStart_of_isDigit digit
    rw [isWordStart, Bool.or_eq_false_iff] at starts
    exact Text.toLower_of_not_isAlpha starts.1
  have only : (body .integer).TakesOnly fun c => c.toLower = c :=
    ⟨List.forall_mem_singleton.2 rfl, digit, digit⟩
  exact (List.map_congr_left (inside.taken_of_takesOnly rfl only)).trans (List.map_id taken)

/-- **Every match builds in small letters as it does.** -/
theorem matches_buildsLower (derivation : Matches grammar e position s outcome)
    (ends : outcome = .ok nodes taken rest) : BuildsLower nodes := by
  induction derivation generalizing nodes taken rest with
  | @rule r _ _ outcome inside ih =>
    cases outcome with
    | fail => cases ends
    | ok inner text after =>
      cases seen : grammar.visibility r with
      | silent =>
        rw [seen] at ends
        cases ends
        exact ih rfl
      | plain =>
        rw [seen] at ends
        cases ends
        refine .node ?_ _ (ih rfl)
        rintro rfl
        cases seen
      | atomic =>
        rw [seen] at ends
        cases ends
        refine .node ?_ _ .nil
        rintro rfl
        exact integer_toLower inside
  | next _ _ first second =>
    obtain ⟨_, _, rfl, rfl, -⟩ := Outcome.exists_of_after_eq_ok ends
    exact (first rfl).append (second rfl)
  | again _ _ first others =>
    obtain ⟨_, _, rfl, rfl, -⟩ := Outcome.exists_of_after_eq_ok ends
    exact (first rfl).append (others rfl)
  | first _ _ found => exact found ends
  | second _ _ _ other => exact other ends
  | optional _ found => exact found ends
  | _ =>
    cases ends
    try exact .nil

end

/-! ### Reading in small letters -/

/-- **How reading ends in small letters**: with the statement in small letters, or with an error of the
same kind. -/
inductive ReadsLower : Except ParseError Select → Except ParseError Select → Prop
  | read (s : Select) : ReadsLower (.ok s) (.ok s.toLower)
  | rejected (d d' : Diagnostic Rule) : ReadsLower (.error (.rejected d)) (.error (.rejected d'))
  | unbuilt (e e' : BuildError) : ReadsLower (.error (.unbuilt e)) (.error (.unbuilt e'))

/-- **A text is read in small letters as it is.** -/
theorem parse_toLower (text : String) : ReadsLower (parse text) (parse text.toLower) := by
  have ends := grammar.parse_toLower grammar_caseless .query text.toList
  rw [parse, parse, tree, tree, Text.toList_toLower, ends]
  cases found : (grammar.parse .query text.toList).outcome with
  | fail => exact .rejected _ _
  | ok nodes taken rest =>
    have derivation := Grammar.parse_outcome_eq_iff.1 found
    have builds := matches_builds derivation rfl (by decide)
    have lowered := matches_buildsLower derivation rfl
    rw [BuildsLower] at lowered
    dsimp only [Outcome.toLower]
    rw [statement, statement]
    rcases builds with ⟨_, built, s, rfl, -⟩ | ⟨literal, failed⟩
    · rw [built] at lowered
      rw [built]
      generalize buildAll (Node.allToLower nodes) = result at lowered ⊢
      cases lowered
      exact .read s
    · rw [failed] at lowered
      rw [failed]
      generalize buildAll (Node.allToLower nodes) = result at lowered ⊢
      cases lowered
      exact .unbuilt _ _

end RuleQuery.Sql
