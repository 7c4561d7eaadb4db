import RuleQuery.Proofs.Sql.Integers
import RuleQuery.Proofs.Sql.Precedence

/-!
**A text without spare parentheses has no grouping.**

An expression is written with the parentheses of its calls, and those inside its strings. A text
that is read as the expression has at least these. It has no others only if it groups nothing, and
then the expression respects precedence.

* `Part.opens`: the parentheses that a part of a tree is written with;
* `Spare`: what an expression of the grammar leaves, when its text has so many parentheses more;
* `Rule.Balanced`: a rule makes a part with no more parentheses than its text, and an expression
  that fits its place if it has as many (`balanced_of_spare`, `rule_leaves`);
* `matches_leaves`: **so does every match**, by induction over the match;
* `parse_where_text_iff`: the text of an expression is read as it exactly if it respects precedence.
-/

namespace RuleQuery.Sql

open Peg
open Peg.Expression

/-! ### Counting parentheses -/

/-- The number of opening parentheses in a text. -/
def opens (s : List Char) : Nat :=
  s.count '('

@[simp]
theorem opens_append (s t : List Char) : opens (s ++ t) = opens s + opens t :=
  List.count_append

@[simp]
theorem opens_nil : opens [] = 0 := rfl

theorem opens_cons (c : Char) (s : List Char) : opens (c :: s) = opens [c] + opens s := by
  rw [← opens_append, List.singleton_append]

/-- The opening parentheses in the text of an expression. -/
def Expr.opens (e : Expr) : Nat :=
  Sql.opens e.text.toList

/-- The opening parentheses that a part is written with, of a statement those of its condition. -/
def Part.opens : Part → Nat
  | name n => Sql.opens n.toList
  | value v => Sql.opens v.text.toList
  | expr e | selection e => e.opens
  | select s => (s.selection.map Expr.opens).getD 0
  | _ => 0

@[simp]
theorem Part.opens_name (n : String) : (name n).opens = Sql.opens n.toList := rfl

@[simp]
theorem Part.opens_expr (e : Expr) : (expr e).opens = e.opens := rfl

/-- The opening parentheses that parts are written with. -/
def partsOpen : List Part → Nat
  | [] => 0
  | part :: parts => part.opens + partsOpen parts

@[simp]
theorem partsOpen_nil : partsOpen [] = 0 := rfl

@[simp]
theorem partsOpen_cons (part : Part) (parts : List Part) :
    partsOpen (part :: parts) = part.opens + partsOpen parts := rfl

@[simp]
theorem partsOpen_append (xs ys : List Part) :
    partsOpen (xs ++ ys) = partsOpen xs + partsOpen ys := by
  induction xs with
  | nil => rw [List.nil_append, partsOpen_nil, Nat.zero_add]
  | cons part xs ih => rw [List.cons_append, partsOpen_cons, ih, partsOpen_cons, Nat.add_assoc]

namespace Expr

theorem opens_symbol (op : BinOp) : Sql.opens op.symbol.toList = 0 := by
  cases op <;> decide

theorem opens_column (name : String) : (column ⟨none, name⟩).opens = Sql.opens name.toList := rfl

theorem opens_qualified (qualifier name : String) :
    (column ⟨some qualifier, name⟩).opens = Sql.opens qualifier.toList + Sql.opens name.toList := by
  have dot : Sql.opens ".".toList = 0 := by decide
  simp only [opens, text, ColumnRef.text, String.toList_append, opens_append, dot]
  omega

@[simp]
theorem opens_binary (op : BinOp) (left right : Expr) :
    (binary op left right).opens = left.opens + right.opens := by
  have blank : Sql.opens " ".toList = 0 := by decide
  simp only [opens, text, String.toList_append, opens_append, opens_symbol, blank]
  omega

theorem opens_argumentText (args : List Expr) :
    Sql.opens (argumentText args).toList = partsOpen (args.map Part.expr) := by
  induction args with
  | nil => rfl
  | cons arg args ih =>
    cases args with
    | nil => simp [argumentText, opens]
    | cons next args =>
      have comma : Sql.opens ", ".toList = 0 := by decide
      simp only [argumentText, String.toList_append, opens_append, comma]
      rw [ih, List.map_cons]
      rfl

/-- **A call is written with one parenthesis more** than its name and arguments. -/
theorem opens_call (name : String) (args : List Expr) :
    (call name args).opens = Sql.opens name.toList + 1 + partsOpen (args.map Part.expr) := by
  have opening : Sql.opens "(".toList = 1 := by decide
  have closing : Sql.opens ")".toList = 0 := by decide
  simp only [opens, text, String.toList_append, opens_append, opens_argumentText, opening, closing]
  omega

theorem opens_connect (op : BinOp) (first : Expr) (others : List Expr) :
    (connect op first others).opens = first.opens + partsOpen (others.map Part.expr) := by
  induction others generalizing first with
  | nil => rfl
  | cons e others ih =>
    have step : connect op first (e :: others) = connect op (binary op first e) others := rfl
    rw [step, ih, opens_binary, List.map_cons, partsOpen_cons, Part.opens_expr, Nat.add_assoc]

end Expr

/-- Reserved words have no parentheses. -/
theorem partsOpen_significant (parts : List Part) :
    partsOpen (significant parts) = partsOpen parts := by
  induction parts with
  | nil => rfl
  | cons part parts ih =>
    cases separates : part.isSeparator with
    | false =>
      rw [significant, List.filter_cons_of_pos (by simp [separates]), partsOpen_cons, ih,
        partsOpen_cons]
    | true =>
      have none : part.opens = 0 := by
        cases part with
        | keyword => rfl
        | _ => cases separates
      rw [significant, List.filter_cons_of_neg (by simp [separates]), ih, partsOpen_cons, none]
      omega

/-! ### Expressions that fit their places -/

namespace Expr.FitsAt

variable {level place : Level} {e left right : Expr}

theorem loosen (fits : e.FitsAt level) (looser : place.tightness ≤ level.tightness) :
    e.FitsAt place :=
  ⟨Nat.le_trans looser fits.tight, fits.inside⟩

theorem compare {op : BinOp} (sign : op ≠ .and ∧ op ≠ .or) (first : left.FitsAt .primary)
    (second : right.FitsAt .primary) : (binary op left right).FitsAt .comparison := by
  have primary {e : Expr} (fits : e.FitsAt .primary) : e.level = .primary := by
    have tight := fits.tight
    cases level : e.level <;> simp_all [Level.tightness]
  refine ⟨Nat.le_of_eq ?_, .compare sign (primary first) (primary second) first.inside second.inside⟩
  rw [Expr.level_compare sign]

end Expr.FitsAt

namespace Connective

variable {op : BinOp} {k : Keyword} {inner outer : Level} {left right : Expr}

/-- Operands that fit under a connective. -/
theorem fitsAt_binary (connective : Connective op k inner outer) (first : left.FitsAt outer)
    (second : right.FitsAt inner) : (Expr.binary op left right).FitsAt outer := by
  have leftTight := first.tight
  have rightTight := second.tight
  cases connective with
  | and =>
    refine ⟨Nat.le_refl _, .and ?_ ⟨?_, ?_⟩ first.inside second.inside⟩
    · intro same
      rw [same] at leftTight
      exact absurd leftTight (by decide)
    · intro same
      rw [same] at rightTight
      exact absurd rightTight (by decide)
    · intro same
      rw [same] at rightTight
      exact absurd rightTight (by decide)
  | or =>
    refine ⟨Nat.le_refl _, .or ?_ first.inside second.inside⟩
    intro same
    rw [same] at rightTight
    exact absurd rightTight (by decide)

theorem fitsAt_connect (connective : Connective op k inner outer) {first : Expr}
    {others : List Expr} (fits : first.FitsAt outer) (each : ∀ e ∈ others, e.FitsAt inner) :
    (connect op first others).FitsAt outer := by
  induction others generalizing first with
  | nil => exact fits
  | cons e others ih =>
    rw [List.forall_mem_cons] at each
    exact ih (connective.fitsAt_binary fits each.1) each.2

end Connective

/-! ### Spare parentheses -/

/-- **The part fits its place**: an expression the level of its rule, a condition any place. -/
def Rule.Tight : Rule → Part → Prop
  | .cmpOp, .op op => op ≠ .and ∧ op ≠ .or
  | .literal, .expr e | .colRef, .expr e | .funcCall, .expr e | .primary, .expr e =>
    e.FitsAt .primary
  | .cmpExpr, .expr e => e.FitsAt .comparison
  | .andExpr, .expr e => e.FitsAt .and
  | .orExpr, .expr e | .expr, .expr e | .star, .expr e => e.FitsAt .or
  | .whereClause, .selection e => e.FitsAt .or
  | .selectStmt, .select s | .query, .select s => ∀ e ∈ s.selection, e.FitsAt .or
  | _, _ => True

/-- **The parts that a match of an expression leaves, when its text has so many parentheses more
than they are written with.** Where none is spare, they fit their places. -/
def Spare : Expression Rule → Nat → List Part → Prop
  | .start, _, parts | .gap, _, parts | .word _, _, parts | .char _, _, parts
  | .absent _, _, parts => parts = []
  | .text w, spare, parts => parts = [] ∧ opens w ≤ spare
  | .rule r, spare, parts => r.Gives parts ∧ (spare = 0 → ∀ part ∈ parts, r.Tight part)
  | .next a b, spare, parts => ∃ i j xs ys, i + j ≤ spare ∧ parts = xs ++ ys ∧ Spare a i xs ∧
      Spare b j ys
  | .choice a b, spare, parts => Spare a spare parts ∨ Spare b spare parts
  | .optional a, spare, parts => parts = [] ∨ Spare a spare parts
  | .many a, spare, parts => ∃ groups : List (List Part), parts = groups.flatten ∧
      ∀ group ∈ groups, Spare a spare group

namespace Spare

variable {a b : Expression Rule} {es : List (Expression Rule)} {i spare : Nat} {parts : List Part}

theorem mono {e : Expression Rule} (spares : Spare e i parts) (le : i ≤ spare) :
    Spare e spare parts := by
  induction e generalizing i spare parts with
  | text w => exact ⟨spares.1, Nat.le_trans spares.2 le⟩
  | rule r => exact ⟨spares.1, fun none => spares.2 (by omega)⟩
  | next a b =>
    obtain ⟨i, j, xs, ys, fits, rest⟩ := spares
    exact ⟨i, j, xs, ys, Nat.le_trans fits le, rest⟩
  | choice a b first second =>
    exact spares.imp (fun found => first found le) fun found => second found le
  | optional a inside => exact spares.imp_right fun found => inside found le
  | many a inside =>
    obtain ⟨groups, all, each⟩ := spares
    exact ⟨groups, all, fun group member => inside (each group member) le⟩
  | _ => exact spares

theorem spaced (spares : Spare (spaced (a :: b :: es)) spare parts) :
    ∃ i j xs ys, i + j ≤ spare ∧ parts = xs ++ ys ∧ Spare a i xs ∧
      Spare (spaced (b :: es)) j ys := by
  obtain ⟨i, j, xs, _, fits, rfl, first, k, l, _, ys, fits', rfl, rfl, others⟩ := spares
  exact ⟨i, l, xs, ys, by omega, rfl, first, others⟩

theorem repeated (spares : Spare (repeated a) spare parts) :
    ∃ groups : List (List Part), parts = groups.flatten ∧
      ∀ group ∈ groups, Spare a spare group := by
  rcases spares with rfl | ⟨i, j, xs, _, fits, rfl, first, groups, rfl, others⟩
  · exact ⟨[], rfl, by simp⟩
  · refine ⟨xs :: groups, rfl, List.forall_mem_cons.2 ⟨first.mono (by omega), ?_⟩⟩
    intro group member
    obtain ⟨k, l, _, _, fits', rfl, rfl, found⟩ := others group member
    exact found.mono (by omega)

/-- Expressions with a sign or a reserved word before each. -/
theorem exprs {separator : Expression Rule} {r : Rule}
    (spares : Spare (.repeated (.spaced [separator, .rule r])) spare parts)
    (hidden : ∀ i xs, Spare separator i xs → significant xs = [])
    (single : ∀ ys, r.Gives ys → ∃ e, ys = [.expr e] ∧ e.WellFormed) :
    ∃ es : List Expr, significant parts = es.map Part.expr ∧
      ∀ e ∈ es, spare = 0 → r.Tight (.expr e) := by
  obtain ⟨groups, rfl, each⟩ := spares.repeated
  apply exists_map_of_groups Part.expr
  intro group member
  obtain ⟨i, j, xs, ys, fits, rfl, before, gives, tight⟩ := (each group member).spaced
  obtain ⟨e, rfl, -⟩ := single ys gives
  refine ⟨e, ?_, fun none => tight (by omega) _ List.mem_cons_self⟩
  have none := hidden i xs before
  rw [significant] at none
  rw [significant, List.filter_append, none]
  rfl

end Spare

/-- **The part has no more parentheses than the text of its rule**, and fits its place if it has as
many. -/
def Rule.Balanced (r : Rule) (textOpens : Nat) (part : Part) : Prop :=
  part.opens ≤ textOpens ∧ (part.opens = textOpens → r.Tight part)

/-! ### Rules of expressions -/

section Rules

variable {spare : Nat} {parts : List Part} {part : Part} {text : List Char}

theorem tight_rule (level : Level) (e : Expr) : level.rule.Tight (.expr e) = e.FitsAt level := by
  cases level <;> rfl

theorem colRef_balanced (spares : Spare (body .colRef) spare parts)
    (made : combine? .colRef text (significant parts) = some part) :
    Rule.colRef.Balanced (partsOpen parts + spare) part := by
  obtain ⟨_, _, _, _, -, rfl, ⟨⟨name, rfl, -⟩, -⟩, rfl | others⟩ := spares.spaced
  · cases (made : some (Part.expr (.column ⟨none, name⟩)) = some part)
    exact ⟨by simp [Expr.opens_column], fun _ => ⟨Nat.le_refl _, .column _⟩⟩
  · obtain ⟨_, _, _, _, -, rfl, ⟨rfl, -⟩, ⟨column, rfl, -⟩, -⟩ := others.spaced
    cases (made : some (Part.expr (.column ⟨some name, column⟩)) = some part)
    exact ⟨by simp [Expr.opens_qualified], fun _ => ⟨Nat.le_refl _, .column _⟩⟩

theorem literal_balanced (spares : Spare (body .literal) spare parts)
    (made : combine? .literal text (significant parts) = some part) :
    Rule.literal.Balanced (partsOpen parts + spare) part := by
  have single : ∃ v, parts = [.value v] := by
    rcases spares with ⟨gives, -⟩ | ⟨gives, -⟩ <;> exact gives
  obtain ⟨v, rfl⟩ := single
  cases (made : some (Part.expr (.literal v)) = some part)
  have same : (Part.expr (.literal v)).opens = (Part.value v).opens := rfl
  exact ⟨by simp [same], fun _ => ⟨Nat.le_refl _, .literal v⟩⟩

/-- The arguments of a call, which respect precedence where no parenthesis is spare. -/
theorem arguments_of_spare (spares : Spare arguments spare parts) :
    ∃ es : List Expr, significant parts = es.map Part.expr ∧
      (spare = 0 → ∀ e ∈ es, e.RespectsPrecedence) := by
  rcases spares with rfl | ⟨rfl, -⟩ | list
  · exact ⟨[], rfl, fun _ => nofun⟩
  · exact ⟨[.wildcard], rfl, fun _ => List.forall_mem_singleton.2 .wildcard⟩
  · obtain ⟨i, j, _, rest, fits, rfl, ⟨⟨e, rfl, -⟩, tight⟩, others⟩ := list.spaced
    obtain ⟨es, found, tightOthers⟩ :=
      others.exprs (by rintro _ _ ⟨rfl, -⟩; rfl) (fun _ gives => gives)
    refine ⟨e :: es, ?_, fun none => List.forall_mem_cons.2 ⟨?_, fun arg member => ?_⟩⟩
    · show Part.expr e :: significant rest = _
      rw [found]
      rfl
    · exact (tight (by omega) _ List.mem_cons_self : e.FitsAt .or).inside
    · exact (tightOthers arg member (by omega) : arg.FitsAt .or).inside

/-- **A call spends one parenthesis** of its text. -/
theorem funcCall_balanced (spares : Spare (body .funcCall) spare parts)
    (made : combine? .funcCall text (significant parts) = some part) :
    Rule.funcCall.Balanced (partsOpen parts + spare) part := by
  obtain ⟨_, _, _, _, outer, rfl, ⟨⟨name, rfl, -⟩, -⟩, afterName⟩ := spares.spaced
  obtain ⟨_, _, _, _, middle, rfl, ⟨rfl, spent⟩, afterOpen⟩ := afterName.spaced
  obtain ⟨_, _, args, _, inner, rfl, given, rfl, -⟩ := afterOpen.spaced
  obtain ⟨es, found, respect⟩ := arguments_of_spare given
  have one : opens ['('] = 1 := by decide
  rw [one] at spent
  have same : combine? .funcCall text (.name name :: significant (args ++ [])) = some part := made
  rw [List.append_nil, found, combine?_call] at same
  cases same
  have total : partsOpen args = partsOpen (es.map Part.expr) := by
    rw [← partsOpen_significant, found]
  have call : (Part.expr (.call name es)).opens =
      opens name.toList + 1 + partsOpen (es.map Part.expr) := Expr.opens_call name es
  have parts : partsOpen ([.name name] ++ ([] ++ (args ++ []))) =
      opens name.toList + partsOpen (es.map Part.expr) := by
    simp [total, Part.opens]
  rw [parts]
  refine ⟨by omega, fun equal => ⟨Nat.le_refl _, .call name (respect (by omega))⟩⟩

/-- A primary expression fits its place where no parenthesis is spare: grouping takes one. -/
theorem primary_tight (spares : Spare (body .primary) spare parts) (none : spare = 0) :
    ∀ part ∈ parts, Rule.primary.Tight part := by
  have same (r : Rule) (equal : ∀ e, r.Tight (.expr e) = e.FitsAt .primary)
      (gives : ∃ e, parts = [.expr e] ∧ e.WellFormed) (tight : ∀ part ∈ parts, r.Tight part) :
      ∀ part ∈ parts, Rule.primary.Tight part := by
    obtain ⟨e, rfl, -⟩ := gives
    have fits := tight _ List.mem_cons_self
    rw [equal] at fits
    exact List.forall_mem_singleton.2 fits
  rcases spares with ⟨gives, tight⟩ | ⟨gives, tight⟩ | ⟨gives, tight⟩ | grouped
  · exact same .funcCall (fun _ => rfl) gives (tight none)
  · exact same .colRef (fun _ => rfl) gives (tight none)
  · exact same .literal (fun _ => rfl) gives (tight none)
  · -- No part is written with the parenthesis of a group, so that it is spare.
    obtain ⟨_, _, _, _, outer, rfl, ⟨rfl, spent⟩, -⟩ := grouped.spaced
    have one : opens ['('] = 1 := by decide
    omega

theorem cmpOp_balanced (spares : Spare (body .cmpOp) spare parts)
    (made : combine? .cmpOp text (significant parts) = some part) :
    Rule.cmpOp.Balanced (partsOpen parts + spare) part := by
  have none : parts = [] := by
    rcases spares with ⟨rfl, -⟩ | ⟨rfl, -⟩ | ⟨rfl, -⟩ | ⟨rfl, -⟩ | ⟨rfl, -⟩ | ⟨rfl, -⟩ | ⟨rfl, -⟩ <;>
      rfl
  rw [none] at made ⊢
  obtain ⟨op, found, rfl⟩ :=
    Option.map_eq_some_iff.1 (made : (comparison? text).map Part.op = some part)
  refine ⟨Nat.zero_le _, fun _ => ?_⟩
  unfold comparison? at found
  grind [Rule.Tight]

theorem cmpExpr_balanced (spares : Spare (body .cmpExpr) spare parts)
    (made : combine? .cmpExpr text (significant parts) = some part) :
    Rule.cmpExpr.Balanced (partsOpen parts + spare) part := by
  obtain ⟨_, _, _, _, outer, rfl, ⟨⟨left, rfl, -⟩, leftTight⟩, rfl | others⟩ := spares.spaced
  · cases (made : some (Part.expr left) = some part)
    refine ⟨by simp, fun equal => ?_⟩
    have none : spare = 0 := by simpa using equal
    have fits : left.FitsAt .primary := leftTight (by omega) _ List.mem_cons_self
    exact fits.loosen (by decide)
  · obtain ⟨_, _, _, _, inner, rfl, ⟨⟨op, rfl⟩, opTight⟩, ⟨right, rfl, -⟩, rightTight⟩ :=
      others.spaced
    cases (made : some (Part.expr (.binary op left right)) = some part)
    have word : (Part.op op).opens = 0 := rfl
    refine ⟨by simp [word], fun equal => ?_⟩
    have none : spare = 0 := by simpa [word] using equal
    have sign : op ≠ .and ∧ op ≠ .or := opTight (by omega) _ List.mem_cons_self
    have first : left.FitsAt .primary := leftTight (by omega) _ List.mem_cons_self
    have second : right.FitsAt .primary := rightTight (by omega) _ List.mem_cons_self
    exact .compare sign first second

/-- **Operands under a connective** fit their places where no parenthesis is spare. -/
theorem connective_balanced {op : BinOp} {k : Keyword} {inner outer : Level}
    (connective : Connective op k inner outer) (spares : Spare (body outer.rule) spare parts)
    (made : combine? outer.rule text (significant parts) = some part) :
    outer.rule.Balanced (partsOpen parts + spare) part := by
  have looser : outer.tightness ≤ inner.tightness := by cases connective <;> decide
  have operands :
      Spare (spaced [rule inner.rule, repeated (spaced [rule (.word k), rule inner.rule])])
        spare parts := by cases connective <;> exact spares
  have single (ys : List Part) (gives : inner.rule.Gives ys) :
      ∃ e, ys = [.expr e] ∧ e.WellFormed := by
    cases connective <;> exact gives
  have hidden (i : Nat) (xs : List Part) (word : Spare (rule (.word k)) i xs) :
      significant xs = [] := by
    obtain ⟨rfl, -⟩ := word
    cases connective <;> rfl
  obtain ⟨_, _, _, rest, fits, rfl, ⟨gives, tight⟩, others⟩ := operands.spaced
  obtain ⟨e, rfl, -⟩ := single _ gives
  obtain ⟨es, found, tightOthers⟩ := others.exprs hidden single
  have whole : combine? outer.rule text (.expr e :: es.map Part.expr) = some part := by
    rw [← found]
    exact made
  have same : part = .expr (connect op e es) := by
    cases connective with
    | and => exact Option.some.inj (whole.symm.trans (combine?_and text e es))
    | or => exact Option.some.inj (whole.symm.trans (combine?_or text e es))
  have total : partsOpen rest = partsOpen (es.map Part.expr) := by
    rw [← partsOpen_significant, found]
  subst same
  refine ⟨by simp [Expr.opens_connect, total], fun equal => ?_⟩
  have none : spare = 0 := by simpa [Expr.opens_connect, total] using equal
  rw [tight_rule]
  apply connective.fitsAt_connect
  · have first := tight (by omega) _ List.mem_cons_self
    rw [tight_rule] at first
    exact first.loosen looser
  · intro x member
    rw [← tight_rule]
    exact tightOthers x member (by omega)

theorem expr_balanced (spares : Spare (body .expr) spare parts)
    (made : combine? .expr text (significant parts) = some part) :
    Rule.expr.Balanced (partsOpen parts + spare) part := by
  obtain ⟨⟨e, rfl, -⟩, tight⟩ := spares
  cases (made : some (Part.expr e) = some part)
  refine ⟨by simp, fun equal => tight ?_ _ List.mem_cons_self⟩
  simpa using equal

/-! ### Rules of statements -/

theorem whereClause_balanced (spares : Spare (body .whereClause) spare parts)
    (made : combine? .whereClause text (significant parts) = some part) :
    Rule.whereClause.Balanced (partsOpen parts + spare) part := by
  obtain ⟨_, _, _, _, fits, rfl, ⟨rfl, -⟩, ⟨e, rfl, -⟩, tight⟩ := spares.spaced
  cases (made : some (Part.selection e) = some part)
  have same : (Part.selection e).opens = e.opens := rfl
  have word : (Part.keyword .WHERE).opens = 0 := rfl
  refine ⟨by simp [same, word], fun equal => ?_⟩
  have none : spare = 0 := by simpa [same, word] using equal
  exact tight (by omega) _ List.mem_cons_self

/-- The clauses of a statement, whose condition fits where no parenthesis is spare. -/
theorem clauses_of_spare (spares : Spare (spaced [optional (rule .whereClause),
      optional (rule .groupByClause), optional (rule .orderByClause)]) spare parts) :
    ∃ selection groupBy orderBy, clauses? (significant parts) = some (selection, groupBy, orderBy) ∧
      partsOpen parts = (selection.map Expr.opens).getD 0 ∧
      (spare = 0 → ∀ e ∈ selection, e.FitsAt .or) := by
  obtain ⟨i, _, first, _, fits, rfl, filtered, others⟩ := spares.spaced
  obtain ⟨_, _, second, third, -, rfl, grouped, ordered⟩ := others.spaced
  have hasSelection : ∃ selection : Option Expr, first = (selection.map Part.selection).toList ∧
      (i = 0 → ∀ e ∈ selection, e.FitsAt .or) := by
    rcases filtered with rfl | ⟨⟨e, rfl, -⟩, tight⟩
    · exact ⟨none, rfl, fun _ => nofun⟩
    · refine ⟨some e, rfl, fun none => ?_⟩
      rintro _ ⟨⟩
      exact tight none _ List.mem_cons_self
  have hasGroups : ∃ groupBy : Option (List Expr), second = (groupBy.map Part.groupBy).toList := by
    rcases grouped with rfl | ⟨⟨keys, rfl, -⟩, -⟩
    · exact ⟨none, rfl⟩
    · exact ⟨some keys, rfl⟩
  have hasOrder : ∃ orderBy : Option (List OrderItem),
      third = (orderBy.map Part.orderBy).toList := by
    rcases ordered with rfl | ⟨⟨items, rfl, -⟩, -⟩
    · exact ⟨none, rfl⟩
    · exact ⟨some items, rfl⟩
  obtain ⟨selection, rfl, tight⟩ := hasSelection
  obtain ⟨groupBy, rfl⟩ := hasGroups
  obtain ⟨orderBy, rfl⟩ := hasOrder
  refine ⟨selection, groupBy, orderBy.getD [], ?_, ?_, fun none => tight (by omega)⟩
  · show clauses? (significant (clauseParts selection groupBy orderBy)) = _
    rw [significant_clauseParts, clauses?_clauseParts]
  · cases selection <;> cases groupBy <;> cases orderBy <;> rfl

theorem selectStmt_balanced (spares : Spare (body .selectStmt) spare parts)
    (made : combine? .selectStmt text (significant parts) = some part) :
    Rule.selectStmt.Balanced (partsOpen parts + spare) part := by
  obtain ⟨_, _, _, _, first, rfl, ⟨rfl, -⟩, afterSelect⟩ := spares.spaced
  obtain ⟨_, _, _, _, second, rfl, ⟨⟨items, rfl, -⟩, -⟩, afterItems⟩ := afterSelect.spaced
  obtain ⟨_, _, _, _, third, rfl, ⟨rfl, -⟩, afterFrom⟩ := afterItems.spaced
  obtain ⟨_, _, _, clauses, fourth, rfl, ⟨⟨source, rfl, -⟩, -⟩, afterSource⟩ := afterFrom.spaced
  obtain ⟨selection, groupBy, orderBy, found, total, tight⟩ := clauses_of_spare afterSource
  have same : combine? .selectStmt text (.items items :: .source source :: significant clauses) =
      some (.select ⟨items, source, selection, groupBy, orderBy⟩) := by
    show (clauses? (significant clauses)).map _ = _
    rw [found]
    rfl
  obtain rfl : Part.select ⟨items, source, selection, groupBy, orderBy⟩ = part :=
    Option.some.inj (same.symm.trans made)
  have whole : (Part.select ⟨items, source, selection, groupBy, orderBy⟩).opens =
      partsOpen clauses := total.symm
  have parts : partsOpen ([.keyword .SELECT] ++ ([.items items] ++ ([.keyword .FROM] ++
      ([.source source] ++ clauses)))) = partsOpen clauses := by
    simp [Part.opens]
  rw [parts]
  exact ⟨by omega, fun equal => tight (by omega)⟩

theorem query_balanced (spares : Spare (body .query) spare parts)
    (made : combine? .query text (significant parts) = some part) :
    Rule.query.Balanced (partsOpen parts + spare) part := by
  obtain ⟨_, _, _, _, outer, rfl, rfl, whole⟩ := spares.spaced
  obtain ⟨_, _, _, _, inner, rfl, ⟨⟨s, rfl, -⟩, tight⟩, afterStatement⟩ := whole.spaced
  obtain ⟨_, _, ends, _, -, rfl, closing, ⟨rfl, -⟩⟩ := afterStatement.spaced
  have none : ends = [] := by
    rcases closing with rfl | ⟨rfl, -⟩ <;> rfl
  subst none
  cases (made : some (Part.select s) = some part)
  have finish : Part.finish.opens = 0 := rfl
  refine ⟨by simp [finish], fun equal => ?_⟩
  have none : spare = 0 := by simpa [finish] using equal
  exact tight (by omega) _ List.mem_cons_self

/-! ### All rules -/

theorem star_balanced (spares : Spare (body .star) spare parts)
    (made : combine? .star text (significant parts) = some part) (textOpens : Nat) :
    Rule.star.Balanced textOpens part := by
  obtain ⟨rfl, -⟩ := spares
  cases (made : some (Part.expr .wildcard) = some part)
  have none : Expr.wildcard.opens = 0 := by decide
  exact ⟨by simp [none], fun _ => ⟨Nat.zero_le _, .wildcard⟩⟩

/-- **A rule with a node of its own makes a balanced part.** -/
theorem balanced_of_spare {r : Rule} (seen : visibility r = .plain) (gives : r.Gives [part])
    (spares : Spare (body r) spare parts)
    (made : combine? r text (significant parts) = some part) :
    r.Balanced (partsOpen parts + spare) part := by
  cases r with
  | query => exact query_balanced spares made
  | selectStmt => exact selectStmt_balanced spares made
  | whereClause => exact whereClause_balanced spares made
  | expr => exact expr_balanced spares made
  | orExpr => exact connective_balanced .or spares made
  | andExpr => exact connective_balanced .and spares made
  | cmpExpr => exact cmpExpr_balanced spares made
  | cmpOp => exact cmpOp_balanced spares made
  | funcCall => exact funcCall_balanced spares made
  | star => exact star_balanced spares made _
  | colRef => exact colRef_balanced spares made
  | literal => exact literal_balanced spares made
  | endOfInput | wildcard =>
    cases gives
    exact ⟨Nat.zero_le _, fun _ => trivial⟩
  | innerJoin | leftJoin | rightJoin | fullJoin | crossJoin | commaJoin | joinOp =>
    obtain ⟨kind, same⟩ := gives
    cases same
    exact ⟨Nat.zero_le _, fun _ => trivial⟩
  | joinTail =>
    obtain ⟨tail, same, formed⟩ := gives
    cases same
    cases part with
    | tail => exact ⟨Nat.zero_le _, fun _ => trivial⟩
    | _ => exact formed.elim
  | selectList | selectItem | exprList | fromClause | relation | tableRef | subquery | groupByClause
  | orderByClause | orderItem =>
    obtain ⟨_, same, -⟩ := gives
    cases same
    exact ⟨Nat.zero_le _, fun _ => trivial⟩
  | blank | comment | identChar | primary | keyword | word | ident | integer | string => cases seen

end Rules

/-! ### Words -/

theorem opens_doubleQuotes (s : List Char) : opens (doubleQuotes s) = opens s := by
  induction s with
  | nil => rfl
  | cons c s ih =>
    by_cases quote : c = '\''
    · rw [quote, doubleQuotes_cons_quote, opens_cons, opens_cons _ (doubleQuotes s), opens_cons _ s,
        ih]
      have none : opens ['\''] = 0 := by decide
      omega
    · rw [doubleQuotes_cons quote, opens_cons, ih, ← opens_cons]

/-- A string has some of the characters of its text, in their order. -/
theorem undoubleQuotes_sublist (s : List Char) : (undoubleQuotes s).Sublist s := by
  induction s using undoubleQuotes.induct with
  | case1 rest ih => exact (ih.cons_cons '\'').cons '\''
  | case2 c rest other ih =>
    rw [undoubleQuotes.eq_2 c rest other]
    exact ih.cons_cons c
  | case3 => exact .slnil

/-- The parentheses inside a string come from its text. -/
theorem opens_stringValue_le (literal : List Char) :
    (Part.value (.string (stringValue literal))).opens ≤ opens literal := by
  have quote : opens "'".toList = 0 := by decide
  have inside : opens (undoubleQuotes (literal.drop 1).dropLast) ≤ opens literal :=
    ((undoubleQuotes_sublist _).trans
      ((List.dropLast_sublist _).trans (List.drop_sublist 1 literal))).count_le _
  simp only [Part.opens, Value.text, stringValue, String.toList_append, String.toList_ofList,
    opens_append, opens_doubleQuotes, quote]
  omega

/-- An integer has no parentheses. -/
theorem opens_int (i : Int64) : (Part.value (.int i)).opens = 0 := by
  have digits : opens (Nat.toDigits 10 i.toInt.natAbs) = 0 := by
    refine List.count_eq_zero.2 fun member => ?_
    exact absurd (Nat.isDigit_of_mem_toDigits (by decide) (by decide) member) (by decide)
  have minus : opens ['-'] = 0 := by decide
  show opens (String.ofList (Text.decimal i.toInt)).toList = 0
  rw [String.toList_ofList, Text.decimal]
  split
  · rw [opens_cons, minus, digits]
  · exact digits

/-- **A word has no more parentheses than its text.** -/
theorem opens_le_of_atomic {r : Rule} {text : List Char} {part : Part}
    (seen : visibility r = .atomic) (kept : r ≠ .keyword) (made : combine? r text [] = some part) :
    part.opens ≤ opens text := by
  cases r with
  | keyword => exact absurd rfl kept
  | word k =>
    cases (made : some (Part.keyword k) = some part)
    exact Nat.zero_le _
  | ident =>
    cases (made : some (Part.name (String.ofList text)) = some part)
    refine Nat.le_of_eq ?_
    rw [Part.opens_name, String.toList_ofList]
  | string =>
    cases (made : some (Part.value (.string (stringValue text))) = some part)
    exact opens_stringValue_le text
  | integer =>
    have read : (integer? text).map (fun i => Part.value (.int i)) = some part := made
    obtain ⟨i, -, rfl⟩ := Option.map_eq_some_iff.1 read
    rw [opens_int]
    exact Nat.zero_le _
  | _ => cases seen

/-- A word fits every place. -/
theorem tight_of_atomic {r : Rule} (seen : visibility r = .atomic) (part : Part) :
    r.Tight part := by
  cases r with
  | keyword | word | ident | integer | string => trivial
  | _ => cases seen

/-! ### Matches -/

section Matches

variable {r : Rule} {e : Expression Rule} {position : Nat} {s text rest : List Char}
  {nodes nodes' : List (Node Rule)} {parts : List Part}

theorem exists_of_buildAll_append (built : buildAll (nodes ++ nodes') = .ok parts) :
    ∃ xs ys, buildAll nodes = .ok xs ∧ buildAll nodes' = .ok ys ∧ parts = xs ++ ys := by
  rw [buildAll_append] at built
  cases first : buildAll nodes with
  | error => rw [first] at built; cases built
  | ok xs =>
    cases second : buildAll nodes' with
    | error => rw [first, second] at built; cases built
    | ok ys =>
      rw [first, second] at built
      cases built
      exact ⟨xs, ys, rfl, rfl, rfl⟩

theorem exists_of_buildAll_single (built : buildAll [.mk r position text nodes] = .ok parts) :
    ∃ inner part, buildAll nodes = .ok inner ∧ combine? r text (significant inner) = some part ∧
      parts = [part] := by
  rw [buildAll_single] at built
  cases below : buildAll nodes with
  | error => rw [below] at built; cases built
  | ok inner =>
    rw [below] at built
    cases made : combine? r text (significant inner) with
    | none =>
      have failed : (combine r text inner >>= fun part => .ok [part]) = .ok parts := built
      rw [combine, made] at failed
      cases failed
    | some part =>
      have found : (combine r text inner >>= fun part => .ok [part]) = .ok parts := built
      rw [combine, made] at found
      cases found
      exact ⟨inner, part, rfl, made, rfl⟩

/-- **What a match leaves, with the parentheses that its text has to spare.** -/
def Leaves (e : Expression Rule) (text : List Char) (parts : List Part) : Prop :=
  ∃ spare, opens text = partsOpen parts + spare ∧ Spare e spare parts

/-- A balanced part is left by its rule. -/
theorem leaves_of_balanced {part : Part} (gives : r.Gives [part])
    (balanced : r.Balanced (opens text) part) : Leaves (.rule r) text [part] := by
  refine ⟨opens text - part.opens, ?_, gives, fun none => List.forall_mem_singleton.2 ?_⟩
  · have bound := balanced.1
    simp
    omega
  · exact balanced.2 (by have bound := balanced.1; omega)

/-- A call leaves what its rule makes, if the body leaves what it should. -/
theorem rule_leaves {outcome : Outcome Rule} {taken : List Char} (kept : r ≠ .keyword)
    (inside : Matches grammar (body r) position s outcome)
    (below : ∀ inner taken rest parts, outcome = .ok inner taken rest → buildAll inner = .ok parts →
      Leaves (body r) taken parts)
    (ends : outcome.close r position (visibility r) = .ok nodes taken rest)
    (built : buildAll nodes = .ok parts) : Leaves (.rule r) taken parts := by
  have gives : r.Gives parts := by
    have builds := matches_builds (.rule inside) ends
      (fun member => kept (List.mem_singleton.1 member).symm)
    rcases builds with ⟨parts', built', gives⟩ | ⟨literal, failed⟩
    · rw [built] at built'
      cases built'
      exact gives
    · rw [built] at failed
      cases failed
  cases outcome with
  | fail => cases ends
  | ok inner taken' rest' =>
    cases seen : visibility r with
    | silent =>
      rw [seen] at ends
      cases ends
      obtain ⟨spare, total, spares⟩ := below _ _ _ parts rfl built
      refine ⟨spare, total, gives, fun none => ?_⟩
      cases r with
      | primary => exact primary_tight spares none
      | blank => cases gives; exact nofun
      | identChar => cases gives; exact nofun
      | comment => cases gives; exact nofun
      | _ => cases seen
    | plain =>
      rw [seen] at ends
      cases ends
      obtain ⟨_, part, built', made, rfl⟩ := exists_of_buildAll_single built
      obtain ⟨spare, total, spares⟩ := below _ _ _ _ rfl built'
      apply leaves_of_balanced gives
      rw [total]
      exact balanced_of_spare seen gives spares made
    | atomic =>
      rw [seen] at ends
      cases ends
      obtain ⟨_, part, built', made, rfl⟩ := exists_of_buildAll_single built
      cases built'
      apply leaves_of_balanced gives
      exact ⟨opens_le_of_atomic seen kept made, fun _ => tight_of_atomic seen part⟩

/-- **Every match leaves parts with the parentheses of its text**, apart from those to spare. -/
theorem matches_leaves {outcome : Outcome Rule} (derivation : Matches grammar e position s outcome)
    (ends : outcome = .ok nodes text rest) (kept : Rule.keyword ∉ e.calls)
    (built : buildAll nodes = .ok parts) : Leaves e text parts := by
  induction derivation generalizing nodes text rest parts with
  | start => cases ends; cases built; exact ⟨0, rfl, rfl⟩
  | gap => cases ends; cases built; exact ⟨_, (Nat.zero_add _).symm, rfl⟩
  | text found =>
    cases ends
    cases built
    rw [(takeLike_beq_eq_some_iff.1 found).1]
    exact ⟨_, (Nat.zero_add _).symm, rfl, Nat.le_refl _⟩
  | word => cases ends; cases built; exact ⟨_, (Nat.zero_add _).symm, rfl⟩
  | char => cases ends; cases built; exact ⟨_, (Nat.zero_add _).symm, rfl⟩
  | absent => cases ends; cases built; exact ⟨0, rfl, rfl⟩
  | rule inside ih =>
    refine rule_leaves (fun same => kept (List.mem_singleton.2 same.symm)) inside ?_ ends built
    intro inner taken rest parts ends built
    exact ih ends (keyword_notMem_calls _) built
  | next _ _ first second =>
    rw [calls, List.mem_append, not_or] at kept
    obtain ⟨nodes', taken', rfl, rfl, rfl⟩ := Outcome.exists_of_after_eq_ok ends
    obtain ⟨xs, ys, firstBuilt, secondBuilt, rfl⟩ := exists_of_buildAll_append built
    obtain ⟨i, total, spares⟩ := first rfl kept.1 firstBuilt
    obtain ⟨j, total', spares'⟩ := second rfl kept.2 secondBuilt
    -- A sequence has to spare what its parts have: none of them has any if the whole has none.
    refine ⟨i + j, ?_, i, j, xs, ys, Nat.le_refl _, rfl, spares, spares'⟩
    rw [opens_append, partsOpen_append]
    omega
  | first _ _ found =>
    rw [calls, List.mem_append, not_or] at kept
    obtain ⟨spare, total, spares⟩ := found ends kept.1 built
    exact ⟨spare, total, .inl spares⟩
  | second _ _ _ other =>
    rw [calls, List.mem_append, not_or] at kept
    obtain ⟨spare, total, spares⟩ := other ends kept.2 built
    exact ⟨spare, total, .inr spares⟩
  | optional _ found =>
    obtain ⟨spare, total, spares⟩ := found ends kept built
    exact ⟨spare, total, .inr spares⟩
  | skip => cases ends; cases built; exact ⟨0, rfl, .inl rfl⟩
  | again _ _ first others =>
    obtain ⟨nodes', taken', rfl, rfl, rfl⟩ := Outcome.exists_of_after_eq_ok ends
    obtain ⟨xs, _, firstBuilt, othersBuilt, rfl⟩ := exists_of_buildAll_append built
    obtain ⟨i, total, spares⟩ := first rfl kept firstBuilt
    obtain ⟨j, total', groups, rfl, each⟩ := others rfl kept othersBuilt
    refine ⟨i + j, ?_, xs :: groups, rfl, List.forall_mem_cons.2 ⟨spares.mono (by omega), ?_⟩⟩
    · rw [opens_append, partsOpen_append]
      omega
    · exact fun group member => (each group member).mono (by omega)
  | stop => cases ends; cases built; exact ⟨0, rfl, [], rfl, by simp⟩
  | _ => cases ends

end Matches

/-! ### Texts of expressions -/

/-- A text that is read is matched, up to a rest, and the statement is what the match builds. -/
theorem exists_of_parse {text : String} {s : Select} (read : parse text = .ok s) :
    ∃ nodes taken rest, Matches grammar (.rule .query) 0 text.toList (.ok nodes taken rest) ∧
      buildAll nodes = .ok [.select s] := by
  rw [parse] at read
  cases found : tree .query text.toList with
  | error => rw [found] at read; cases read
  | ok nodes =>
    rw [found] at read
    dsimp only at read
    obtain ⟨taken, rest, derivation⟩ := tree_eq_ok_iff.1 found
    refine ⟨nodes, taken, rest, derivation, ?_⟩
    rcases matches_builds derivation rfl (by decide) with ⟨_, built, s', rfl, -⟩ | ⟨literal, failed⟩
    · rw [statement, built] at read
      cases read
      exact built
    · rw [statement, failed] at read
      cases read

/-- **A text has the parentheses of the condition that is read from it, or more**, and the condition
respects precedence if there are no more. -/
theorem opens_le_of_parse {text : String} {s : Select} {e : Expr} (read : parse text = .ok s)
    (selected : s.selection = some e) :
    e.opens ≤ opens text.toList ∧ (e.opens = opens text.toList → e.RespectsPrecedence) := by
  obtain ⟨nodes, taken, rest, derivation, built⟩ := exists_of_parse read
  obtain ⟨spare, total, -, tight⟩ := matches_leaves derivation rfl (by decide) built
  have whole : partsOpen [.select s] = e.opens := by
    simp [Part.opens, selected]
  have split : opens text.toList = opens taken + opens rest := by
    rw [← derivation.splits.1, opens_append]
  refine ⟨by omega, fun equal => ?_⟩
  exact (tight (by omega) _ List.mem_cons_self e selected).inside

/-- **The text of an expression is read as the expression exactly if it respects precedence.** -/
theorem parse_where_text_iff {e : Expr} (formed : e.WellFormed) :
    (∃ s, parse ("SELECT * FROM t WHERE " ++ e.text) = .ok s ∧ s.selection = some e) ↔
      e.RespectsPrecedence := by
  constructor
  · rintro ⟨s, read, selected⟩
    refine (opens_le_of_parse read selected).2 ?_
    have before : opens "SELECT * FROM t WHERE ".toList = 0 := by decide
    rw [String.toList_append, opens_append, before, Nat.zero_add]
    rfl
  · intro respects
    have prints : Prints .or e :=
      (prints_of_respectsPrecedence formed respects).loosen (Nat.zero_le _)
    exact ⟨_, parse_where_text prints, rfl⟩

/-- A choice of a column, or of a comparison and a call with all columns and a quote. -/
def choiceOfBoth : Expr :=
  .binary .or (.column ⟨none, "a"⟩)
    (.binary .and (.binary .le (.column ⟨some "t", "b"⟩) (.literal (.int (-7))))
      (.binary .eq (.call "count" [.wildcard]) (.literal (.string "it's ("))))

/-- The same operands, grouped in another way. -/
def bothWithChoice : Expr :=
  .binary .and
    (.binary .or (.column ⟨none, "a"⟩)
      (.binary .le (.column ⟨some "t", "b"⟩) (.literal (.int (-7)))))
    (.binary .eq (.call "count" [.wildcard]) (.literal (.string "it's (")))

/-- Two expressions have one text, and it is read as the one that respects precedence. -/
theorem choiceOfBoth_of_text : choiceOfBoth.text = bothWithChoice.text ∧
    choiceOfBoth.WellFormed ∧ bothWithChoice.WellFormed ∧
    (∃ s, parse ("SELECT * FROM t WHERE " ++ choiceOfBoth.text) = .ok s ∧
      s.selection = some choiceOfBoth) ∧
    ¬ ∃ s, parse ("SELECT * FROM t WHERE " ++ bothWithChoice.text) = .ok s ∧
      s.selection = some bothWithChoice := by
  have column : (Expr.column ⟨none, "a"⟩).WellFormed := .column nofun (by decide)
  have bound : (Expr.binary .le (.column ⟨some "t", "b"⟩) (.literal (.int (-7)))).WellFormed :=
    .binary .le (.column (by decide) (by decide)) (.literal _)
  have counted : (Expr.binary .eq (.call "count" [.wildcard])
      (.literal (.string "it's ("))).WellFormed :=
    .binary .eq (.callAll (by decide)) (.literal _)
  have formed : choiceOfBoth.WellFormed := .binary .or column (.binary .and bound counted)
  have regrouped : bothWithChoice.WellFormed := .binary .and (.binary .or column bound) counted
  have boundRespects : (Expr.binary .le (.column ⟨some "t", "b"⟩)
      (.literal (.int (-7)))).RespectsPrecedence :=
    .compare (by decide) rfl rfl (.column _) (.literal _)
  have countRespects : (Expr.binary .eq (.call "count" [.wildcard])
      (.literal (.string "it's ("))).RespectsPrecedence :=
    .compare (by decide) rfl rfl (.call _ (List.forall_mem_singleton.2 .wildcard)) (.literal _)
  have respects : choiceOfBoth.RespectsPrecedence :=
    .or nofun (.column _) (.and nofun ⟨nofun, nofun⟩ boundRespects countRespects)
  refine ⟨by decide, formed, regrouped, (parse_where_text_iff formed).2 respects, ?_⟩
  rw [parse_where_text_iff regrouped]
  intro grouped
  cases grouped with
  | compare sign => exact sign.1 rfl
  | and leftTight => exact leftTight rfl

end RuleQuery.Sql
