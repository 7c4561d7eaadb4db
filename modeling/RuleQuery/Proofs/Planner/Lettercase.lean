import RuleQuery.Proofs.Planner.Calls
import RuleQuery.Proofs.Sql.Lettercase
import RuleQuery.Proofs.Sql.Statement

/-!
**Plans up to the letter case of ASCII.**

The planner compares aliases, tables and fields in lower case only. So

* `verdict_toLower`: a query in small letters has the scheme of the query, up to the names that its
  relations are written with, or an error of the same kind;
* `planText_toLower`: a text in small letters has the plan of the text, or an error of the same kind;
* `planText_ignores_lettercase`: **two texts that differ in letter case only have the same plan, or
  errors of the same kind.**
-/

namespace RuleQuery.Planner

open Plan Sql

/-! ### Results of one kind -/

/-- How a text may fail to be a query. -/
inductive TextFault where
  /-- It is not in the grammar. -/
  | rejected
  /-- Its tree has no statement. -/
  | unbuilt
deriving DecidableEq, Repr

/-- How the text of the error fails to be a query, if it does. -/
def Error.textFault? : Error → Option TextFault
  | parse (.rejected _) => some .rejected
  | parse (.unbuilt _) => some .unbuilt
  | _ => none

/-- **Errors of one kind**, also in how a text fails to be a query. -/
structure Error.Like (e e' : Error) : Prop where
  kind : e.kind = e'.kind
  textFault : e.textFault? = e'.textFault?

/-- **Results of one kind**: related values, or errors of one kind. -/
inductive Alike {α β : Type} (same : α → β → Prop) : Except Error α → Except Error β → Prop where
  | ok {a : α} {b : β} (holds : same a b) : Alike same (.ok a) (.ok b)
  | error {e e' : Error} (like : e.Like e') : Alike same (.error e) (.error e')

namespace Alike

variable {α β γ δ : Type} {same : α → β → Prop} {same' : γ → δ → Prop}

theorem bind {x : Except Error α} {y : Except Error β} {next : α → Except Error γ}
    {next' : β → Except Error δ} (first : Alike same x y)
    (second : ∀ a b, same a b → Alike same' (next a) (next' b)) :
    Alike same' (x >>= next) (y >>= next') := by
  cases first with
  | ok holds => exact second _ _ holds
  | error like => exact .error like

theorem map {x : Except Error α} {y : Except Error β} {f : α → γ} {g : β → γ} (alike : Alike same x y)
    (agree : ∀ a b, same a b → f a = g b) : Alike (· = ·) (x.map f) (y.map g) := by
  cases alike with
  | ok holds => exact .ok (agree _ _ holds)
  | error like => exact .error like

theorem refl (x : Except Error α) : Alike (· = ·) x x := by
  cases x with
  | ok a => exact .ok rfl
  | error e => exact .error ⟨rfl, rfl⟩

theorem symm {x y : Except Error α} (alike : Alike (· = ·) x y) : Alike (· = ·) y x := by
  cases alike with
  | ok equal => exact .ok equal.symm
  | error like => exact .error ⟨like.kind.symm, like.textFault.symm⟩

theorem trans {x y z : Except Error α} (first : Alike (· = ·) x y) (second : Alike (· = ·) y z) :
    Alike (· = ·) x z := by
  cases first with
  | ok equal =>
    cases second with
    | ok equal' => exact .ok (equal.trans equal')
  | error like =>
    cases second with
    | error like' =>
      exact .error ⟨like.kind.trans like'.kind, like.textFault.trans like'.textFault⟩

end Alike

/-! ### Names -/

theorem tableOf_toLower (t : TableRef) : tableOf t.toLower = tableOf t :=
  Text.lowercase_toLower t.name

theorem aliasOf_toLower (t : TableRef) : aliasOf t.toLower = aliasOf t := by
  obtain ⟨name, aliasName⟩ := t
  cases aliasName with
  | none => exact Text.lowercase_toLower name
  | some a => exact Text.lowercase_toLower a

theorem text_toLower (column : ColumnRef) : column.toLower.text = column.text.toLower := by
  obtain ⟨qualifier, name⟩ := column
  cases qualifier with
  | none => rfl
  | some q =>
    rw [← String.toList_inj]
    simp [ColumnRef.toLower, ColumnRef.text, Text.toList_toLower]

theorem ofText?_toLower (column : ColumnRef) :
    Operand.ofText? column.toLower.text = Operand.ofText? column.text := by
  rw [text_toLower, Operand.ofText?, Text.lowercase_toLower, Operand.ofText?]

/-! ### Verdicts -/

theorem columnOperand_toLower (column : ColumnRef) :
    Alike (· = ·) (columnOperand column) (columnOperand column.toLower) := by
  rw [columnOperand, columnOperand, ofText?_toLower]
  cases Operand.ofText? column.text with
  | some operand => exact .ok rfl
  | none => exact .error ⟨rfl, rfl⟩

theorem keyField_toLower (t : TableRef) (column : ColumnRef) :
    Alike (· = ·) (keyField t column) (keyField t.toLower column.toLower) := by
  obtain ⟨qualifier, name⟩ := column
  cases qualifier with
  | none => exact .ok (Text.lowercase_toLower name).symm
  | some q =>
    refine (columnOperand_toLower ⟨some q, name⟩).bind ?_
    rintro operand _ rfl
    rw [aliasOf_toLower]
    by_cases own : operand.aliasName = aliasOf t
    · rw [if_pos own, if_pos own]
      exact .ok rfl
    · rw [if_neg own, if_neg own]
      exact .error ⟨rfl, rfl⟩

theorem groupColumn_toLower (keys : List Expr) :
    Alike (fun column column' => column' = column.toLower) ((groupColumn keys).mapError .groupBy)
      ((groupColumn (keys.map Expr.toLower)).mapError .groupBy) := by
  have many (first second : Expr) (rest : List Expr) :
      groupColumn (first :: second :: rest) = .error .manyKeys := by
    cases first <;> rfl
  match keys with
  | [] => exact .error ⟨rfl, rfl⟩
  | [key] =>
    cases key with
    | column => exact .ok rfl
    | _ => exact .error ⟨rfl, rfl⟩
  | first :: second :: rest =>
    rw [many, List.map_cons, List.map_cons, many]
    exact .error ⟨rfl, rfl⟩

/-- Two schemes with the same plans. -/
def SamePlans (scheme scheme' : Scheme) : Prop :=
  ∀ query, scheme.descriptor query = scheme'.descriptor query

theorem factOf_toLower (t : TableRef) : Scheme.factOf t.toLower = Scheme.factOf t := by
  rw [Scheme.factOf, tableOf_toLower, aliasOf_toLower, Scheme.factOf]

theorem single_toLower (t : TableRef) : SamePlans (.single t) (.single t.toLower) := by
  intro query
  simp only [Scheme.descriptor, Scheme.arena, Scheme.body, factOf_toLower, tableOf_toLower]

theorem groupVerdict_toLower (t : TableRef) (keys : List Expr) :
    Alike SamePlans (groupVerdict t keys) (groupVerdict t.toLower (keys.map Expr.toLower)) := by
  refine (groupColumn_toLower keys).bind ?_
  rintro column _ rfl
  refine (keyField_toLower t column).bind ?_
  rintro field _ rfl
  refine .ok fun query => ?_
  simp only [Scheme.descriptor, Scheme.arena, Scheme.body, factOf_toLower, tableOf_toLower]

theorem operandSide_toLower (left right : TableRef) (operand : Operand) :
    operandSide left.toLower right.toLower operand = operandSide left right operand := by
  rw [operandSide, aliasOf_toLower, aliasOf_toLower, operandSide]

theorem sortOperands_toLower (left right : TableRef) (x y : Operand) :
    sortOperands left.toLower right.toLower x y = sortOperands left right x y := by
  rw [sortOperands, operandSide_toLower, operandSide_toLower, sortOperands]

theorem equatedColumns_toLower (condition : Option Expr) :
    Alike (fun pair pair' => pair' = (pair.1.toLower, pair.2.toLower))
      ((equatedColumns condition).mapError .joinCondition)
      ((equatedColumns (condition.map Expr.toLower)).mapError .joinCondition) := by
  cases condition with
  | none => exact .error ⟨rfl, rfl⟩
  | some condition =>
    cases condition with
    | binary op left right =>
      cases op with
      | eq =>
        cases left with
        | column =>
          cases right with
          | column => exact .ok rfl
          | _ => exact .error ⟨rfl, rfl⟩
        | _ => exact .error ⟨rfl, rfl⟩
      | _ => exact .error ⟨rfl, rfl⟩
    | _ => exact .error ⟨rfl, rfl⟩

theorem conditionOperands_toLower (left right : TableRef) (condition : Option Expr) :
    Alike (· = ·) (conditionOperands left right condition)
      (conditionOperands left.toLower right.toLower (condition.map Expr.toLower)) := by
  refine (equatedColumns_toLower condition).bind ?_
  rintro ⟨x, y⟩ _ rfl
  refine (columnOperand_toLower x).bind ?_
  rintro first _ rfl
  refine (columnOperand_toLower y).bind ?_
  rintro second _ rfl
  rw [sortOperands_toLower]
  exact .refl _

theorem pairVerdict_toLower (left right : TableRef) (condition : Option Expr) :
    Alike SamePlans (pairVerdict left right condition)
      (pairVerdict left.toLower right.toLower (condition.map Expr.toLower)) := by
  have aliases : aliasOf left.toLower = aliasOf right.toLower ↔ aliasOf left = aliasOf right := by
    rw [aliasOf_toLower, aliasOf_toLower]
  by_cases equal : aliasOf left = aliasOf right
  · rw [pairVerdict, dif_pos equal, pairVerdict, dif_pos (aliases.2 equal)]
    exact .error ⟨rfl, rfl⟩
  · rw [pairVerdict, dif_neg equal, pairVerdict, dif_neg (equal ∘ aliases.1)]
    refine (conditionOperands_toLower left right condition).bind ?_
    rintro ⟨first, second⟩ _ rfl
    refine .ok fun query => ?_
    simp only [Scheme.descriptor, Scheme.arena, Scheme.body, factOf_toLower, tableOf_toLower]

theorem joinedRelations_toLower (kind : JoinKind) (left right : Source) :
    Alike (fun pair pair' => pair' = (pair.1.toLower, pair.2.toLower))
      ((joinedRelations kind left right).mapError .queryShape)
      ((joinedRelations kind left.toLower right.toLower).mapError .queryShape) := by
  cases kind with
  | inner =>
    cases left with
    | relation =>
      cases right with
      | relation => exact .ok rfl
      | _ => exact .error ⟨rfl, rfl⟩
    | _ => exact .error ⟨rfl, rfl⟩
  | _ => exact .error ⟨rfl, rfl⟩

/-- **A query in small letters has the scheme of the query**, or an error of the same kind. -/
theorem verdict_toLower (s : Select) : Alike SamePlans (verdict s) (verdict s.toLower) := by
  obtain ⟨projection, source, selection, groupBy, orderBy⟩ := s
  cases selection with
  | some => exact .error ⟨rfl, rfl⟩
  | none =>
    cases orderBy with
    | cons => exact .error ⟨rfl, rfl⟩
    | nil =>
      cases source with
      | relation t =>
        cases groupBy with
        | none => exact .ok (single_toLower t)
        | some keys => exact groupVerdict_toLower t keys
      | join kind left right condition =>
        cases groupBy with
        | none =>
          refine (joinedRelations_toLower kind left right).bind ?_
          rintro ⟨l, r⟩ _ rfl
          exact pairVerdict_toLower l r condition
        | some => exact .error ⟨rfl, rfl⟩
      | subquery => exact .error ⟨rfl, rfl⟩

/-! ### Texts -/

section Texts

variable {settings : Config.Settings}

/-- What a session answers to a text that is read so. -/
def readResult (settings : Config.Settings) : Except ParseError Select → Except Error Descriptor
  | .ok s => (verdict s).map (Scheme.descriptor settings.query)
  | .error error => .error (.parse error)

theorem planText_result (settings : Config.Settings) (text : String) :
    ((Session.new settings).planText text).result = readResult settings (Sql.parse text) := by
  unfold Session.planText
  cases Sql.parse text with
  | ok s => exact plan_result (.new settings) s
  | error error => rfl

theorem readResult_toLower {read read' : Except ParseError Select} (reads : ReadsLower read read') :
    Alike (· = ·) (readResult settings read) (readResult settings read') := by
  cases reads with
  | read s => exact (verdict_toLower s).map fun _ _ same => same settings.query
  | rejected => exact .error ⟨rfl, rfl⟩
  | unbuilt => exact .error ⟨rfl, rfl⟩

/-- **A text in small letters has the plan of the text**, or an error of the same kind. -/
theorem planText_toLower (settings : Config.Settings) (text : String) :
    Alike (· = ·) ((Session.new settings).planText text).result
      ((Session.new settings).planText text.toLower).result := by
  rw [planText_result, planText_result]
  exact readResult_toLower (parse_toLower text)

end Texts

/-- **The letter case of a text does not matter**: two texts that differ only in the letter case of
ASCII, anywhere, have the same plan in a new session, or both have none, for reasons of one kind. -/
theorem planText_ignores_lettercase (settings : Config.Settings) (text other : String)
    (same : text.toList.map Char.toLower = other.toList.map Char.toLower) :
    (∃ d, ((Session.new settings).planText text).result = .ok d ∧
      ((Session.new settings).planText other).result = .ok d) ∨
    ∃ e e', ((Session.new settings).planText text).result = .error e ∧
      ((Session.new settings).planText other).result = .error e' ∧
      e.kind = e'.kind ∧ e.textFault? = e'.textFault? := by
  have lowered : text.toLower = other.toLower := by
    rw [← String.toList_inj, Text.toList_toLower, Text.toList_toLower, same]
  have first := planText_toLower settings text
  have second := planText_toLower settings other
  rw [← lowered] at second
  have alike := first.trans second.symm
  generalize ((Session.new settings).planText text).result = result at alike ⊢
  generalize ((Session.new settings).planText other).result = result' at alike ⊢
  cases alike with
  | @ok d d' equal =>
    subst equal
    exact .inl ⟨d, rfl, rfl⟩
  | @error e e' like => exact .inr ⟨e, e', rfl, rfl, like.kind, like.textFault⟩

theorem writes_orders : Writes ⟨[.wildcard], .relation ⟨"Orders", none⟩, none, none, []⟩
    "SELECT * FROM Orders" := by
  refine ⟨_, [], .mk .wildcard (.table "Orders") (.mk .absent .absent .absent), .inl rfl, ?_⟩
  have blank : Gap [' '] := .blank rfl .none
  have select : (Token.keyword .SELECT).Spelled "SELECT".toList := .keyword (by decide)
  have origin : (Token.keyword .FROM).Spelled "FROM".toList := .keyword (by decide)
  have table : (Token.name "Orders").Spelled "Orders".toList := .name (by decide)
  simp only [String.reduceToList]
  refine .token .none select (by decide) ?_
  refine .token blank (.sign (by decide)) (by decide) ?_
  refine .token blank origin (by decide) ?_
  refine .token blank table (by decide) ?_
  exact .finish (.closed .none)

theorem orders_planned_alike :
    ∃ d, ((Session.new .default).planText "SELECT * FROM Orders").result = .ok d ∧
      ((Session.new .default).planText "select * from oRDERS").result = .ok d := by
  have planned : ((Session.new .default).planText "SELECT * FROM Orders").result =
      .ok (Scheme.descriptor .default (.single ⟨"Orders", none⟩)) := by
    rw [planText_result, parse_of_writes writes_orders]
    rfl
  have same := planText_ignores_lettercase .default "SELECT * FROM Orders" "select * from oRDERS"
    (by decide)
  rcases same with both | ⟨e, e', failed, -⟩
  · exact both
  · rw [planned] at failed
    cases failed

end RuleQuery.Planner
