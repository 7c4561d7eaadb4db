import RuleQuery.Proofs.Peg.Occurrence
import RuleQuery.Proofs.Sql.Built

/-!
**Integers are all that can be wrong with the tree of a query.**

* `integers`: the integers of a tree, with their places;
* `EndsAtFirst`: how building ends by the integers on the way: with a value if all of them fit into 64
  bits, and otherwise at the first that does not;
* `matches_endsAtFirst`: every match builds so;
* `tree_eq_ok_iff`: a text has the trees of its derivation in the grammar, and no others;
* `parse_read`: **how a text is read**: it is rejected by the grammar, or fails at its first integer
  that does not fit, or gives a well-formed statement;
* `parse_unbuilt_iff_overflow`: so a tree without a statement has such an integer, and the error names
  the first in the text.
-/

namespace RuleQuery.Sql

open Peg

/-! ### Integers of a tree -/

/-- **The integers of trees**, in order. -/
abbrev integers (nodes : List (Node Rule)) : List Occurrence :=
  Node.allOccurrences .integer nodes

/-- **The integer fits into 64 bits**: it lies between -2⁶³ and 2⁶³ - 1. -/
def Fits (o : Occurrence) : Prop :=
  -9223372036854775808 ≤ Text.decimalValue o.text ∧ Text.decimalValue o.text ≤ 9223372036854775807

instance (o : Occurrence) : Decidable (Fits o) :=
  inferInstanceAs (Decidable (_ ∧ _))

/-- Zeros in front do not count, and the bounds fit. -/
example : ["000000000000000000000000", "-0", "0009223372036854775807", "-9223372036854775808"].all
    fun literal => Fits ⟨0, literal.toList⟩ := by
  decide +kernel

/-- An integer is read exactly if it fits. -/
theorem integer?_isSome_iff (o : Occurrence) : (integer? o.text).isSome = true ↔ Fits o := by
  have least : Int64.minValue.toInt = -9223372036854775808 := by decide
  have greatest : Int64.maxValue.toInt = 9223372036854775807 := by decide
  unfold integer? Fits
  rw [least, greatest]
  dsimp only
  split <;> simp_all

/-! ### Building -/

/-- **How building ends by the integers on the way.** Nothing is said of misshapen trees, which no match
has. -/
inductive EndsAtFirst {α : Type} : List Occurrence → Except BuildError α → Prop
  | built {os : List Occurrence} (a : α) (fit : ∀ o ∈ os, Fits o) : EndsAtFirst os (.ok a)
  | overflow {before after : List Occurrence} {o : Occurrence} (fit : ∀ o ∈ before, Fits o)
      (unfit : ¬ Fits o) : EndsAtFirst (before ++ o :: after) (.error (.integerRange o.text))
  | misshapen (os : List Occurrence) (r : Rule) : EndsAtFirst os (.error (.misshapen r))

namespace EndsAtFirst

variable {α β : Type} {os os' : List Occurrence}

/-- What comes later is built only if all fits before. -/
theorem bind {x : Except BuildError α} {next : α → Except BuildError β} (first : EndsAtFirst os x)
    (second : ∀ a, EndsAtFirst os' (next a)) : EndsAtFirst (os ++ os') (x >>= next) := by
  cases first with
  | built a fit =>
    show EndsAtFirst _ (next a)
    have later := second a
    generalize next a = result at later
    cases later with
    | built b fit' => exact .built b (List.forall_mem_append.2 ⟨fit, fit'⟩)
    | @overflow before after o fit' unfit =>
      rw [← List.append_assoc]
      exact .overflow (List.forall_mem_append.2 ⟨fit, fit'⟩) unfit
    | misshapen _ r => exact .misshapen _ r
  | @overflow before after o fit unfit =>
    rw [List.append_assoc, List.cons_append]
    exact .overflow fit unfit
  | misshapen _ r => exact .misshapen _ r

theorem ok (a : α) : EndsAtFirst [] (.ok a) :=
  .built a nofun

/-- What comes later without integers leaves the end to the integers before. -/
theorem bind_nil {x : Except BuildError α} {next : α → Except BuildError β} (first : EndsAtFirst os x)
    (second : ∀ a, EndsAtFirst [] (next a)) : EndsAtFirst os (x >>= next) := by
  have ends := first.bind second
  rwa [List.append_nil] at ends

/-- A rule other than that of integers adds no integer and no overflow. -/
theorem combine {r : Rule} (other : r ≠ .integer) (text : List Char) (parts : List Part) :
    EndsAtFirst [] (combine r text parts) := by
  unfold Sql.combine
  cases combine? r text (significant parts) with
  | some part => exact .ok part
  | none =>
    rw [if_neg other]
    exact .misshapen [] r

/-- An integer is built if it fits. -/
theorem combine_integer (o : Occurrence) : EndsAtFirst [o] (Sql.combine .integer o.text []) := by
  have made : combine? .integer o.text [] = (integer? o.text).map fun i => .value (.int i) := rfl
  have fits := integer?_isSome_iff o
  rw [Sql.combine, List.filter_nil, made]
  cases read : integer? o.text with
  | some i => exact .built _ (List.forall_mem_singleton.2 (fits.1 (by rw [read]; rfl)))
  | none =>
    have unfit : ¬ Fits o := fun fit => by simpa [read] using fits.2 fit
    exact @overflow _ [] [] o (List.forall_mem_nil _) unfit

theorem fit_of_ok {a : α} (ends : EndsAtFirst os (.ok a)) : ∀ o ∈ os, Fits o := by
  cases ends with
  | built _ fit => exact fit

theorem exists_of_overflow {literal : List Char}
    (ends : EndsAtFirst (α := α) os (.error (.integerRange literal))) :
    ∃ before o after, os = before ++ o :: after ∧ (∀ o ∈ before, Fits o) ∧ ¬ Fits o ∧
      o.text = literal := by
  cases ends with
  | overflow fit unfit => exact ⟨_, _, _, rfl, fit, unfit, rfl⟩

end EndsAtFirst

/-- Building trees ends by their integers. -/
def BuildsToFirst (nodes : List (Node Rule)) : Prop :=
  EndsAtFirst (integers nodes) (buildAll nodes)

namespace BuildsToFirst

theorem nil : BuildsToFirst [] :=
  .ok []

theorem append {xs ys : List (Node Rule)} (first : BuildsToFirst xs) (second : BuildsToFirst ys) :
    BuildsToFirst (xs ++ ys) := by
  rw [BuildsToFirst, integers, Node.allOccurrences_append, buildAll_append]
  exact first.bind fun built => second.bind_nil fun more => .ok (built ++ more)

theorem node {r : Rule} (other : r ≠ .integer) (position : Nat) (text : List Char)
    {nodes : List (Node Rule)} (inside : BuildsToFirst nodes) :
    BuildsToFirst [.mk r position text nodes] := by
  rw [BuildsToFirst, integers, Node.allOccurrences_other other, buildAll_single]
  have made := EndsAtFirst.bind_nil inside (EndsAtFirst.combine other text)
  exact made.bind_nil fun part => .ok [part]

theorem integer (position : Nat) (text : List Char) :
    BuildsToFirst [.mk .integer position text []] := by
  rw [BuildsToFirst, integers, Node.allOccurrences_same, buildAll_single]
  exact (EndsAtFirst.combine_integer ⟨position, text⟩).bind_nil fun part => .ok [part]

end BuildsToFirst

section

variable {e : Expression Rule} {position : Nat} {s taken rest : List Char}
  {nodes : List (Node Rule)} {outcome : Outcome Rule}

/-- **Every match builds up to its first integer that does not fit.** -/
theorem matches_endsAtFirst (derivation : Matches grammar e position s outcome)
    (ends : outcome = .ok nodes taken rest) : BuildsToFirst nodes := by
  induction derivation generalizing nodes taken rest with
  | @rule r _ _ outcome inside ih =>
    cases outcome with
    | fail => cases ends
    | ok inner text after =>
      cases seen : grammar.visibility r with
      | silent =>
        rw [seen] at ends
        cases ends
        exact ih rfl
      | plain =>
        rw [seen] at ends
        cases ends
        refine .node ?_ _ _ (ih rfl)
        rintro rfl
        cases seen
      | atomic =>
        rw [seen] at ends
        cases ends
        by_cases integer : r = .integer
        · subst integer
          exact .integer _ _
        · exact .node integer _ _ .nil
  | next _ _ first second =>
    obtain ⟨_, _, rfl, rfl, -⟩ := Outcome.exists_of_after_eq_ok ends
    exact (first rfl).append (second rfl)
  | again _ _ first others =>
    obtain ⟨_, _, rfl, rfl, -⟩ := Outcome.exists_of_after_eq_ok ends
    exact (first rfl).append (others rfl)
  | first _ _ found => exact found ends
  | second _ _ _ other => exact other ends
  | optional _ found => exact found ends
  | _ =>
    cases ends
    try exact .nil

end

/-! ### Reading -/

/-- **The first integer of the text that does not fit**: it stands in the text at its place, and every
other that does not fit starts after it. -/
structure FirstOverflow (source : List Char) (nodes : List (Node Rule)) (o : Occurrence) : Prop where
  member : o ∈ integers nodes
  unfit : ¬ Fits o
  place : ∃ before after, before ++ o.text ++ after = source ∧ o.start = Text.byteCount before
  first : ∀ o' ∈ integers nodes, ¬ Fits o' → o' = o ∨ o.start < o'.start

/-- **How a text is read.** -/
inductive Read (text : String) : Except ParseError Select → Prop where
  /-- The text is not in the grammar. -/
  | rejected {d : Diagnostic Rule} (none : tree .query text.toList = .error d) :
      Read text (.error (.rejected d))
  /-- An integer of the text does not fit. -/
  | unbuilt {nodes : List (Node Rule)} {o : Occurrence} (found : tree .query text.toList = .ok nodes)
      (first : FirstOverflow text.toList nodes o) : Read text (.error (.unbuilt (.integerRange o.text)))
  /-- The text writes a statement. -/
  | statement {nodes : List (Node Rule)} {s : Select} (found : tree .query text.toList = .ok nodes)
      (fit : ∀ o ∈ integers nodes, Fits o) (formed : s.WellFormed) : Read text (.ok s)

theorem tree_eq_ok_iff {r : Rule} {source : List Char} {nodes : List (Node Rule)} :
    tree r source = .ok nodes ↔
      ∃ taken rest, Matches grammar (.rule r) 0 source (.ok nodes taken rest) := by
  simp only [← Grammar.parse_outcome_eq_iff, tree]
  cases (grammar.parse r source).outcome <;> simp

/-- The first of the integers in order that does not fit is the first in the text. -/
theorem firstOverflow_of_inOrder {source : List Char} {nodes : List (Node Rule)}
    {before after : List Occurrence} {o : Occurrence} (ordered : InOrder 0 source (integers nodes))
    (order : integers nodes = before ++ o :: after) (fit : ∀ o ∈ before, Fits o) (unfit : ¬ Fits o) :
    FirstOverflow source nodes o := by
  have member : o ∈ integers nodes := by simp [order]
  obtain ⟨-, skipped, left, whole, start⟩ := ordered.inside o member
  refine ⟨member, unfit, ⟨skipped, left, whole, by rwa [Nat.zero_add] at start⟩, ?_⟩
  intro o' member' unfit'
  rw [order] at ordered member'
  rcases List.mem_append.1 member' with earlier | later
  · exact absurd (fit o' earlier) unfit'
  · exact (List.mem_cons.1 later).imp id (ordered.start_lt o')

/-- **Every text is read in one of the three ways.** -/
theorem parse_read (text : String) : Read text (parse text) := by
  unfold parse
  cases found : tree .query text.toList with
  | error d => exact .rejected found
  | ok nodes =>
    obtain ⟨taken, rest, derivation⟩ := tree_eq_ok_iff.1 found
    have ordered := (derivation.inOrder (r := .integer) rfl rfl rfl).extend rest
    rw [derivation.splits.1] at ordered
    have builds := matches_builds derivation rfl (by decide)
    have toFirst := matches_endsAtFirst derivation rfl
    dsimp only
    rw [statement]
    unfold BuildsToFirst at toFirst
    rcases builds with ⟨_, built, s, rfl, formed⟩ | ⟨literal, failed⟩
    · rw [built] at toFirst
      rw [built]
      exact .statement found toFirst.fit_of_ok formed
    · rw [failed] at toFirst
      rw [failed]
      obtain ⟨before, o, after, order, fit, unfit, rfl⟩ := toFirst.exists_of_overflow
      exact .unbuilt found (firstOverflow_of_inOrder ordered order fit unfit)

theorem decimalValue_nonpos (digits : List Char) : Text.decimalValue ('-' :: digits) ≤ 0 :=
  Int.neg_nonpos_of_nonneg (Int.natCast_nonneg _)

theorem decimalValue_nonneg {literal : List Char} (unsigned : literal.head? ≠ some '-') :
    0 ≤ Text.decimalValue literal := by
  unfold Text.decimalValue
  split
  · exact absurd rfl unsigned
  · exact Int.natCast_nonneg _

/-- The sign of an integer that does not fit says on which side it is out of range. -/
theorem direction_of_overflow {o : Occurrence} (unfit : ¬ Fits o) :
    (if o.text.head? = some '-' then "small" else "large") =
      if 0 < Text.decimalValue o.text then "large" else "small" := by
  have nonzero : Text.decimalValue o.text ≠ 0 := by
    intro zero
    refine unfit ?_
    rw [Fits, zero]
    decide
  by_cases minus : o.text.head? = some '-'
  · obtain ⟨digits, signed⟩ := List.head?_eq_some_iff.1 minus
    have sign := decimalValue_nonpos digits
    rw [← signed] at sign
    rw [if_pos minus, if_neg (by omega)]
  · have sign := decimalValue_nonneg minus
    rw [if_neg minus, if_pos (by omega)]

theorem message_of_overflow {o : Occurrence} (unfit : ¬ Fits o) :
    (BuildError.integerRange o.text).message =
      "Invalid integer " ++ String.ofList o.text ++ ": number too " ++
        (if 0 < Text.decimalValue o.text then "large" else "small") ++ " to fit in target type" := by
  rw [← direction_of_overflow unfit]
  rfl

/-- **A tree has no statement exactly if one of its integers does not fit**, and the error names the
first such integer in the text. So a text of the grammar whose integers fit is read, and a text that is
not of the grammar is rejected. The trees are those that the text derives in the grammar. -/
theorem parse_unbuilt_iff_overflow (text : String) :
    (∀ nodes, tree .query text.toList = .ok nodes ↔
      ∃ taken rest, Matches grammar (.rule .query) 0 text.toList (.ok nodes taken rest)) ∧
    ((∃ e, parse text = .error (.unbuilt e)) ↔
      ∃ nodes, tree .query text.toList = .ok nodes ∧ ∃ o ∈ integers nodes, ¬ Fits o) ∧
    (∀ e, parse text = .error (.unbuilt e) →
      ∃ nodes o, tree .query text.toList = .ok nodes ∧ FirstOverflow text.toList nodes o ∧
        e = .integerRange o.text ∧
        e.message = "Invalid integer " ++ String.ofList o.text ++ ": number too " ++
          (if 0 < Text.decimalValue o.text then "large" else "small") ++ " to fit in target type") ∧
    (∀ nodes, tree .query text.toList = .ok nodes → (∀ o ∈ integers nodes, Fits o) →
      ∃ s, parse text = .ok s) ∧
    ∀ d, tree .query text.toList = .error d → parse text = .error (.rejected d) := by
  refine ⟨fun _ => tree_eq_ok_iff, ?_⟩
  have read := parse_read text
  generalize parse text = result at read
  cases read with
  | rejected none =>
    refine ⟨⟨nofun, ?_⟩, nofun, ?_, ?_⟩
    · rintro ⟨nodes, found, -⟩
      rw [none] at found
      cases found
    · intro nodes found
      rw [none] at found
      cases found
    · intro d found
      rw [none] at found
      cases found
      rfl
  | @unbuilt nodes o found first =>
    refine ⟨⟨fun _ => ⟨nodes, found, o, first.member, first.unfit⟩, fun _ => ⟨_, rfl⟩⟩, ?_, ?_, ?_⟩
    · rintro e ⟨⟩
      exact ⟨nodes, o, found, first, rfl, message_of_overflow first.unfit⟩
    · intro nodes' found' fit
      rw [found] at found'
      cases found'
      exact absurd (fit o first.member) first.unfit
    · intro d found'
      rw [found] at found'
      cases found'
  | @statement nodes s found fit formed =>
    refine ⟨⟨nofun, ?_⟩, nofun, fun _ _ _ => ⟨s, rfl⟩, ?_⟩
    · rintro ⟨nodes', found', o, member, unfit⟩
      rw [found] at found'
      cases found'
      exact absurd (fit o member) unfit
    · intro d found'
      rw [found] at found'
      cases found'

end RuleQuery.Sql
