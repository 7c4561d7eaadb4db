import RuleQuery.Peg.Expression
import RuleQuery.Text.Bytes

/-!
**Matching a text against a grammar.**

`Grammar.run` matches an expression at the start of a text and gives the tree of the rules that
matched, the characters taken and the characters left, or a failure. Beside the outcome it gives
the attempts: the calls to rules that failed on the way, from which the place of an error is found.
The outcome does not depend on the attempts.

Matching ends because the characters left, the level and the expression go down in this order
(`Grammar.run`, whose result also says that nothing is lost between the two parts of the text and
that an expression which has to take a character did so).
-/

namespace RuleQuery.Peg

/-- A rule that matched: where it starts, in bytes, the text that it took, and the rules inside. -/
inductive Node (ρ : Type) where
  | mk (rule : ρ) (start : Nat) (text : List Char) (children : List (Node ρ))

/-- A call to a rule that failed: where it was tried, in bytes, and the failed calls inside. -/
inductive Attempt (ρ : Type) where
  | failed (rule : ρ) (position : Nat) (inner : List (Attempt ρ))

/-- How a match ends. -/
inductive Outcome (ρ : Type) where
  /-- The expression does not match. -/
  | fail
  /-- The expression matches the characters taken. -/
  | ok (nodes : List (Node ρ)) (taken rest : List Char)

/-- The two parts of the text make up the text, and the first is not empty where it must not be. -/
def Outcome.Splits {ρ : Type} (consumes : Bool) (s : List Char) : Outcome ρ → Prop
  | fail => True
  | ok _ taken rest => taken ++ rest = s ∧ (consumes = true → taken ≠ [])

/-- An outcome with the failed calls on the way to it. -/
structure Step (ρ : Type) where
  /-- How the match ends. -/
  outcome : Outcome ρ
  /-- The calls to rules that failed, in order. -/
  attempts : List (Attempt ρ)

namespace Step

variable {ρ : Type}

/-- A failure after the attempts. -/
def failure (attempts : List (Attempt ρ)) : Step ρ :=
  ⟨.fail, attempts⟩

/-- A match of no characters after the attempts. -/
def nothing (s : List Char) (attempts : List (Attempt ρ)) : Step ρ :=
  ⟨.ok [] [] s, attempts⟩

/-- What a call to the rule makes of the match of its body. -/
def close (name : ρ) (position : Nat) (body : Step ρ) : Visibility → Step ρ
  | .silent => body
  | .plain =>
    match body.outcome with
    | .fail => failure [.failed name position body.attempts]
    | .ok nodes taken rest => ⟨.ok [.mk name position taken nodes] taken rest, body.attempts⟩
  | .atomic =>
    match body.outcome with
    | .fail => failure [.failed name position []]
    | .ok _ taken rest => ⟨.ok [.mk name position taken []] taken rest, []⟩

end Step

/-! ### Literals -/

/-- Takes a character for each of the given ones, as long as they count as the same. -/
def takeLike (same : Char → Char → Bool) :
    List Char → List Char → Option (List Char × List Char)
  | [], s => some ([], s)
  | _ :: _, [] => none
  | a :: w, c :: s =>
    if same a c then (takeLike same w s).map fun (taken, rest) => (c :: taken, rest) else none

theorem takeLike_splits {same : Char → Char → Bool} {w s taken rest : List Char}
    (found : takeLike same w s = some (taken, rest)) : taken ++ rest = s ∧ (w ≠ [] → taken ≠ []) := by
  induction w generalizing s taken rest with
  | nil => simp_all [takeLike]
  | cons a w ih =>
    cases s with
    | nil => simp [takeLike] at found
    | cons c s =>
      rw [takeLike] at found
      split at found
      · obtain ⟨⟨inner, left⟩, inside, eq⟩ := Option.map_eq_some_iff.1 found
        simp only [Prod.mk.injEq] at eq
        obtain ⟨rfl, rfl⟩ := eq
        simp [(ih inside).1]
      · simp at found

/-- Two characters are the same up to the letter case of ASCII. -/
def sameLetter (a c : Char) : Bool :=
  a.toLower == c.toLower

/-! ### The match -/

private theorem measure_lt_of_le {w x y a b : Nat} (outer : x ≤ y) (inner : a < b) :
    x * w + a < y * w + b := by
  have := Nat.mul_le_mul_right w outer
  omega

private theorem measure_lt_of_lt {w x y a b : Nat} (outer : x < y) (inner : a < w + b) :
    x * w + a < y * w + b := by
  have := Nat.mul_le_mul_right w outer
  rw [Nat.succ_mul] at this
  omega

private theorem level_lt {top x y a b : Nat} (shorter : x < y) (small : a ≤ top) :
    x * (top + 1) + a < y * (top + 1) + b := by
  have := Nat.mul_le_mul_right (top + 1) shorter
  rw [Nat.succ_mul] at this
  omega

private theorem level_lt_same {top x y a : Nat} (shorter : x < y) :
    x * (top + 1) + a < y * (top + 1) + a := by
  have := Nat.mul_le_mul_right (top + 1) shorter
  rw [Nat.succ_mul] at this
  omega

/-- **Matches an expression at the start of a text that stands at a byte position of the source.** -/
def Grammar.run {ρ : Type} (g : Grammar ρ) (level : Nat) (e : Expression ρ)
    (ranked : e.ranked g.toRanking level = true) (position : Nat) (s : List Char) :
    { step : Step ρ // step.outcome.Splits (e.consumes g.toRanking) s } :=
  match e with
  | .start =>
    if position = 0 then ⟨.nothing s [], by simp [Step.nothing, Outcome.Splits, Expression.consumes]⟩
    else ⟨.failure [], trivial⟩
  | .gap =>
    ⟨⟨.ok [] (g.splitGap s).1 (g.splitGap s).2, []⟩,
      by simp [Outcome.Splits, Expression.consumes, g.splitGap_append]⟩
  | .text w =>
    match found : takeLike (· == ·) w s with
    | none => ⟨.failure [], trivial⟩
    | some (taken, rest) =>
      ⟨⟨.ok [] taken rest, []⟩, by
        have := takeLike_splits found
        simp_all [Outcome.Splits, Expression.consumes]⟩
  | .word w =>
    match found : takeLike sameLetter w s with
    | none => ⟨.failure [], trivial⟩
    | some (taken, rest) =>
      ⟨⟨.ok [] taken rest, []⟩, by
        have := takeLike_splits found
        simp_all [Outcome.Splits, Expression.consumes]⟩
  | .char inClass =>
    match s with
    | [] => ⟨.failure [], trivial⟩
    | c :: rest =>
      if inClass c then ⟨⟨.ok [] [c] rest, []⟩, by simp [Outcome.Splits]⟩
      else ⟨.failure [], trivial⟩
  | .rule r =>
    let body := g.run (g.rank r) (g.body r) (g.body_ranked r) position s
    ⟨.close r position body.1 (g.visibility r), by
      have splits := body.2
      have progress := g.body_consumes r
      cases seen : g.visibility r <;> cases ends : body.1.outcome <;>
        simp_all [Step.close, Step.failure, Outcome.Splits, Expression.consumes]⟩
  | .next a b =>
    have first : a.ranked g.toRanking level = true := by simp_all [Expression.ranked]
    have second : b.ranked g.toRanking (if a.consumes g.toRanking then g.top else level) = true := by
      simp_all [Expression.ranked]
    match g.run level a first position s with
    | ⟨⟨.fail, attempts⟩, _⟩ => ⟨.failure attempts, trivial⟩
    | ⟨⟨.ok nodes taken rest, attempts⟩, splits⟩ =>
      match g.run (if a.consumes g.toRanking then g.top else level) b second
          (position + Text.byteCount taken) rest with
      | ⟨⟨.fail, attempts'⟩, _⟩ => ⟨.failure (attempts ++ attempts'), trivial⟩
      | ⟨⟨.ok nodes' taken' rest', attempts'⟩, splits'⟩ =>
        ⟨⟨.ok (nodes ++ nodes') (taken ++ taken') rest', attempts ++ attempts'⟩, by
          simp_all only [Outcome.Splits, Expression.consumes, Bool.or_eq_true, ne_eq,
            List.append_eq_nil_iff, List.append_assoc]
          grind⟩
  | .choice a b =>
    match g.run level a (by simp_all [Expression.ranked]) position s with
    | ⟨⟨.ok nodes taken rest, attempts⟩, splits⟩ =>
      ⟨⟨.ok nodes taken rest, attempts⟩, by simp_all [Outcome.Splits, Expression.consumes]⟩
    | ⟨⟨.fail, attempts⟩, _⟩ =>
      match g.run level b (by simp_all [Expression.ranked]) position s with
      | ⟨⟨outcome, attempts'⟩, splits⟩ =>
        ⟨⟨outcome, attempts ++ attempts'⟩, by
          cases outcome <;> simp_all [Outcome.Splits, Expression.consumes]⟩
  | .optional a =>
    match g.run level a (by simp_all [Expression.ranked]) position s with
    | ⟨⟨.ok nodes taken rest, attempts⟩, splits⟩ =>
      ⟨⟨.ok nodes taken rest, attempts⟩, by simp_all [Outcome.Splits, Expression.consumes]⟩
    | ⟨⟨.fail, attempts⟩, _⟩ =>
      ⟨.nothing s attempts, by simp [Step.nothing, Outcome.Splits, Expression.consumes]⟩
  | .many a =>
    match g.run level a (by simp_all [Expression.ranked]) position s with
    | ⟨⟨.fail, attempts⟩, _⟩ =>
      ⟨.nothing s attempts, by simp [Step.nothing, Outcome.Splits, Expression.consumes]⟩
    | ⟨⟨.ok nodes taken rest, attempts⟩, splits⟩ =>
      match g.run level (.many a) ranked (position + Text.byteCount taken) rest with
      | ⟨⟨.fail, attempts'⟩, _⟩ => ⟨.failure (attempts ++ attempts'), trivial⟩
      | ⟨⟨.ok nodes' taken' rest', attempts'⟩, splits'⟩ =>
        ⟨⟨.ok (nodes ++ nodes') (taken ++ taken') rest', attempts ++ attempts'⟩, by
          simp_all [Outcome.Splits, Expression.consumes]⟩
  | .absent a =>
    match g.run level a (by simp_all [Expression.ranked]) position s with
    | ⟨⟨.fail, _⟩, _⟩ => ⟨.nothing s [], by simp [Step.nothing, Outcome.Splits, Expression.consumes]⟩
    | ⟨⟨.ok _ _ _, _⟩, _⟩ => ⟨.failure [], trivial⟩
termination_by (s.length * (g.top + 1) + level) * (g.width + 1) + e.size
decreasing_by
  · refine measure_lt_of_lt (Nat.add_lt_add_left (by simpa [Expression.ranked] using ranked) _) ?_
    have := g.body_size r
    simp only [Expression.size]
    omega
  · exact measure_lt_of_le (Nat.le_refl _) (by simp only [Expression.size]; omega)
  · obtain ⟨whole, progress⟩ := splits
    subst whole
    by_cases must : a.consumes g.toRanking = true
    · have := List.length_pos_iff.mpr (progress must)
      rw [dif_pos must]
      refine measure_lt_of_le (Nat.le_of_lt (level_lt ?_ (Nat.le_refl _))) ?_
      · simp only [List.length_append]; omega
      · simp only [Expression.size]; omega
    · rw [dif_neg must]
      refine measure_lt_of_le (Nat.add_le_add_right (Nat.mul_le_mul_right _ ?_) _) ?_
      · simp
      · simp only [Expression.size]; omega
  · exact measure_lt_of_le (Nat.le_refl _) (by simp only [Expression.size]; omega)
  · exact measure_lt_of_le (Nat.le_refl _) (by simp only [Expression.size]; omega)
  · exact measure_lt_of_le (Nat.le_refl _) (by simp only [Expression.size]; omega)
  · exact measure_lt_of_le (Nat.le_refl _) (by simp only [Expression.size]; omega)
  · obtain ⟨whole, progress⟩ := splits
    subst whole
    have := List.length_pos_iff.mpr (progress (by simp_all [Expression.ranked]))
    refine measure_lt_of_lt (level_lt_same ?_) (by omega)
    simp only [List.length_append]
    omega
  · exact measure_lt_of_le (Nat.le_refl _) (by simp only [Expression.size]; omega)

/-- The match of a rule at the start of a source. -/
def Grammar.parse {ρ : Type} (g : Grammar ρ) (name : ρ) (source : List Char) : Step ρ :=
  (g.run g.top (.rule name) (by simpa [Expression.ranked] using g.rank_lt_top name) 0 source).1

end RuleQuery.Peg
