import RuleQuery.Peg.Matcher

/-!
**What an expression matches, as a relation.**

`Grammar.run` carries levels, ranks and attempts, which say why matching ends and where it failed.
The relation `Matches` has none of them: an expression, a place, the text from there, and how the
match ends.

* `Grammar.run_matches`: a run ends as the relation says.
* `Matches.run_eq`: the relation determines every run, at every level.
* `Matches.rule_unique`: so the relation is deterministic.
-/

namespace RuleQuery.Peg

variable {ρ : Type}

namespace Outcome

/-- The outcome after a first match with these nodes and characters. -/
def after (nodes : List (Node ρ)) (taken : List Char) : Outcome ρ → Outcome ρ
  | fail => fail
  | ok nodes' taken' rest => ok (nodes ++ nodes') (taken ++ taken') rest

/-- The outcome of a call to a rule whose body ends so. -/
def close (name : ρ) (position : Nat) : Visibility → Outcome ρ → Outcome ρ
  | _, fail => fail
  | .silent, ok nodes taken rest => ok nodes taken rest
  | .plain, ok nodes taken rest => ok [.mk name position taken nodes] taken rest
  | .atomic, ok _ taken rest => ok [.mk name position taken []] taken rest

theorem exists_of_after_eq_ok {nodes all : List (Node ρ)} {taken text rest : List Char}
    {outcome : Outcome ρ} (ends : outcome.after nodes taken = .ok all text rest) :
    ∃ nodes' taken', outcome = .ok nodes' taken' rest ∧ all = nodes ++ nodes' ∧
      text = taken ++ taken' := by
  cases outcome with
  | fail => cases ends
  | ok nodes' taken' rest' =>
    cases ends
    exact ⟨nodes', taken', rfl, rfl, rfl⟩

end Outcome

theorem Step.close_outcome (name : ρ) (position : Nat) (body : Step ρ) (seen : Visibility) :
    (body.close name position seen).outcome = body.outcome.close name position seen := by
  obtain ⟨outcome, attempts⟩ := body
  cases seen <;> cases outcome <;> rfl

/-- **The expression, at a place with a text from there on, ends in the outcome.** -/
inductive Matches (g : Grammar ρ) : Expression ρ → Nat → List Char → Outcome ρ → Prop where
  | start (s) : Matches g .start 0 s (.ok [] [] s)
  | start_fail {position s} (inside : position ≠ 0) : Matches g .start position s .fail
  | gap (position s) : Matches g .gap position s (.ok [] (g.splitGap s).1 (g.splitGap s).2)
  | text {w position s taken rest} (found : takeLike (· == ·) w s = some (taken, rest)) :
      Matches g (.text w) position s (.ok [] taken rest)
  | text_fail {w position s} (missing : takeLike (· == ·) w s = none) :
      Matches g (.text w) position s .fail
  | word {w position s taken rest} (found : takeLike sameLetter w s = some (taken, rest)) :
      Matches g (.word w) position s (.ok [] taken rest)
  | word_fail {w position s} (missing : takeLike sameLetter w s = none) :
      Matches g (.word w) position s .fail
  | char {inClass : Char → Bool} {c : Char} (member : inClass c = true) (position rest) :
      Matches g (.char inClass) position (c :: rest) (.ok [] [c] rest)
  | char_end (inClass position) : Matches g (.char inClass) position [] .fail
  | char_fail {inClass : Char → Bool} {c : Char} (other : inClass c = false) (position rest) :
      Matches g (.char inClass) position (c :: rest) .fail
  | rule {r position s outcome} (inside : Matches g (g.body r) position s outcome) :
      Matches g (.rule r) position s (outcome.close r position (g.visibility r))
  | next {a b position s nodes taken rest outcome}
      (first : Matches g a position s (.ok nodes taken rest))
      (second : Matches g b (position + Text.byteCount taken) rest outcome) :
      Matches g (.next a b) position s (outcome.after nodes taken)
  | next_fail {a position s} (b) (first : Matches g a position s .fail) :
      Matches g (.next a b) position s .fail
  | first {a position s nodes taken rest} (b)
      (found : Matches g a position s (.ok nodes taken rest)) :
      Matches g (.choice a b) position s (.ok nodes taken rest)
  | second {a b position s outcome} (missing : Matches g a position s .fail)
      (other : Matches g b position s outcome) : Matches g (.choice a b) position s outcome
  | optional {a position s nodes taken rest}
      (found : Matches g a position s (.ok nodes taken rest)) :
      Matches g (.optional a) position s (.ok nodes taken rest)
  | skip {a position s} (missing : Matches g a position s .fail) :
      Matches g (.optional a) position s (.ok [] [] s)
  | again {a position s nodes taken rest outcome}
      (first : Matches g a position s (.ok nodes taken rest))
      (others : Matches g (.many a) (position + Text.byteCount taken) rest outcome) :
      Matches g (.many a) position s (outcome.after nodes taken)
  | stop {a position s} (missing : Matches g a position s .fail) :
      Matches g (.many a) position s (.ok [] [] s)
  | absent {a position s} (missing : Matches g a position s .fail) :
      Matches g (.absent a) position s (.ok [] [] s)
  | present {a position s nodes taken rest}
      (found : Matches g a position s (.ok nodes taken rest)) :
      Matches g (.absent a) position s .fail

variable {g : Grammar ρ} {e : Expression ρ} {position : Nat} {s : List Char} {outcome : Outcome ρ}

/-! ### Runs and the relation -/

/-- **A run ends as the relation says.** -/
theorem Grammar.run_matches (level : Nat) (ranked : e.ranked g.toRanking level = true) :
    Matches g e position s (g.run level e ranked position s).1.outcome := by
  fun_induction Grammar.run g level e ranked position s with
  | case1 => exact .start _
  | case2 _ _ _ _ inside => exact .start_fail inside
  | case3 => exact .gap _ _
  | case4 _ _ _ _ _ missing => exact .text_fail missing
  | case5 _ _ _ _ _ _ _ found => exact .text found
  | case6 _ _ _ _ _ missing => exact .word_fail missing
  | case7 _ _ _ _ _ _ _ found => exact .word found
  | case8 => exact .char_end _ _
  | case9 _ _ _ _ _ _ member => exact .char member _ _
  | case10 _ _ _ _ _ _ other => exact .char_fail (Bool.not_eq_true _ ▸ other) _ _
  | case11 _ _ _ _ _ body _ inside =>
    show Matches _ _ _ _ (Step.close _ _ body.1 _).outcome
    rw [Step.close_outcome]
    exact .rule inside
  | case12 => next failed _ first =>
    rw [failed] at first
    exact .next_fail _ first
  | case13 => next found _ _ failed _ first second =>
    rw [found] at first
    rw [failed] at second
    exact (Matches.next first second :)
  | case14 => next found _ _ _ _ _ found' _ first second =>
    rw [found] at first
    rw [found'] at second
    exact (Matches.next first second :)
  | case15 => next found _ first =>
    rw [found] at first
    exact .first _ first
  | case16 => next failed _ _ _ found _ first second =>
    rw [failed] at first
    rw [found] at second
    exact .second first second
  | case17 => next found _ inside =>
    rw [found] at inside
    exact .optional inside
  | case18 => next failed _ inside =>
    rw [failed] at inside
    exact .skip inside
  | case19 => next failed _ inside =>
    rw [failed] at inside
    exact .stop inside
  | case20 => next found _ _ failed _ first others =>
    rw [found] at first
    rw [failed] at others
    exact (Matches.again first others :)
  | case21 => next found _ _ _ _ _ found' _ first others =>
    rw [found] at first
    rw [found'] at others
    exact (Matches.again first others :)
  | case22 => next failed _ inside =>
    rw [failed] at inside
    exact .absent inside
  | case23 => next found _ inside =>
    rw [found] at inside
    exact .present inside

/-- **The relation determines every run.** -/
theorem Matches.run_eq (derivation : Matches g e position s outcome) (level : Nat)
    (ranked : e.ranked g.toRanking level = true) :
    (g.run level e ranked position s).1.outcome = outcome := by
  induction derivation generalizing level with
  | start => rw [Grammar.run]; rfl
  | start_fail inside => rw [Grammar.run, if_neg inside]; rfl
  | gap => rw [Grammar.run]
  | text found =>
    rw [Grammar.run]
    split
    · next missing => rw [found] at missing; contradiction
    · next found' => rw [found] at found'; cases found'; rfl
  | text_fail missing =>
    rw [Grammar.run]
    split
    · rfl
    · next found => rw [missing] at found; contradiction
  | word found =>
    rw [Grammar.run]
    split
    · next missing => rw [found] at missing; contradiction
    · next found' => rw [found] at found'; cases found'; rfl
  | word_fail missing =>
    rw [Grammar.run]
    split
    · rfl
    · next found => rw [missing] at found; contradiction
  | char member => rw [Grammar.run]; simp [member]
  | char_end => rw [Grammar.run]; rfl
  | char_fail other => rw [Grammar.run]; simp [other, Step.failure]
  | rule _ inside =>
    rw [Grammar.run]
    dsimp only
    rw [Step.close_outcome, inside]
  | next _ _ first second =>
    rw [Grammar.run]
    have parts := by simpa [Expression.ranked] using ranked
    have first := first level parts.1
    split
    · next failed => rw [failed] at first; cases first
    · next found =>
      rw [found] at first
      cases first
      have second := second _ parts.2
      split
      · next failed => rw [failed] at second; subst second; rfl
      · next found' => rw [found'] at second; subst second; rfl
  | next_fail _ _ first =>
    rw [Grammar.run]
    have parts := by simpa [Expression.ranked] using ranked
    have first := first level parts.1
    split
    · rfl
    · next found => rw [found] at first; cases first
  | first _ _ inside =>
    rw [Grammar.run]
    have parts := by simpa [Expression.ranked] using ranked
    have inside := inside level parts.1
    split
    · next found => rw [found] at inside; exact inside
    · next failed => rw [failed] at inside; cases inside
  | second _ _ missing other =>
    rw [Grammar.run]
    have parts := by simpa [Expression.ranked] using ranked
    have missing := missing level parts.1
    have other := other level parts.2
    split
    · next found => rw [found] at missing; cases missing
    · split
      next found => rw [found] at other; exact other
  | optional _ inside =>
    rw [Grammar.run]
    have inside := inside level (by simpa [Expression.ranked] using ranked)
    split
    · next found => rw [found] at inside; exact inside
    · next failed => rw [failed] at inside; cases inside
  | skip _ inside =>
    rw [Grammar.run]
    have inside := inside level (by simpa [Expression.ranked] using ranked)
    split
    · next found => rw [found] at inside; cases inside
    · rfl
  | again _ _ first others =>
    rw [Grammar.run]
    have parts := by simpa [Expression.ranked] using ranked
    have first := first level parts.1
    split
    · next failed => rw [failed] at first; cases first
    · next found =>
      rw [found] at first
      cases first
      have others := others level ranked
      split
      · next failed => rw [failed] at others; subst others; rfl
      · next found' => rw [found'] at others; subst others; rfl
  | stop _ inside =>
    rw [Grammar.run]
    have parts := by simpa [Expression.ranked] using ranked
    have inside := inside level parts.1
    split
    · rfl
    · next found => rw [found] at inside; cases inside
  | absent _ inside =>
    rw [Grammar.run]
    have inside := inside level (by simpa [Expression.ranked] using ranked)
    split
    · rfl
    · next found => rw [found] at inside; cases inside
  | present _ inside =>
    rw [Grammar.run]
    have inside := inside level (by simpa [Expression.ranked] using ranked)
    split
    · next failed => rw [failed] at inside; cases inside
    · rfl

/-- **A rule ends in one way at a place.** -/
theorem Matches.rule_unique {r : ρ} {other : Outcome ρ}
    (derivation : Matches g (.rule r) position s outcome)
    (derivation' : Matches g (.rule r) position s other) : outcome = other := by
  have ranked : (Expression.rule r).ranked g.toRanking g.top = true := by
    simpa [Expression.ranked] using g.rank_lt_top r
  rw [← derivation.run_eq g.top ranked, derivation'.run_eq g.top ranked]

/-- The match of a rule at the start of a source ends as the relation says. -/
theorem Grammar.parse_outcome_eq_iff {r : ρ} {source : List Char} :
    (g.parse r source).outcome = outcome ↔ Matches g (.rule r) 0 source outcome := by
  constructor
  · intro ends
    rw [← ends]
    exact g.run_matches g.top _
  · intro derivation
    exact derivation.run_eq g.top _

/-! ### Calls to rules -/

variable {r : ρ} {nodes : List (Node ρ)} {taken rest : List Char}

theorem Matches.silent (seen : g.visibility r = .silent)
    (inside : Matches g (g.body r) position s outcome) : Matches g (.rule r) position s outcome := by
  have call := Matches.rule inside
  rw [seen] at call
  cases outcome <;> exact call

theorem Matches.plain (seen : g.visibility r = .plain)
    (inside : Matches g (g.body r) position s (.ok nodes taken rest)) :
    Matches g (.rule r) position s (.ok [.mk r position taken nodes] taken rest) := by
  have call := Matches.rule inside
  rwa [seen] at call

theorem Matches.atomic (seen : g.visibility r = .atomic)
    (inside : Matches g (g.body r) position s (.ok nodes taken rest)) :
    Matches g (.rule r) position s (.ok [.mk r position taken []] taken rest) := by
  have call := Matches.rule inside
  rwa [seen] at call

theorem Matches.rule_fail (inside : Matches g (g.body r) position s .fail) :
    Matches g (.rule r) position s .fail := by
  have call := Matches.rule inside
  cases seen : g.visibility r <;> rwa [seen] at call

/-! ### Choices of several expressions -/

variable {es : List (Expression ρ)}

theorem Matches.anyOf_first (es) (found : Matches g e position s (.ok nodes taken rest)) :
    Matches g (.anyOf (e :: es)) position s (.ok nodes taken rest) := by
  cases es with
  | nil => exact found
  | cons => exact .first _ found

theorem Matches.anyOf_later (missing : Matches g e position s .fail)
    (later : Matches g (.anyOf es) position s outcome) :
    Matches g (.anyOf (e :: es)) position s outcome := by
  cases es with
  | nil =>
    -- no expression is left: only a failure is possible
    cases later with
    | absent never => cases never with | text_fail nothing => cases nothing
    | present => exact missing
  | cons => exact .second missing later

theorem Matches.anyOf_none (position : Nat) (s : List Char) :
    Matches g (.anyOf []) position s .fail :=
  .present (.text rfl)

/-! ### Literals and runs of characters -/

/-- A literal in either letter case takes its letters and nothing else. -/
theorem takeLike_sameLetter_eq_some_iff {w s taken rest : List Char} :
    takeLike sameLetter w s = some (taken, rest) ↔
      taken ++ rest = s ∧ taken.map Char.toLower = w.map Char.toLower := by
  induction w generalizing s taken with
  | nil =>
    rw [takeLike, List.map_nil, List.map_eq_nil_iff, Option.some.injEq, Prod.mk.injEq]
    constructor
    · rintro ⟨rfl, rfl⟩
      exact ⟨rfl, rfl⟩
    · rintro ⟨rfl, rfl⟩
      exact ⟨rfl, rfl⟩
  | cons a w ih =>
    cases s with
    | nil =>
      rw [takeLike]
      constructor
      · intro none
        cases none
      · rintro ⟨whole, same⟩
        rw [(List.append_eq_nil_iff.1 whole).1] at same
        cases same
    | cons c s =>
      rw [takeLike]
      cases taken with
      | nil => split <;> simp
      | cons d taken =>
        by_cases same : sameLetter a c = true
        · rw [if_pos same, Option.map_eq_some_iff]
          simp only [Prod.exists, Prod.mk.injEq, List.cons.injEq, List.cons_append,
            List.map_cons]
          have same := beq_iff_eq.1 same
          grind
        · rw [if_neg same]
          have other : c.toLower ≠ a.toLower := fun eq => same (beq_iff_eq.2 eq.symm)
          simp only [List.cons_append, List.cons.injEq, List.map_cons]
          grind

/-- A literal takes itself. -/
theorem takeLike_beq_eq_some_iff {w s taken rest : List Char} :
    takeLike (· == ·) w s = some (taken, rest) ↔ taken = w ∧ w ++ rest = s := by
  induction w generalizing s taken with
  | nil =>
    rw [takeLike, Option.some.injEq, Prod.mk.injEq]
    constructor
    · rintro ⟨rfl, rfl⟩
      exact ⟨rfl, rfl⟩
    · rintro ⟨rfl, rfl⟩
      exact ⟨rfl, rfl⟩
  | cons a w ih =>
    cases s with
    | nil => simp [takeLike]
    | cons c s =>
      rw [takeLike]
      by_cases same : a = c
      · rw [if_pos (beq_iff_eq.2 same), Option.map_eq_some_iff]
        simp only [Prod.exists, Prod.mk.injEq, List.cons_append, List.cons.injEq]
        grind
      · rw [if_neg (fun equal => same (beq_iff_eq.1 equal))]
        simp [same]

/-- A choice of literals takes one of them. -/
theorem Matches.mem_of_anyOf_text {ws : List (List Char)}
    (derivation : Matches g (.anyOf (ws.map .text)) position s (.ok nodes taken rest)) :
    taken ∈ ws := by
  induction ws with
  | nil =>
    cases derivation with
    | absent never =>
      cases never with
      | text_fail nothing => cases nothing
  | cons w ws ih =>
    cases ws with
    | nil =>
      cases derivation with
      | text found => exact List.mem_singleton.2 (takeLike_beq_eq_some_iff.1 found).1
    | cons =>
      cases derivation with
      | first _ found =>
        cases found with
        | text found => exact List.mem_cons.2 (.inl (takeLike_beq_eq_some_iff.1 found).1)
      | second _ later => exact List.mem_cons_of_mem _ (ih later)

/-- How the match of one character of a class ends. -/
def Outcome.ofChar (inClass : Char → Bool) : List Char → Outcome ρ
  | [] => fail
  | c :: rest => if inClass c then ok [] [c] rest else fail

/-- **What reads one character of a class reads a whole run of it when repeated.** -/
theorem Matches.many_ofChar {inClass : Char → Bool}
    (single : ∀ position s, Matches g e position s (.ofChar inClass s)) (position : Nat)
    (s : List Char) :
    Matches g (.many e) position s (.ok [] (s.takeWhile inClass) (s.dropWhile inClass)) := by
  induction s generalizing position with
  | nil => exact .stop (single position [])
  | cons c rest ih =>
    have first := single position (c :: rest)
    rw [Outcome.ofChar] at first
    by_cases member : inClass c = true
    · rw [if_pos member] at first
      rw [List.takeWhile_cons_of_pos member, List.dropWhile_cons_of_pos member]
      exact (Matches.again first (ih _) :)
    · rw [if_neg member] at first
      rw [List.takeWhile_cons_of_neg member, List.dropWhile_cons_of_neg member]
      exact .stop first

theorem Matches.char_ofChar (inClass : Char → Bool) (position : Nat) (s : List Char) :
    Matches g (.char inClass) position s (.ofChar inClass s) := by
  cases s with
  | nil => exact .char_end _ _
  | cons c rest =>
    rw [Outcome.ofChar]
    by_cases member : inClass c = true
    · rw [if_pos member]
      exact .char member _ _
    · rw [if_neg member]
      exact .char_fail (Bool.not_eq_true _ ▸ member) _ _

end RuleQuery.Peg
