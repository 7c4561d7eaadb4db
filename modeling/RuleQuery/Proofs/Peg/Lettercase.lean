import RuleQuery.Proofs.Peg.Derivation
import RuleQuery.Proofs.Text.Lettercase

/-!
**Matches up to the letter case of ASCII.**

An expression is caseless if its literals are words or have no letters, and its classes do not tell a
capital from its small letter.

* `Matches.toLower`: in a caseless grammar, **a text in small letters is matched as the text is**,
  branch by branch, with the same tree up to the letter case of what its nodes took.
* `Matches.taken_of_takesOnly`: what an expression takes consists of the characters that it asks for.
-/

namespace RuleQuery.Peg

variable {ρ : Type}

/-! ### Trees in small letters -/

mutual

/-- A tree with its texts in small letters. -/
def Node.toLower : Node ρ → Node ρ
  | .mk rule start text children =>
    .mk rule start (text.map Char.toLower) (Node.allToLower children)

/-- Trees with their texts in small letters. -/
def Node.allToLower : List (Node ρ) → List (Node ρ)
  | [] => []
  | node :: rest => node.toLower :: Node.allToLower rest

end

theorem Node.allToLower_append (xs ys : List (Node ρ)) :
    Node.allToLower (xs ++ ys) = Node.allToLower xs ++ Node.allToLower ys := by
  induction xs with
  | nil => rfl
  | cons node xs ih => rw [List.cons_append, allToLower, ih, allToLower, List.cons_append]

namespace Outcome

/-- An outcome with all its texts in small letters. -/
def toLower : Outcome ρ → Outcome ρ
  | fail => fail
  | ok nodes taken rest =>
    ok (Node.allToLower nodes) (taken.map Char.toLower) (rest.map Char.toLower)

theorem toLower_after (nodes : List (Node ρ)) (taken : List Char) (outcome : Outcome ρ) :
    (outcome.after nodes taken).toLower =
      outcome.toLower.after (Node.allToLower nodes) (taken.map Char.toLower) := by
  cases outcome with
  | fail => rfl
  | ok nodes' taken' rest => simp [after, toLower, Node.allToLower_append]

theorem toLower_close (name : ρ) (position : Nat) (seen : Visibility) (outcome : Outcome ρ) :
    (outcome.close name position seen).toLower = outcome.toLower.close name position seen := by
  cases outcome <;> cases seen <;> rfl

end Outcome

/-! ### Caseless grammars -/

/-- Both parts of a text in small letters. -/
def bothToLower (parts : List Char × List Char) : List Char × List Char :=
  (parts.1.map Char.toLower, parts.2.map Char.toLower)

/-- **The expression matches in either letter case.** -/
def Expression.Caseless : Expression ρ → Prop
  | start | gap | word _ | rule _ => True
  | text w => ∀ a ∈ w, a.isAlpha = false
  | char inClass => ∀ c : Char, inClass c.toLower = inClass c
  | next a b | choice a b => a.Caseless ∧ b.Caseless
  | optional a | many a | absent a => a.Caseless

/-- **All that the grammar matches is caseless**, gaps included. -/
structure Grammar.Caseless (g : Grammar ρ) : Prop where
  body : ∀ r, (g.body r).Caseless
  gap : ∀ s, g.splitGap (s.map Char.toLower) = bothToLower (g.splitGap s)

theorem takeLike_toLower {same : Char → Char → Bool} {w : List Char}
    (blind : ∀ a ∈ w, ∀ c : Char, same a c.toLower = same a c) (s : List Char) :
    takeLike same w (s.map Char.toLower) = (takeLike same w s).map bothToLower := by
  induction w generalizing s with
  | nil => rfl
  | cons a w ih =>
    cases s with
    | nil => rfl
    | cons c s =>
      rw [List.forall_mem_cons] at blind
      rw [List.map_cons, takeLike, takeLike, blind.1, ih blind.2]
      split
      · cases takeLike same w s <;> rfl
      · rfl

theorem takeLike_word_toLower (w s : List Char) :
    takeLike sameLetter w (s.map Char.toLower) = (takeLike sameLetter w s).map bothToLower := by
  refine takeLike_toLower (fun a _ c => ?_) s
  rw [sameLetter, Text.toLower_toLower, sameLetter]

theorem takeLike_text_toLower {w : List Char} (signs : ∀ a ∈ w, a.isAlpha = false) (s : List Char) :
    takeLike (· == ·) w (s.map Char.toLower) = (takeLike (· == ·) w s).map bothToLower := by
  refine takeLike_toLower (fun a member c => ?_) s
  have same := Text.toLower_eq_iff (signs a member) c
  rw [Bool.eq_iff_iff, beq_iff_eq, beq_iff_eq, eq_comm, same, eq_comm]

variable {g : Grammar ρ} {e : Expression ρ} {position : Nat} {s : List Char} {outcome : Outcome ρ}

/-- **A text in small letters is matched as the text is.** -/
theorem Matches.toLower (caseless : g.Caseless) (derivation : Matches g e position s outcome)
    (here : e.Caseless) : Matches g e position (s.map Char.toLower) outcome.toLower := by
  induction derivation with
  | start => exact .start _
  | start_fail inside => exact .start_fail inside
  | gap position s =>
    have found := Matches.gap (g := g) position (s.map Char.toLower)
    rwa [caseless.gap] at found
  | text found => exact .text (by rw [takeLike_text_toLower here, found]; rfl)
  | text_fail missing => exact .text_fail (by rw [takeLike_text_toLower here, missing]; rfl)
  | word found => exact .word (by rw [takeLike_word_toLower, found]; rfl)
  | word_fail missing => exact .word_fail (by rw [takeLike_word_toLower, missing]; rfl)
  | @char _ c member => exact .char ((here c).trans member) _ _
  | char_end => exact .char_end _ _
  | @char_fail _ c other => exact .char_fail ((here c).trans other) _ _
  | rule _ inside =>
    rw [Outcome.toLower_close]
    exact .rule (inside (caseless.body _))
  | next _ _ first second =>
    have second := second here.2
    rw [← Text.byteCount_toLower] at second
    rw [Outcome.toLower_after]
    exact .next (first here.1) second
  | next_fail _ _ first => exact .next_fail _ (first here.1)
  | first _ _ found => exact .first _ (found here.1)
  | second _ _ missing other => exact .second (missing here.1) (other here.2)
  | optional _ found => exact .optional (found here)
  | skip _ missing => exact .skip (missing here)
  | again _ _ first others =>
    have others := others here
    rw [← Text.byteCount_toLower] at others
    rw [Outcome.toLower_after]
    exact .again (first here) others
  | stop _ missing => exact .stop (missing here)
  | absent _ missing => exact .absent (missing here)
  | present _ found => exact .present (found here)

/-- The match of a rule at the start of a text in small letters. -/
theorem Grammar.parse_toLower (caseless : g.Caseless) (r : ρ) (source : List Char) :
    (g.parse r (source.map Char.toLower)).outcome = (g.parse r source).outcome.toLower :=
  Grammar.parse_outcome_eq_iff.2
    ((Grammar.parse_outcome_eq_iff.1 rfl).toLower caseless trivial)

/-! ### What an expression takes -/

/-- The expression asks for characters of a kind only, and calls no rules. -/
def Expression.TakesOnly (good : Char → Prop) : Expression ρ → Prop
  | start | absent _ => True
  | text w => ∀ c ∈ w, good c
  | char inClass => ∀ c, inClass c = true → good c
  | next a b | choice a b => a.TakesOnly good ∧ b.TakesOnly good
  | optional a | many a => a.TakesOnly good
  | gap | word _ | rule _ => False

/-- **An expression takes the characters that it asks for.** -/
theorem Matches.taken_of_takesOnly {good : Char → Prop} {nodes : List (Node ρ)}
    {taken rest : List Char} (derivation : Matches g e position s outcome)
    (ends : outcome = .ok nodes taken rest) (only : e.TakesOnly good) : ∀ c ∈ taken, good c := by
  induction derivation generalizing nodes taken rest with
  | start => cases ends; exact nofun
  | text found =>
    cases ends
    rwa [(takeLike_beq_eq_some_iff.1 found).1]
  | char member =>
    cases ends
    exact List.forall_mem_singleton.2 (only _ member)
  | next _ _ first second =>
    obtain ⟨_, _, rfl, rfl, rfl⟩ := Outcome.exists_of_after_eq_ok ends
    exact List.forall_mem_append.2 ⟨first rfl only.1, second rfl only.2⟩
  | first _ _ found => exact found ends only.1
  | second _ _ _ other => exact other ends only.2
  | optional _ found => exact found ends only
  | skip => cases ends; exact nofun
  | again _ _ first others =>
    obtain ⟨_, _, rfl, rfl, rfl⟩ := Outcome.exists_of_after_eq_ok ends
    exact List.forall_mem_append.2 ⟨first rfl only, others rfl only⟩
  | stop => cases ends; exact nofun
  | absent => cases ends; exact nofun
  | gap => exact only.elim
  | word => exact only.elim
  | rule => exact only.elim
  | _ => cases ends

end RuleQuery.Peg
