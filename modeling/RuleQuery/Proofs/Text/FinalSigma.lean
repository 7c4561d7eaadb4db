import RuleQuery.Text.Lowercase

/-!
**The lower-case form of a part of a text.**

Only the form of a capital sigma depends on the text around it.

* `lowercaseBetween`: the form of a part with a text before it and a text after it. A text is made
  small part by part (`lowercaseAfter_append`).
* `lowercaseBetween_congr`: all that matters of the text after a part is whether it starts with a
  letter, where case-ignorable characters are stepped over;
* `EndsInSigma`: the last word of the part ends in a capital sigma. If a letter follows, the sigma is
  not the last letter any more (`count_finalSigma`), and in no other case the form changes
  (`lowercaseBetween_steady`).
* `lowercaseBetween_eq_iff`: so **a part has its own form exactly if not both are the case.**
-/

namespace RuleQuery.Text

/-! ### Parts of a text -/

/-- The lower-case form of a character, given what stands before it, nearest first, and what stands
after it. -/
def formBetween (before : List Char) (c : Char) (after : List Char) : List Char :=
  if c = '\u03A3' then [if endsWord before after then '\u03C2' else '\u03C3'] else lowerChar c

/-- **The lower-case form of a part of a text**, given what stands before it, nearest first, and what
stands after it. -/
def lowercaseBetween (before : List Char) : List Char → List Char → List Char
  | [], _ => []
  | c :: rest, after =>
    formBetween before c (rest ++ after) ++ lowercaseBetween (c :: before) rest after

/-- The rest of a text is a part with nothing after it. -/
theorem lowercaseAfter_eq (before s : List Char) :
    lowercaseAfter before s = lowercaseBetween before s [] := by
  induction s generalizing before with
  | nil => rfl
  | cons c rest ih =>
    rw [lowercaseAfter, ih, lowercaseBetween, List.append_nil]
    rfl

/-- **Two parts have their forms in sequence.** -/
theorem lowercaseBetween_append (before s t after : List Char) :
    lowercaseBetween before (s ++ t) after =
      lowercaseBetween before s (t ++ after) ++
        lowercaseBetween (s.reverse ++ before) t after := by
  induction s generalizing before with
  | nil => rfl
  | cons c rest ih =>
    rw [List.cons_append, lowercaseBetween, ih, lowercaseBetween, List.append_assoc,
      List.append_assoc, List.reverse_cons, List.append_assoc]
    rfl

/-- A part, and the rest of the text after it. -/
theorem lowercaseAfter_append (before s after : List Char) :
    lowercaseAfter before (s ++ after) =
      lowercaseBetween before s after ++ lowercaseAfter (s.reverse ++ before) after := by
  rw [lowercaseAfter_eq, lowercaseBetween_append, List.append_nil, ← lowercaseAfter_eq]

/-! ### What follows a part -/

variable {before s after after' : List Char}

theorem startsCased_append_of_ignorable (ignorable : ∀ c ∈ s, isCaseIgnorable c = true)
    (after : List Char) : startsCased (s ++ after) = startsCased after := by
  rw [startsCased, List.dropWhile_append_of_pos ignorable, startsCased]

theorem startsCased_of_ignorable (ignorable : ∀ c ∈ s, isCaseIgnorable c = true) :
    startsCased s = false := by
  rw [← List.append_nil s, startsCased_append_of_ignorable ignorable]
  rfl

theorem startsCased_append_of_not_ignorable (other : ¬ ∀ c ∈ s, isCaseIgnorable c = true)
    (after : List Char) : startsCased (s ++ after) = startsCased s := by
  induction s with
  | nil => exact absurd nofun other
  | cons c rest ih =>
    rw [startsCased, startsCased, List.cons_append, List.dropWhile_cons, List.dropWhile_cons]
    by_cases ignorable : isCaseIgnorable c = true
    · rw [if_pos ignorable, if_pos ignorable]
      rw [List.forall_mem_cons, and_iff_right ignorable] at other
      exact ih other
    · rw [if_neg ignorable, if_neg ignorable]

theorem startsCased_append_congr (same : startsCased after = startsCased after') (s : List Char) :
    startsCased (s ++ after) = startsCased (s ++ after') := by
  by_cases ignorable : ∀ c ∈ s, isCaseIgnorable c = true
  · rw [startsCased_append_of_ignorable ignorable, same, startsCased_append_of_ignorable ignorable]
  · rw [startsCased_append_of_not_ignorable ignorable,
      startsCased_append_of_not_ignorable ignorable]

/-- **Of the text after a part only matters whether it starts with a letter.** -/
theorem lowercaseBetween_congr (same : startsCased after = startsCased after') :
    lowercaseBetween before s after = lowercaseBetween before s after' := by
  induction s generalizing before with
  | nil => rfl
  | cons c rest ih =>
    rw [lowercaseBetween, lowercaseBetween, ih, formBetween, formBetween, endsWord, endsWord,
      startsCased_append_congr same]

/-! ### Final sigmas -/

/-- **The last word of a text ends in a capital sigma**, given what stands before the text, nearest
first. After the sigma there may be case-ignorable characters. -/
def EndsInSigma (before s : List Char) : Prop :=
  ∃ front back, s = front ++ '\u03A3' :: back ∧ startsCased (front.reverse ++ before) = true ∧
    ∀ c ∈ back, isCaseIgnorable c = true

theorem EndsInSigma.cons {c : Char} (ends : EndsInSigma (c :: before) s) :
    EndsInSigma before (c :: s) := by
  obtain ⟨front, back, split, cased, ignorable⟩ := ends
  refine ⟨c :: front, back, by rw [split]; rfl, ?_, ignorable⟩
  rwa [List.reverse_cons, List.append_assoc]

theorem not_ignorable_of_sigma (sigma : '\u03A3' ∈ s) : ¬ ∀ c ∈ s, isCaseIgnorable c = true :=
  fun ignorable => absurd (ignorable '\u03A3' sigma) (by decide +kernel)

theorem not_endsInSigma_of_ignorable (ignorable : ∀ c ∈ s, isCaseIgnorable c = true) :
    ¬ EndsInSigma before s := by
  rintro ⟨front, back, rfl, -, -⟩
  exact not_ignorable_of_sigma (by simp) ignorable

/-- **A part keeps its form** before a text that does not start with a letter, and if it does not end
in a capital sigma. -/
theorem lowercaseBetween_steady (apart : ¬ (EndsInSigma before s ∧ startsCased after = true)) :
    lowercaseBetween before s after = lowercaseBetween before s [] := by
  induction s generalizing before with
  | nil => rfl
  | cons c rest ih =>
    have tail := ih fun both => apart ⟨both.1.cons, both.2⟩
    have head : formBetween before c (rest ++ after) = formBetween before c rest := by
      unfold formBetween
      by_cases sigma : c = '\u03A3'
      · by_cases ignorable : ∀ c ∈ rest, isCaseIgnorable c = true
        · -- No letter stands between the sigma and the text after the part.
          have one : ¬ (startsCased before = true ∧ startsCased after = true) :=
            fun both => apart ⟨⟨[], rest, by rw [sigma]; rfl, both.1, ignorable⟩, both.2⟩
          have word : endsWord before (rest ++ after) = endsWord before rest := by
            rw [endsWord, startsCased_append_of_ignorable ignorable, endsWord,
              startsCased_of_ignorable ignorable]
            revert one
            cases startsCased before <;> cases startsCased after <;> simp
          rw [word]
        · rw [endsWord, startsCased_append_of_not_ignorable ignorable, ← endsWord]
      · rw [if_neg sigma, if_neg sigma]
    rw [lowercaseBetween, head, tail, lowercaseBetween, List.append_nil]

/-- **A final sigma is lost** if a letter follows a part that ends in a capital sigma. -/
theorem count_finalSigma (ends : EndsInSigma before s) (letter : startsCased after = true) :
    (lowercaseBetween before s after).count '\u03C2' + 1 =
      (lowercaseBetween before s []).count '\u03C2' := by
  obtain ⟨front, back, rfl, cased, ignorable⟩ := ends
  -- The sigma itself is the first letter after the front, whatever follows the part.
  have fronts : lowercaseBetween before front ('\u03A3' :: back ++ after) =
      lowercaseBetween before front ('\u03A3' :: back ++ []) := by
    refine lowercaseBetween_congr ?_
    rw [startsCased_append_of_not_ignorable (not_ignorable_of_sigma (by simp)),
      startsCased_append_of_not_ignorable (not_ignorable_of_sigma (by simp))]
  have inner : formBetween (front.reverse ++ before) '\u03A3' (back ++ after) = ['\u03C3'] := by
    rw [formBetween, if_pos rfl, endsWord, startsCased_append_of_ignorable ignorable, letter, cased]
    rfl
  have final : formBetween (front.reverse ++ before) '\u03A3' (back ++ []) = ['\u03C2'] := by
    rw [formBetween, if_pos rfl, endsWord, startsCased_append_of_ignorable ignorable, cased]
    rfl
  have backs : lowercaseBetween ('\u03A3' :: (front.reverse ++ before)) back after =
      lowercaseBetween ('\u03A3' :: (front.reverse ++ before)) back [] :=
    lowercaseBetween_steady fun both => not_endsInSigma_of_ignorable ignorable both.1
  rw [lowercaseBetween_append, lowercaseBetween_append, fronts, lowercaseBetween, inner, backs,
    lowercaseBetween, final]
  simp only [List.count_append]
  have small : List.count '\u03C2' ['\u03C3'] = 0 := rfl
  have one : List.count '\u03C2' ['\u03C2'] = 1 := rfl
  omega

/-- **A part has its own form** exactly if it does not end in a capital sigma with a letter after
it. -/
theorem lowercaseBetween_eq_iff :
    lowercaseBetween before s after = lowercaseBetween before s [] ↔
      ¬ (EndsInSigma before s ∧ startsCased after = true) := by
  refine ⟨fun same both => ?_, lowercaseBetween_steady⟩
  have fewer := count_finalSigma both.1 both.2
  rw [same] at fewer
  omega

/-- A dot and a letter take the final sigma from the word before them. -/
example : lowercase "ΟΔΟΣ" = "οδος" ∧ lowercase "ΟΔΟΣ.id" = "οδοσ.id" := by decide +kernel

end RuleQuery.Text
