import RuleQuery.Text.Bytes
import RuleQuery.Text.Lowercase

/-!
**Texts up to the letter case of ASCII.**

`Char.toLower` makes a capital of ASCII small and leaves every other character. A text and its image
have

* the same number of bytes (`byteCount_toLower`);
* the same lower-case form (`lowercase_toLower`), although that form looks at the neighbours of a
  character and knows many more capitals.
-/

namespace RuleQuery.Text

/-! ### Characters -/

theorem isAlpha_iff (c : Char) :
    c.isAlpha = true ↔ 65 ≤ c.toNat ∧ c.toNat ≤ 90 ∨ 97 ≤ c.toNat ∧ c.toNat ≤ 122 := by
  show (decide (c.val ≥ 'A'.val ∧ c.val ≤ 'Z'.val) ||
    (decide (c.val ≥ 'a'.val) && decide (c.val ≤ 'z'.val))) = true ↔ _
  simp only [Bool.or_eq_true, Bool.and_eq_true, decide_eq_true_eq, ge_iff_le,
    UInt32.le_iff_toNat_le]
  rfl

theorem toLower_of_not_capital {c : Char} (other : ¬ (65 ≤ c.toNat ∧ c.toNat ≤ 90)) :
    c.toLower = c := by
  have outside : ¬ (c.val ≥ 'A'.val ∧ c.val ≤ 'Z'.val) := by
    rwa [ge_iff_le, UInt32.le_iff_toNat_le, UInt32.le_iff_toNat_le]
  exact dif_neg outside

/-- **What treats each of the 26 capitals as its small letter treats every character so.** -/
theorem toLower_of_capitals {α : Type} {f : Char → α}
    (capitals : ∀ n < 26, f (Char.ofNat (65 + n)).toLower = f (Char.ofNat (65 + n))) (c : Char) :
    f c.toLower = f c := by
  by_cases capital : 65 ≤ c.toNat ∧ c.toNat ≤ 90
  · have found := capitals (c.toNat - 65) (by omega)
    rwa [Nat.add_sub_cancel' capital.1, Char.ofNat_toNat] at found
  · rw [toLower_of_not_capital capital]

theorem toLower_toLower (c : Char) : c.toLower.toLower = c.toLower :=
  toLower_of_capitals (by decide) c

theorem isAlpha_toLower (c : Char) : c.toLower.isAlpha = c.isAlpha :=
  toLower_of_capitals (by decide) c

theorem toLower_of_not_isAlpha {c : Char} (other : c.isAlpha = false) : c.toLower = c := by
  refine toLower_of_not_capital fun capital => ?_
  rw [(isAlpha_iff c).2 (.inl capital)] at other
  cases other

/-- A character that is no letter is the image of itself only. -/
theorem toLower_eq_iff {a : Char} (other : a.isAlpha = false) (c : Char) : c.toLower = a ↔ c = a := by
  constructor
  · rintro rfl
    rw [isAlpha_toLower] at other
    exact (toLower_of_not_isAlpha other).symm
  · rintro rfl
    exact toLower_of_not_isAlpha other

theorem head?_toLower_eq_iff {a : Char} (other : a.isAlpha = false) (s : List Char) :
    (s.map Char.toLower).head? = some a ↔ s.head? = some a := by
  cases s with
  | nil => rfl
  | cons c s => simpa using toLower_eq_iff other c

theorem utf8Size_toLower (c : Char) : c.toLower.utf8Size = c.utf8Size :=
  toLower_of_capitals (by decide) c

theorem isCased_toLower (c : Char) : isCased c.toLower = isCased c :=
  toLower_of_capitals (by decide +kernel) c

theorem CodeRanges.contains_eq_false {ranges : CodeRanges} {c : Char}
    (apart : ∀ range ∈ ranges, range.2 < c.toNat ∨ c.toNat < range.1) :
    ranges.contains c = false := by
  rw [CodeRanges.contains, List.any_eq_false]
  intro range member
  have outside := apart range member
  simp only [Bool.and_eq_true, decide_eq_true_eq]
  omega

/-- No letter of ASCII is case-ignorable. -/
theorem isCaseIgnorable_of_isAlpha {c : Char} (letter : c.isAlpha = true) :
    isCaseIgnorable c = false := by
  have apart : ∀ range ∈ caseIgnorableRanges,
      range.2 < 65 ∨ 90 < range.1 ∧ range.2 < 97 ∨ 122 < range.1 := by decide +kernel
  rw [isAlpha_iff] at letter
  refine CodeRanges.contains_eq_false fun range member => ?_
  have outside := apart range member
  omega

theorem isCaseIgnorable_toLower (c : Char) : isCaseIgnorable c.toLower = isCaseIgnorable c := by
  cases letter : c.isAlpha with
  | false => rw [toLower_of_not_isAlpha letter]
  | true =>
    rw [isCaseIgnorable_of_isAlpha letter]
    rw [← isAlpha_toLower] at letter
    exact isCaseIgnorable_of_isAlpha letter

theorem lowerChar_toLower (c : Char) : lowerChar c.toLower = lowerChar c :=
  toLower_of_capitals (by decide +kernel) c

/-! ### Texts -/

theorem toList_toLower (text : String) : text.toLower.toList = text.toList.map Char.toLower :=
  String.toList_map

theorem byteCount_toLower (s : List Char) : byteCount (s.map Char.toLower) = byteCount s := by
  induction s with
  | nil => rfl
  | cons c s ih => rw [List.map_cons, byteCount, byteCount, utf8Size_toLower, ih]

theorem startsCased_toLower (s : List Char) : startsCased (s.map Char.toLower) = startsCased s := by
  have same : isCaseIgnorable ∘ Char.toLower = isCaseIgnorable := funext isCaseIgnorable_toLower
  rw [startsCased, List.dropWhile_map, same, startsCased]
  cases s.dropWhile isCaseIgnorable with
  | nil => rfl
  | cons c rest => exact isCased_toLower c

theorem endsWord_toLower (before after : List Char) :
    endsWord (before.map Char.toLower) (after.map Char.toLower) = endsWord before after := by
  rw [endsWord, startsCased_toLower, startsCased_toLower, endsWord]

theorem lowercaseAfter_toLower (before s : List Char) :
    lowercaseAfter (before.map Char.toLower) (s.map Char.toLower) = lowercaseAfter before s := by
  induction s generalizing before with
  | nil => rfl
  | cons c s ih =>
    have sigma : c.toLower = '\u03A3' ↔ c = '\u03A3' := toLower_eq_iff (by decide) c
    have others := ih (c :: before)
    rw [List.map_cons] at others
    rw [List.map_cons, lowercaseAfter, lowercaseAfter, others, endsWord_toLower, lowerChar_toLower]
    simp only [sigma]

/-- **The lower-case form of a text does not depend on the letter case of ASCII.** -/
theorem lowercase_toLower (text : String) : lowercase text.toLower = lowercase text := by
  rw [lowercase, toList_toLower]
  exact congrArg String.ofList (lowercaseAfter_toLower [] text.toList)

end RuleQuery.Text
