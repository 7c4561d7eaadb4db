import Mathlib.Data.List.DropRight
import Mathlib.Data.List.Induction
import RuleQuery.Proofs.Text.FinalSigma
import RuleQuery.Proofs.Text.Lettercase
import RuleQuery.Proofs.Text.Runs
import RuleQuery.Text.Blank

/-!
**Classes of characters that lower-casing respects.**

* `formBetween_cases`: what the lower-case form of one character can be;
* `Caseless`: no form has a character in the class for one outside, or the other way round. A set of
  ranges is such a class if no letter with a form, and no form, lies in it (`caseless_of_apart`); white
  space is one (`caseless_isBlank`), and so is the dot (`caseless_dot`).
* `trim_of_solid_ends` and `trim_eq_nil_iff`: what trimming leaves as it is, and what it empties;
* `trim_lowercaseBetween`: **so the form of a text without white space at its ends has none there.**
-/

namespace RuleQuery.Text

/-! ### The form of a character -/

/-- The form that a row gives is the character that many places after the row's first small letter. -/
theorem CaseRow.toNat_image {row : CaseRow} (member : row ∈ caseRows) {c : Char}
    (covered : row.covers c = true) :
    (row.image c).toNat = row.small + (c.toNat - row.first) := by
  have places : ∀ row ∈ caseRows, row.small + (row.last - row.first) < 0xD800 ∨
      0xDFFF < row.small ∧ row.small + (row.last - row.first) < 0x110000 := by decide +kernel
  have bounds := places row member
  simp only [CaseRow.covers, Bool.and_eq_true, decide_eq_true_eq] at covered
  have valid : (row.small + (c.toNat - row.first)).isValidChar := by
    rw [Nat.isValidChar]
    omega
  rw [CaseRow.image, Char.ofNat, dif_pos valid]
  rfl

/-- **What the form of a character can be**: the character, its image in a row, an i with a combining
dot, or a small sigma. -/
theorem formBetween_cases (before : List Char) (c : Char) (after : List Char) :
    formBetween before c after = [c] ∨
      (∃ row ∈ caseRows, row.covers c = true ∧ formBetween before c after = [row.image c]) ∨
      (c = '\u0130' ∧ formBetween before c after = ['i', '\u0307']) ∨
      (c = '\u03A3' ∧ ∃ sigma ∈ ['\u03C2', '\u03C3'], formBetween before c after = [sigma]) := by
  unfold formBetween
  by_cases sigma : c = '\u03A3'
  · refine .inr (.inr (.inr ⟨sigma, ?_⟩))
    rw [if_pos sigma]
    split <;> simp
  · rw [if_neg sigma, lowerChar]
    by_cases dotted : c = '\u0130'
    · exact .inr (.inr (.inl ⟨dotted, if_pos dotted⟩))
    · rw [if_neg dotted, lowerSimple]
      cases found : caseRows.find? (·.covers c) with
      | none => exact .inl rfl
      | some row =>
        have covered : row.covers c = true := by simpa using List.find?_some found
        exact .inr (.inl ⟨row, List.mem_of_find?_eq_some found, covered, rfl⟩)

theorem formBetween_ne_nil (before : List Char) (c : Char) (after : List Char) :
    formBetween before c after ≠ [] := by
  obtain same | ⟨_, _, _, same⟩ | ⟨_, same⟩ | ⟨_, _, _, same⟩ := formBetween_cases before c after <;>
    rw [same] <;> exact List.cons_ne_nil _ _

theorem lowercaseBetween_ne_nil {s : List Char} (nonempty : s ≠ []) (before after : List Char) :
    lowercaseBetween before s after ≠ [] := by
  cases s with
  | nil => exact absurd rfl nonempty
  | cons c rest => exact List.append_ne_nil_of_left_ne_nil (formBetween_ne_nil _ _ _) _

/-! ### Classes -/

/-- **Lower-casing respects a class of characters.** -/
def Caseless (inClass : Char → Bool) : Prop :=
  ∀ before c after, ∀ l ∈ formBetween before c after, inClass l = inClass c

/-- The ranges lie apart from the letters that have a lower-case form, and from the forms. The single
places are those of the dotted capital I and its form, and of the sigmas. -/
def CodeRanges.Apart (ranges : CodeRanges) : Prop :=
  (∀ range ∈ ranges, ∀ row ∈ caseRows, (range.2 < row.first ∨ row.last < range.1) ∧
    (range.2 < row.small ∨ row.small + (row.last - row.first) < range.1)) ∧
  ∀ range ∈ ranges, ∀ place ∈ [0x0130, 0x0069, 0x0307, 0x03A3, 0x03C2, 0x03C3],
    range.2 < place ∨ place < range.1

instance (ranges : CodeRanges) : Decidable ranges.Apart :=
  inferInstanceAs (Decidable (_ ∧ _))

theorem caseless_of_apart {ranges : CodeRanges} (apart : ranges.Apart) :
    Caseless ranges.contains := by
  obtain ⟨rows, places⟩ := apart
  have single (c : Char) (listed : c.toNat ∈ [0x0130, 0x0069, 0x0307, 0x03A3, 0x03C2, 0x03C3]) :
      ranges.contains c = false :=
    CodeRanges.contains_eq_false fun range member => places range member c.toNat listed
  intro before c after l member
  obtain same | ⟨row, listed, covered, same⟩ | ⟨rfl, same⟩ | ⟨rfl, sigma, either, same⟩ :=
    formBetween_cases before c after
  · rw [same, List.mem_singleton] at member
    rw [member]
  · rw [same, List.mem_singleton] at member
    have image := CaseRow.toNat_image listed covered
    simp only [CaseRow.covers, Bool.and_eq_true, decide_eq_true_eq] at covered
    -- Neither the capital nor its small letter lies in one of the ranges.
    rw [member, CodeRanges.contains_eq_false, CodeRanges.contains_eq_false]
    all_goals
      intro range own
      have away := rows range own row listed
      omega
  · rw [same, List.mem_pair] at member
    rw [single '\u0130' (by decide)]
    obtain rfl | rfl := member
    · exact single 'i' (by decide)
    · exact single '\u0307' (by decide)
  · rw [same, List.mem_singleton] at member
    rw [List.mem_pair] at either
    rw [member, single '\u03A3' (by decide)]
    obtain rfl | rfl := either
    · exact single '\u03C2' (by decide)
    · exact single '\u03C3' (by decide)

theorem caseless_isBlank : Caseless isBlank :=
  caseless_of_apart (by decide +kernel)

theorem caseless_dot : Caseless (· ≠ '.') := by
  have dots : Caseless (CodeRanges.contains [('.'.toNat, '.'.toNat)]) :=
    caseless_of_apart (by decide +kernel)
  have isDot (c : Char) : CodeRanges.contains [('.'.toNat, '.'.toNat)] c = decide (c = '.') := by
    rw [Bool.eq_iff_iff, decide_eq_true_iff, ← Char.toNat_inj]
    simp only [CodeRanges.contains, List.any_cons, List.any_nil, Bool.or_false, Bool.and_eq_true,
      decide_eq_true_eq]
    omega
  intro before c after l member
  have same := dots before c after l member
  rw [isDot, isDot] at same
  simpa using same

variable {inClass : Char → Bool} {before s after : List Char}

/-- A form lies in the class, or outside, exactly if the text does. -/
theorem Caseless.forall_iff (caseless : Caseless inClass) {b : Bool} :
    (∀ l ∈ lowercaseBetween before s after, inClass l = b) ↔ ∀ c ∈ s, inClass c = b := by
  induction s generalizing before with
  | nil => exact ⟨fun _ => nofun, fun _ => nofun⟩
  | cons c rest ih =>
    rw [lowercaseBetween, List.forall_mem_append, ih, List.forall_mem_cons]
    refine and_congr_left' ⟨fun all => ?_, fun same l member => ?_⟩
    · obtain ⟨l, member⟩ := List.exists_mem_of_ne_nil _ (formBetween_ne_nil before c (rest ++ after))
      rw [← caseless before c (rest ++ after) l member, all l member]
    · rw [caseless before c (rest ++ after) l member, same]

/-- A form starts as the text does. -/
theorem Caseless.starts (caseless : Caseless inClass) {b : Bool}
    (text : ∀ c ∈ s.head?, inClass c = b) :
    ∀ l ∈ (lowercaseBetween before s after).head?, inClass l = b := by
  cases s with
  | nil => exact nofun
  | cons c rest =>
    obtain ⟨l, ls, form⟩ := List.exists_cons_of_ne_nil (formBetween_ne_nil before c (rest ++ after))
    have kept := caseless before c (rest ++ after) l (by rw [form]; exact List.mem_cons_self)
    rw [lowercaseBetween, form]
    rintro _ ⟨⟩
    exact kept.trans (text c rfl)

/-- A form ends as the text does. -/
theorem Caseless.ends (caseless : Caseless inClass) {b : Bool}
    (text : ∀ c ∈ s.getLast?, inClass c = b) :
    ∀ l ∈ (lowercaseBetween before s after).getLast?, inClass l = b := by
  induction s using List.reverseRecOn with
  | nil => exact nofun
  | append_singleton front c =>
    intro l last
    rw [lowercaseBetween_append, lowercaseBetween, lowercaseBetween, List.append_nil,
      List.getLast?_append_of_ne_nil _ (formBetween_ne_nil _ _ _)] at last
    rw [caseless _ c _ l (List.mem_of_mem_getLast? last)]
    exact text c (by simp)

/-! ### Trimming -/

/-- **A text without white space at its ends stays as it is.** -/
theorem trim_of_solid_ends (starts : ∀ c ∈ s.head?, isBlank c = false)
    (ends : ∀ c ∈ s.getLast?, isBlank c = false) : trim s = s := by
  have none : ∀ c ∈ [], isBlank c = true := List.forall_mem_nil _
  have left : s.dropWhile isBlank = s := (run_append none starts).2
  rw [← List.head?_reverse] at ends
  have right : s.reverse.dropWhile isBlank = s.reverse := (run_append none ends).2
  rw [trim, trimLeft, left, trimRight, right, List.reverse_reverse]

/-- **Only white space is trimmed to nothing.** -/
theorem trim_eq_nil_iff : trim s = [] ↔ ∀ c ∈ s, isBlank c = true := by
  have left : trim s = [] ↔ ∀ c ∈ s.dropWhile isBlank, isBlank c = true := by
    simp [trim, trimLeft, trimRight, List.dropWhile_eq_nil_iff]
  rw [left, ← List.dropWhile_eq_nil_iff, List.dropWhile_idempotent, List.dropWhile_eq_nil_iff]

/-- **The form of a text without white space at its ends has none there.** -/
theorem trim_lowercaseBetween (starts : ∀ c ∈ s.head?, isBlank c = false)
    (ends : ∀ c ∈ s.getLast?, isBlank c = false) :
    trim (lowercaseBetween before s after) = lowercaseBetween before s after :=
  trim_of_solid_ends (caseless_isBlank.starts starts) (caseless_isBlank.ends ends)

end RuleQuery.Text
