import RuleQuery.Proofs.Text.Caseless

/-!
**Texts that lower-casing and trimming leave alone.**

* `IsLowered`: wherever the character stands, its lower-case form is itself.
* `CaseRow.isApart`: no small letter of the one row is a capital of the other. It holds of all rows,
  so that a form has no other form (`isLowered_of_mem_form`).
* `lowercaseBetween_lowered`, `lowercaseBetween_of_lowered`: the characters of a lower-cased text are
  lowered, and a text of such characters stays.
* `trim_starts`, `trim_ends`: a trimmed text has no white space at its ends;
* `isSettled_trim`: **so a trimmed part of a lower-cased text is settled**: nothing changes it again.
-/

namespace RuleQuery.Text

/-! ### Characters -/

/-- **The lower-case form of the character is itself**, wherever it stands. -/
def IsLowered (c : Char) : Prop :=
  ∀ before after, formBetween before c after = [c]

/-- No small letter of the row is a capital of the other one: their ranges are apart, or the capitals
of the other stand at every second place and the small letters, or the only one, between them. -/
def CaseRow.isApart (row other : CaseRow) : Bool :=
  Nat.blt (row.small + (row.last - row.first)) other.first || Nat.blt other.last row.small ||
    (row.stride == 2 || row.last == row.first) && other.stride == 2 &&
      (row.small + other.first) % 2 == 1

theorem CaseRow.not_covers_image {row other : CaseRow} (member : row ∈ caseRows)
    (apart : row.isApart other = true) {c : Char} (covered : row.covers c = true) :
    other.covers (row.image c) = false := by
  have image := toNat_image member covered
  simp only [covers, Bool.and_eq_true, decide_eq_true_eq, beq_iff_eq] at covered
  cases again : other.covers (row.image c) with
  | false => rfl
  | true =>
    simp only [covers, Bool.and_eq_true, decide_eq_true_eq, beq_iff_eq, image] at again
    simp only [isApart, Bool.or_eq_true, Bool.and_eq_true, Nat.blt_eq, beq_iff_eq] at apart
    rcases apart with ranges | ⟨⟨stride | single, stride'⟩, odd⟩
    · omega
    · rw [stride] at covered
      rw [stride'] at again
      omega
    · rw [stride'] at again
      omega

theorem isLowered_of_uncovered {c : Char} (sigma : c ≠ '\u03A3') (dotted : c ≠ '\u0130')
    (rows : ∀ row ∈ caseRows, row.covers c = false) : IsLowered c := by
  intro before after
  have none : caseRows.find? (·.covers c) = none := by
    rw [List.find?_eq_none]
    intro row member covered
    rw [rows row member] at covered
    cases covered
  rw [formBetween, if_neg sigma, lowerChar, if_neg dotted, lowerSimple, none]

/-- The capitals that have forms of their own, each as a row. -/
def specialRows : List CaseRow :=
  [⟨0x0130, 0x0130, 1, 0x0069⟩, ⟨0x03A3, 0x03A3, 1, 0x03C3⟩]

/-- The small letter of a row has no other form. -/
theorem isLowered_image {row : CaseRow} (member : row ∈ caseRows) {c : Char}
    (covered : row.covers c = true) : IsLowered (row.image c) := by
  have all : caseRows.all (fun row => (specialRows ++ caseRows).all row.isApart) = true := by
    decide +kernel
  have uncovered (other) (listed : other ∈ specialRows ++ caseRows) :
      other.covers (row.image c) = false :=
    CaseRow.not_covers_image member
      (List.all_eq_true.1 (List.all_eq_true.1 all row member) other listed) covered
  have special (other) (listed : other ∈ specialRows) {capital : Char}
      (own : other.covers capital = true) : row.image c ≠ capital := by
    intro same
    rw [← same, uncovered other (List.mem_append_left _ listed)] at own
    cases own
  exact isLowered_of_uncovered (special _ (.tail _ (.head _)) (by decide))
    (special _ (.head _) (by decide))
    fun other listed => uncovered other (List.mem_append_right _ listed)

/-- **A form has no other form.** -/
theorem isLowered_of_mem_form {before after : List Char} {c l : Char}
    (member : l ∈ formBetween before c after) : IsLowered l := by
  obtain same | ⟨row, listed, covered, same⟩ | ⟨-, same⟩ | ⟨-, sigma, either, same⟩ :=
    formBetween_cases before c after
  · rw [same, List.mem_singleton] at member
    rw [member]
    intro before' after'
    unfold formBetween at same ⊢
    by_cases sigma : c = '\u03A3'
    · rw [if_pos sigma, sigma] at same
      split at same <;> cases same
    · rw [if_neg sigma] at same ⊢
      exact same
  · rw [same, List.mem_singleton] at member
    rw [member]
    exact isLowered_image listed covered
  · rw [same, List.mem_pair] at member
    obtain rfl | rfl := member <;>
      exact isLowered_of_uncovered (by decide) (by decide) (by decide +kernel)
  · rw [same, List.mem_singleton] at member
    rw [member]
    rw [List.mem_pair] at either
    obtain rfl | rfl := either <;>
      exact isLowered_of_uncovered (by decide) (by decide) (by decide +kernel)

/-! ### Texts -/

variable {before s after : List Char}

/-- **All characters of a lower-cased text are lowered.** -/
theorem lowercaseBetween_lowered : ∀ l ∈ lowercaseBetween before s after, IsLowered l := by
  induction s generalizing before with
  | nil => exact nofun
  | cons c rest ih =>
    rw [lowercaseBetween, List.forall_mem_append]
    exact ⟨fun l member => isLowered_of_mem_form member, ih⟩

/-- **A text of lowered characters stays as it is.** -/
theorem lowercaseBetween_of_lowered (lowered : ∀ c ∈ s, IsLowered c) :
    lowercaseBetween before s after = s := by
  induction s generalizing before with
  | nil => rfl
  | cons c rest ih =>
    rw [List.forall_mem_cons] at lowered
    rw [lowercaseBetween, lowered.1, ih lowered.2, List.singleton_append]

theorem lowercase_of_lowered {w : String} (lowered : ∀ c ∈ w.toList, IsLowered c) :
    lowercase w = w := by
  rw [lowercase, lowercaseAfter_eq, lowercaseBetween_of_lowered lowered, String.ofList_toList]

/-- The dotted capital I gets two characters, and these stay. -/
example : lowercase "İΣ" = "i\u0307ς" ∧ lowercase "i\u0307ς" = "i\u0307ς" := by decide +kernel

/-! ### Trimmed texts -/

theorem prefix_trimLeft (s : List Char) : trim s <+: trimLeft s :=
  List.rdropWhile_prefix isBlank (trimLeft s)

theorem mem_of_mem_trim {c : Char} (member : c ∈ trim s) : c ∈ s :=
  (List.dropWhile_suffix isBlank).subset ((prefix_trimLeft s).subset member)

/-- A trimmed text does not start with white space. -/
theorem trim_starts (s : List Char) : ∀ c ∈ (trim s).head?, isBlank c = false := by
  intro c first
  obtain ⟨cut, whole⟩ := prefix_trimLeft s
  cases trimmed : trim s with
  | nil =>
    rw [trimmed] at first
    cases first
  | cons d rest =>
    rw [trimmed] at first whole
    have left := List.head?_dropWhile_not isBlank s
    rw [← trimLeft, ← whole] at left
    cases first
    simpa using left

/-- A trimmed text does not end with white space. -/
theorem trim_ends (s : List Char) : ∀ c ∈ (trim s).getLast?, isBlank c = false := by
  intro c last
  rw [trim, trimRight, List.getLast?_reverse] at last
  have left := List.head?_dropWhile_not isBlank (trimLeft s).reverse
  rw [last] at left
  simpa using left

/-- **Neither trimming nor lower-casing changes the text**, and there is one. -/
structure IsSettled (w : String) : Prop where
  nonempty : w ≠ ""
  starts : ∀ c ∈ w.toList.head?, isBlank c = false
  ends : ∀ c ∈ w.toList.getLast?, isBlank c = false
  lowered : lowercase w = w

namespace IsSettled

variable {w : String}

theorem ne_nil (settled : IsSettled w) : w.toList ≠ [] := by
  simpa using settled.nonempty

theorem trim_eq (settled : IsSettled w) : trim w.toList = w.toList :=
  trim_of_solid_ends settled.starts settled.ends

/-- The characters of a settled text are lowered. -/
theorem isLowered (settled : IsSettled w) : ∀ c ∈ w.toList, IsLowered c := by
  rw [← settled.lowered, lowercase, String.toList_ofList, lowercaseAfter_eq]
  exact lowercaseBetween_lowered

end IsSettled

/-- **A trimmed part of a lower-cased text is settled.** -/
theorem isSettled_trim (lowered : ∀ c ∈ s, IsLowered c) (solid : trim s ≠ []) :
    IsSettled (String.ofList (trim s)) := by
  refine ⟨?_, ?_, ?_, ?_⟩
  · intro empty
    exact solid (String.ofList_eq_empty_iff.1 empty)
  · rw [String.toList_ofList]
    exact trim_starts s
  · rw [String.toList_ofList]
    exact trim_ends s
  · apply lowercase_of_lowered
    rw [String.toList_ofList]
    exact fun c member => lowered c (mem_of_mem_trim member)

end RuleQuery.Text
