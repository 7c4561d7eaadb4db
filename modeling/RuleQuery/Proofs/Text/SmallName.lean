import RuleQuery.Proofs.Text.Caseless

/-!
**Names in small letters.**

* `IsSmallName`: a small letter of ASCII or an underscore, and then such letters, digits and
  underscores.
* `IsSmallName.not_mem`: such a name has no other character, above all no blank, quote, dot or
  parenthesis (`IsSmallName.harmless`).
* `IsSmallName.run_inj`: so a text that goes on after a name with another character tells the name, and
  a series of names with such texts between them tells all of them (`fillIn_inj`).
* `toList_lowercase`: the lower-case form of a text of ASCII is found character by character.
-/

namespace RuleQuery.Text

/-! ### Small names -/

/-- A character that may start a small name. -/
def isSmallStart (c : Char) : Bool :=
  c.isLower || c == '_'

/-- A character of small names. -/
def isSmallChar (c : Char) : Bool :=
  c.isLower || c.isDigit || c == '_'

/-- **The text is a name in small letters.** -/
structure IsSmallName (name : String) : Prop where
  starts : name.toList.head?.any isSmallStart = true
  inside : ∀ c ∈ name.toList, isSmallChar c = true

instance (name : String) : Decidable (IsSmallName name) :=
  decidable_of_iff (name.toList.head?.any isSmallStart = true ∧ name.toList.all isSmallChar = true)
    ⟨fun both => ⟨both.1, List.all_eq_true.1 both.2⟩,
      fun named => ⟨named.starts, List.all_eq_true.2 named.inside⟩⟩

/-- The characters that could end a name in a rule, or the line that it stands in. -/
def isHarmful (c : Char) : Bool :=
  isBlank c || ['"', '\'', '.', '(', ')'].contains c

/-! ### Characters of ASCII -/

/-- What holds of the first 128 characters holds of every character of ASCII. -/
theorem forall_ascii (holds : Char → Prop) (all : ∀ n < 128, holds (Char.ofNat n)) {c : Char}
    (ascii : c.toNat < 128) : holds c := by
  have found := all c.toNat ascii
  rwa [Char.ofNat_toNat] at found

theorem isSmallChar_ascii {c : Char} (small : isSmallChar c = true) : c.toNat < 128 := by
  rw [isSmallChar, Bool.or_eq_true, Bool.or_eq_true] at small
  rcases small with (letter | digit) | underscore
  · have letter : c.isAlpha = true := Bool.or_eq_true_iff.2 (.inr letter)
    have bounds := (isAlpha_iff c).1 letter
    omega
  · have bounds := Char.isDigit_iff_toNat.1 digit
    exact Nat.lt_of_le_of_lt bounds.2 (by decide)
  · rw [beq_iff_eq.1 underscore]
    decide

theorem isHarmful_of_isSmallChar {c : Char} (small : isSmallChar c = true) : isHarmful c = false :=
  forall_ascii (fun c => isSmallChar c = true → isHarmful c = false) (by decide)
    (isSmallChar_ascii small) small

namespace IsSmallName

variable {name other : String}

/-- A small name has no character of another kind. -/
theorem not_mem (named : IsSmallName name) {c : Char} (foreign : isSmallChar c = false) :
    c ∉ name.toList := by
  intro member
  rw [named.inside c member] at foreign
  cases foreign

/-- **A small name has no blank, quote, dot or parenthesis.** -/
theorem harmless (named : IsSmallName name) : ∀ c ∈ name.toList, isHarmful c = false :=
  fun c member => isHarmful_of_isSmallChar (named.inside c member)

theorem ne_nil (named : IsSmallName name) : name.toList ≠ [] := by
  intro empty
  have starts := named.starts
  rw [empty] at starts
  cases starts

theorem trim_eq (named : IsSmallName name) : trim name.toList = name.toList := by
  have solid (c : Char) (member : c ∈ name.toList) : isBlank c = false := by
    have harmless := named.harmless c member
    rw [isHarmful, Bool.or_eq_false_iff] at harmless
    exact harmless.1
  exact trim_of_solid_ends (fun c first => solid c (List.mem_of_mem_head? first))
    fun c last => solid c (List.mem_of_mem_getLast? last)

/-- **The text after a name tells the name**, if it goes on with a character of another kind. -/
theorem run_inj {s s' : List Char} (named : IsSmallName name) (named' : IsSmallName other)
    (ends : ∀ c ∈ s.head?, isSmallChar c = false) (ends' : ∀ c ∈ s'.head?, isSmallChar c = false)
    (same : name.toList ++ s = other.toList ++ s') : name = other ∧ s = s' := by
  have first := run_append named.inside ends
  have second := run_append named'.inside ends'
  rw [same] at first
  exact ⟨String.toList_inj.1 (first.1.symm.trans second.1), first.2.symm.trans second.2⟩

end IsSmallName

/-! ### Names in a text -/

/-- Names, each with a text after it. -/
def fillIn : List String → List String → List Char
  | name :: names, gap :: gaps => name.toList ++ (gap.toList ++ fillIn names gaps)
  | _, _ => []

/-- The text does not start with a character of small names. -/
def EndsName (gap : String) : Prop :=
  gap.toList.head?.any (fun c => !isSmallChar c) = true

instance (gap : String) : Decidable (EndsName gap) :=
  inferInstanceAs (Decidable (_ = true))

theorem EndsName.starts {gap : String} (ends : EndsName gap) (s : List Char) :
    (gap.toList ++ s).head? = gap.toList.head? ∧
      ∀ c ∈ (gap.toList ++ s).head?, isSmallChar c = false := by
  unfold EndsName at ends
  cases letters : gap.toList with
  | nil =>
    rw [letters] at ends
    cases ends
  | cons first others =>
    rw [letters] at ends
    exact ⟨rfl, by simpa using ends⟩

/-- **Names in the same texts are told by the whole**, and so is what comes after them. -/
theorem fillIn_inj {names names' gaps : List String} {rest rest' : List Char}
    (small : ∀ name ∈ names, IsSmallName name) (small' : ∀ name ∈ names', IsSmallName name)
    (length : names.length = gaps.length) (length' : names'.length = gaps.length)
    (apart : ∀ gap ∈ gaps, EndsName gap)
    (same : fillIn names gaps ++ rest = fillIn names' gaps ++ rest') :
    names = names' ∧ rest = rest' := by
  induction gaps generalizing names names' with
  | nil =>
    rw [List.length_nil, List.length_eq_zero_iff] at length length'
    subst length length'
    exact ⟨rfl, same⟩
  | cons gap gaps ih =>
    obtain ⟨name, names, rfl⟩ := List.exists_cons_of_length_eq_add_one length
    obtain ⟨name', names', rfl⟩ := List.exists_cons_of_length_eq_add_one length'
    rw [List.forall_mem_cons] at small small' apart
    simp only [fillIn, List.append_assoc] at same
    obtain ⟨rfl, after⟩ := small.1.run_inj small'.1 (apart.1.starts _).2 (apart.1.starts _).2 same
    obtain ⟨rfl, ends⟩ := ih small.2 small'.2 (Nat.succ.inj length) (Nat.succ.inj length') apart.2
      (List.append_cancel_left after)
    exact ⟨rfl, ends⟩

/-- Texts that go on after their first names with different characters are different. -/
theorem fillIn_ne {name name' gap gap' : String} {names names' gaps gaps' : List String}
    (small : IsSmallName name) (small' : IsSmallName name') (ends : EndsName gap)
    (ends' : EndsName gap') (differ : gap.toList.head? ≠ gap'.toList.head?) :
    fillIn (name :: names) (gap :: gaps) ≠ fillIn (name' :: names') (gap' :: gaps') := by
  intro same
  have after := (small.run_inj small' (ends.starts _).2 (ends'.starts _).2 same).2
  have heads := congrArg List.head? after
  rw [(ends.starts _).1, (ends'.starts _).1] at heads
  exact differ heads

/-! ### Lower case -/

/-- A character of ASCII that is no capital is its own lower-case form. -/
theorem lowerChar_of_not_capital {c : Char} (ascii : c.toNat < 128)
    (other : ¬ (65 ≤ c.toNat ∧ c.toNat ≤ 90)) : lowerChar c = [c] := by
  have rows : ∀ row ∈ caseRows, row.first = 65 ∧ row.last = 90 ∨ 128 ≤ row.first := by
    decide +kernel
  have none : caseRows.find? (·.covers c) = none := by
    rw [List.find?_eq_none]
    intro row member
    have outside := rows row member
    simp only [CaseRow.covers, Bool.and_eq_true, decide_eq_true_eq]
    omega
  have dotless : c ≠ '\u0130' := by
    rintro rfl
    exact absurd ascii (by decide)
  rw [lowerChar, if_neg dotless, lowerSimple, none]

theorem lowerChar_ascii {c : Char} (ascii : c.toNat < 128) : lowerChar c = [c.toLower] := by
  have kept : c.toLower.toNat < 128 ∧ ¬ (65 ≤ c.toLower.toNat ∧ c.toLower.toNat ≤ 90) :=
    forall_ascii (fun c => c.toLower.toNat < 128 ∧ ¬ (65 ≤ c.toLower.toNat ∧ c.toLower.toNat ≤ 90))
      (by decide) ascii
  rw [← lowerChar_toLower, lowerChar_of_not_capital kept.1 kept.2]

theorem lowercaseAfter_ascii (before : List Char) {s : List Char} (ascii : ∀ c ∈ s, c.toNat < 128) :
    lowercaseAfter before s = s.map Char.toLower := by
  induction s generalizing before with
  | nil => rfl
  | cons c s ih =>
    rw [List.forall_mem_cons] at ascii
    have plain : c ≠ '\u03A3' := by
      rintro rfl
      exact absurd ascii.1 (by decide)
    rw [lowercaseAfter, if_neg plain, lowerChar_ascii ascii.1, ih _ ascii.2]
    rfl

/-- **The lower-case form of a text of ASCII is found character by character.** -/
theorem toList_lowercase {text : String} (ascii : ∀ c ∈ text.toList, c.toNat < 128) :
    (lowercase text).toList = text.toList.map Char.toLower := by
  rw [lowercase, String.toList_ofList, lowercaseAfter_ascii [] ascii]

end RuleQuery.Text
