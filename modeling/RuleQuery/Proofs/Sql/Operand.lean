import RuleQuery.Proofs.Sql.WellFormed
import RuleQuery.Proofs.Text.SmallName
import RuleQuery.Sql.Operand

/-!
**The operands that columns name.**

* `Named.lowercase_small`: the lower-case form of an identifier is a small name.
* `ofText?_qualified`: an identifier, a dot and an identifier name the operand of their lower-case
  forms; `ofText?_unqualified`: an identifier alone names none.
* `operand_small`: so the operand of a column that can be written has small names.
* `ofText?_alias`: **an alias of any letters is read in the form that it has before the text of the
  field**, which need not be the form that it has alone.
-/

namespace RuleQuery.Sql

/-! ### Identifiers in lower case -/

theorem isWordChar_ascii {c : Char} (word : isWordChar c = true) : c.toNat < 128 := by
  rw [isWordChar, Char.isAlphanum, Bool.or_eq_true, Bool.or_eq_true] at word
  rcases word with (letter | digit) | underscore
  · have bounds := (Text.isAlpha_iff c).1 letter
    omega
  · have bounds := Char.isDigit_iff_toNat.1 digit
    exact Nat.lt_of_le_of_lt bounds.2 (by decide)
  · rw [beq_iff_eq.1 underscore]
    decide

theorem isSmallChar_toLower {c : Char} (word : isWordChar c = true) :
    Text.isSmallChar c.toLower = true :=
  Text.forall_ascii (fun c => isWordChar c = true → Text.isSmallChar c.toLower = true)
    (by decide) (isWordChar_ascii word) word

theorem isSmallStart_toLower {c : Char} (starts : isWordStart c = true) :
    Text.isSmallStart c.toLower = true :=
  Text.forall_ascii (fun c => isWordStart c = true → Text.isSmallStart c.toLower = true)
    (by decide) (isWordChar_ascii (isWordChar_of_isWordStart starts)) starts

variable {name q n : String}

theorem Named.ascii (named : Named name) : ∀ c ∈ name.toList, c.toNat < 128 :=
  fun c member => isWordChar_ascii (named.inside c member)

/-- **The lower-case form of an identifier is a small name.** -/
theorem Named.lowercase_small (named : Named name) : Text.IsSmallName (Text.lowercase name) := by
  have lowered := Text.toList_lowercase named.ascii
  constructor
  · have starts := named.starts
    rw [lowered]
    cases letters : name.toList with
    | nil =>
      rw [letters] at starts
      cases starts
    | cons c rest =>
      rw [letters] at starts
      exact isSmallStart_toLower starts
  · rw [lowered, List.forall_mem_map]
    exact fun c member => isSmallChar_toLower (named.inside c member)

/-- The lower-case form of an identifier makes its capitals of ASCII small, and no other change. -/
theorem Named.lowercase_eq (named : Named name) : Text.lowercase name = name.toLower := by
  rw [← String.toList_inj, Text.toList_lowercase named.ascii, Text.toList_toLower]

/-! ### Operands -/

theorem dotless_iff {s : List Char} : '.' ∉ s ↔ ∀ c ∈ s, decide (c ≠ '.') = true := by
  simp only [decide_eq_true_iff, List.forall_mem_ne']

/-- **A text in lower case is parted at its first dot.** -/
theorem ofLowered?_dotted {front back : List Char} (dotless : '.' ∉ front)
    (frontSolid : Text.trim front ≠ []) (backSolid : Text.trim back ≠ []) :
    Operand.ofLowered? (front ++ '.' :: back) =
      some ⟨String.ofList (Text.trim front), String.ofList (Text.trim back)⟩ := by
  have after : ∀ c ∈ ('.' :: back).head?, decide (c ≠ '.') = false := by simp
  obtain ⟨taken, left⟩ := Text.run_append (dotless_iff.1 dotless) after
  unfold Operand.ofLowered?
  rw [left, taken]
  dsimp only
  rw [if_neg (not_or.2 ⟨frontSolid, backSolid⟩)]

/-- Small names with a dot between them are the operand of these names. -/
theorem ofLowered?_small (first : Text.IsSmallName q) (second : Text.IsSmallName n) :
    Operand.ofLowered? (q.toList ++ '.' :: n.toList) = some ⟨q, n⟩ := by
  have read := ofLowered?_dotted (first.not_mem (by decide))
    (by rw [first.trim_eq]; exact first.ne_nil) (by rw [second.trim_eq]; exact second.ne_nil)
  rwa [first.trim_eq, second.trim_eq, String.ofList_toList, String.ofList_toList] at read

/-- **Identifiers with a dot between them name the operand of their lower-case forms.** -/
theorem ofText?_qualified (qualified : Named q) (named : Named n) :
    Operand.ofText? (q ++ "." ++ n) = some ⟨Text.lowercase q, Text.lowercase n⟩ := by
  have ascii : ∀ c ∈ (q ++ "." ++ n).toList, c.toNat < 128 := by
    have dot : ∀ c ∈ ['.'], c.toNat < 128 := List.forall_mem_singleton.2 (by decide)
    simp only [String.toList_append, List.forall_mem_append]
    exact ⟨⟨qualified.ascii, dot⟩, named.ascii⟩
  have lowered : (Text.lowercase (q ++ "." ++ n)).toList =
      (Text.lowercase q).toList ++ '.' :: (Text.lowercase n).toList := by
    rw [Text.toList_lowercase ascii, Text.toList_lowercase qualified.ascii,
      Text.toList_lowercase named.ascii]
    simp
  rw [Operand.ofText?, lowered]
  exact ofLowered?_small qualified.lowercase_small named.lowercase_small

/-- An identifier alone names no operand. -/
theorem ofText?_unqualified (named : Named n) : Operand.ofText? n = none := by
  have dotless := named.lowercase_small.not_mem (c := '.') (by decide)
  have ends : ∀ c ∈ ([] : List Char).head?, decide (c ≠ '.') = false := nofun
  have left := (Text.run_append (dotless_iff.1 dotless) ends).2
  rw [List.append_nil] at left
  rw [Operand.ofText?, Operand.ofLowered?, left]

/-- **The operand of a column that can be written has small names.** -/
theorem operand_small {column : ColumnRef} {operand : Operand}
    (formed : (Expr.column column).WellFormed) (read : Operand.ofText? column.text = some operand) :
    Text.IsSmallName operand.aliasName ∧ Text.IsSmallName operand.field := by
  obtain ⟨qualifier, name⟩ := column
  cases formed with
  | column qualified named =>
    cases qualifier with
    | none =>
      rw [ColumnRef.text, ofText?_unqualified named] at read
      cases read
    | some q =>
      have qualified := qualified q rfl
      rw [ColumnRef.text, ofText?_qualified qualified named] at read
      cases read
      exact ⟨qualified.lowercase_small, named.lowercase_small⟩

/-! ### Any letters -/

/-- **The text can stand for an alias**: it is not empty, it has no dot, and it has no white space at
its ends. -/
structure IsQualifier (q : String) : Prop where
  nonempty : q ≠ ""
  dotless : '.' ∉ q.toList
  starts : ∀ c ∈ q.toList.head?, Text.isBlank c = false
  ends : ∀ c ∈ q.toList.getLast?, Text.isBlank c = false

instance (q : String) : Decidable (IsQualifier q) :=
  decidable_of_iff (q ≠ "" ∧ '.' ∉ q.toList ∧ q.toList.head?.any Text.isBlank = false ∧
      q.toList.getLast?.any Text.isBlank = false)
    ⟨fun ⟨nonempty, dotless, starts, ends⟩ =>
        ⟨nonempty, dotless, (Option.any_eq_false _ _).1 starts, (Option.any_eq_false _ _).1 ends⟩,
      fun formed => ⟨formed.nonempty, formed.dotless, (Option.any_eq_false _ _).2 formed.starts,
        (Option.any_eq_false _ _).2 formed.ends⟩⟩

theorem toList_lowercase_dotted (q n : String) :
    (Text.lowercase (q ++ "." ++ n)).toList =
      Text.lowercaseBetween [] q.toList n.toList ++
        '.' :: Text.lowercaseAfter ('.' :: q.toList.reverse) n.toList := by
  have follows : Text.startsCased ('.' :: n.toList) = Text.startsCased n.toList :=
    Text.startsCased_append_of_ignorable (List.forall_mem_singleton.2 (by decide +kernel)) n.toList
  have dot : Text.lowercaseAfter q.toList.reverse ('.' :: n.toList) =
      '.' :: Text.lowercaseAfter ('.' :: q.toList.reverse) n.toList := by
    rw [Text.lowercaseAfter, if_neg (by decide), Text.lowerChar_ascii (by decide)]
    rfl
  have parts : (q ++ "." ++ n).toList = q.toList ++ '.' :: n.toList := by simp
  rw [Text.lowercase, String.toList_ofList, parts, Text.lowercaseAfter_append,
    Text.lowercaseBetween_congr follows, List.append_nil, dot]

/-- **The alias of an operand has its form before the text of the field.** -/
theorem ofText?_alias (formed : IsQualifier q) (solid : ∃ c ∈ n.toList, Text.isBlank c = false) :
    ∃ field, Operand.ofText? (q ++ "." ++ n) =
      some ⟨String.ofList (Text.lowercaseBetween [] q.toList n.toList), field⟩ := by
  have nonempty : q.toList ≠ [] := by simpa using formed.nonempty
  have dotless : '.' ∉ Text.lowercaseBetween [] q.toList n.toList := by
    rw [dotless_iff, Text.caseless_dot.forall_iff, ← dotless_iff]
    exact formed.dotless
  have trimmed : Text.trim (Text.lowercaseBetween [] q.toList n.toList) =
      Text.lowercaseBetween [] q.toList n.toList :=
    Text.trim_lowercaseBetween formed.starts formed.ends
  have field : Text.trim (Text.lowercaseAfter ('.' :: q.toList.reverse) n.toList) ≠ [] := by
    intro empty
    rw [Text.trim_eq_nil_iff, Text.lowercaseAfter_eq, Text.caseless_isBlank.forall_iff] at empty
    obtain ⟨c, member, solid⟩ := solid
    rw [empty c member] at solid
    cases solid
  have front : Text.trim (Text.lowercaseBetween [] q.toList n.toList) ≠ [] := by
    rw [trimmed]
    exact Text.lowercaseBetween_ne_nil nonempty _ _
  have read := ofLowered?_dotted dotless front field
  rw [trimmed, ← toList_lowercase_dotted] at read
  exact ⟨_, read⟩

end RuleQuery.Sql
