import RuleQuery.Planner.Body
import RuleQuery.Proofs.Sql.Operand
import RuleQuery.Proofs.Text.Settled

/-!
**Which texts name operands, and what operands look like.**

The planner lower-cases the text of a column before it parts and trims it. Lower-casing makes no dot
and no white space and takes none away, so that the same dot parts the text before and after.

* `NamesOperand`: a text with a dot, and something besides white space on both sides of the first one.
* `ofText?_parted`: the operand of a parted text has the trimmed forms of its parts.
* `isNormal_of_read`: these are settled, and the alias has no dot.
* `ofText?_normal`: **an operand is read back from its own text.**
* `operand_normalised`: a text names an operand exactly if it has two parts that are not blank; the
  operand is normal; and the error for any other text carries it as it was written.
-/

namespace RuleQuery.Sql

/-! ### Parts of a text -/

/-- **The text has a dot, and neither the part before the first dot nor the part after it is blank.** -/
def NamesOperand (text : String) : Prop :=
  ∃ front back, text = front ++ "." ++ back ∧ '.' ∉ front.toList ∧
    (∃ c ∈ front.toList, Text.isBlank c = false) ∧ ∃ c ∈ back.toList, Text.isBlank c = false

variable {front back text : String} {operand : Operand}

/-- A text with a dot is parted at the first one. -/
theorem exists_parts (dotted : '.' ∈ text.toList) :
    ∃ front back, text = front ++ "." ++ back ∧ '.' ∉ front.toList := by
  obtain ⟨before, after, split, dotless⟩ := List.eq_append_cons_of_mem dotted
  refine ⟨String.ofList before, String.ofList after, ?_, ?_⟩
  · rw [← String.toList_inj, split]
    simp
  · rwa [String.toList_ofList]

/-- A text without a dot names no operand. -/
theorem ofText?_undotted (undotted : '.' ∉ text.toList) : Operand.ofText? text = none := by
  have none : (Text.lowercase text).toList.dropWhile (· ≠ '.') = [] := by
    rw [List.dropWhile_eq_nil_iff, Text.lowercase, String.toList_ofList, Text.lowercaseAfter_eq,
      Text.caseless_dot.forall_iff, ← dotless_iff]
    exact undotted
  rw [Operand.ofText?, Operand.ofLowered?, none]

/-- Lower-casing makes no dot. -/
theorem dotless_front (dotless : '.' ∉ front.toList) (after : List Char) :
    '.' ∉ Text.lowercaseBetween [] front.toList after := by
  rw [dotless_iff, Text.caseless_dot.forall_iff, ← dotless_iff]
  exact dotless

theorem trim_form_eq_nil_iff {before s after : List Char} :
    Text.trim (Text.lowercaseBetween before s after) = [] ↔ ∀ c ∈ s, Text.isBlank c = true := by
  rw [Text.trim_eq_nil_iff, Text.caseless_isBlank.forall_iff]

theorem trim_form_ne_nil {before s after : List Char} (solid : ∃ c ∈ s, Text.isBlank c = false) :
    Text.trim (Text.lowercaseBetween before s after) ≠ [] := by
  rw [ne_eq, trim_form_eq_nil_iff]
  intro blank
  obtain ⟨c, member, other⟩ := solid
  rw [blank c member] at other
  cases other

/-- **The operand of a parted text** has the trimmed forms of its parts. -/
theorem ofText?_parted (dotless : '.' ∉ front.toList)
    (frontSolid : ∃ c ∈ front.toList, Text.isBlank c = false)
    (backSolid : ∃ c ∈ back.toList, Text.isBlank c = false) :
    Operand.ofText? (front ++ "." ++ back) =
      some ⟨String.ofList (Text.trim (Text.lowercaseBetween [] front.toList back.toList)),
        String.ofList
          (Text.trim (Text.lowercaseBetween ('.' :: front.toList.reverse) back.toList []))⟩ := by
  rw [Operand.ofText?, toList_lowercase_dotted, Text.lowercaseAfter_eq]
  exact ofLowered?_dotted (dotless_front dotless _) (trim_form_ne_nil frontSolid)
    (trim_form_ne_nil backSolid)

/-- A parted text with a blank part names no operand. -/
theorem ofText?_blank (dotless : '.' ∉ front.toList)
    (blank : (∀ c ∈ front.toList, Text.isBlank c = true) ∨ ∀ c ∈ back.toList, Text.isBlank c = true) :
    Operand.ofText? (front ++ "." ++ back) = none := by
  have stops : ∀ c ∈ ('.' :: Text.lowercaseBetween ('.' :: front.toList.reverse) back.toList []).head?,
      decide (c ≠ '.') = false := by simp
  obtain ⟨taken, left⟩ :=
    Text.run_append (dotless_iff.1 (dotless_front dotless back.toList)) stops
  rw [Operand.ofText?, toList_lowercase_dotted, Text.lowercaseAfter_eq, Operand.ofLowered?, left, taken]
  dsimp only
  rw [if_pos]
  exact blank.imp trim_form_eq_nil_iff.2 trim_form_eq_nil_iff.2

/-- **A text names an operand exactly if it has two parts that are not blank.** -/
theorem exists_ofText?_iff : (∃ operand, Operand.ofText? text = some operand) ↔ NamesOperand text := by
  constructor
  · rintro ⟨operand, read⟩
    by_cases dotted : '.' ∈ text.toList
    · obtain ⟨front, back, rfl, dotless⟩ := exists_parts dotted
      by_cases blank : (∀ c ∈ front.toList, Text.isBlank c = true) ∨
          ∀ c ∈ back.toList, Text.isBlank c = true
      · rw [ofText?_blank dotless blank] at read
        cases read
      · have solid : (∃ c ∈ front.toList, Text.isBlank c = false) ∧
            ∃ c ∈ back.toList, Text.isBlank c = false := by simpa using blank
        exact ⟨front, back, rfl, dotless, solid⟩
    · rw [ofText?_undotted dotted] at read
      cases read
  · rintro ⟨front, back, rfl, dotless, frontSolid, backSolid⟩
    exact ⟨_, ofText?_parted dotless frontSolid backSolid⟩

/-! ### Normal operands -/

/-- **The operand is normal**: it has an alias without a dot, and a field, and no trimming or
lower-casing changes them. -/
structure Operand.IsNormal (operand : Operand) : Prop where
  dotless : '.' ∉ operand.aliasName.toList
  aliasName : Text.IsSettled operand.aliasName
  field : Text.IsSettled operand.field

/-- What a text names is normal. -/
theorem isNormal_of_read (read : Operand.ofText? text = some operand) : operand.IsNormal := by
  obtain ⟨front, back, rfl, dotless, frontSolid, backSolid⟩ := exists_ofText?_iff.1 ⟨operand, read⟩
  rw [ofText?_parted dotless frontSolid backSolid, Option.some.injEq] at read
  rw [← read]
  refine ⟨?_, ?_, ?_⟩
  · rw [String.toList_ofList]
    exact fun dot => dotless_front dotless _ (Text.mem_of_mem_trim dot)
  · exact Text.isSettled_trim Text.lowercaseBetween_lowered (trim_form_ne_nil frontSolid)
  · exact Text.isSettled_trim Text.lowercaseBetween_lowered (trim_form_ne_nil backSolid)

/-- **A normal operand is read back from its own text.** -/
theorem ofText?_normal (normal : operand.IsNormal) :
    Operand.ofText? (operand.aliasName ++ "." ++ operand.field) = some operand := by
  obtain ⟨dotless, settled, settled'⟩ := normal
  have dot : Text.IsLowered '.' :=
    Text.isLowered_of_uncovered (by decide) (by decide) (by decide +kernel)
  have lowered : ∀ c ∈ (operand.aliasName ++ "." ++ operand.field).toList, Text.IsLowered c := by
    simp only [String.toList_append, List.forall_mem_append]
    exact ⟨⟨settled.isLowered, List.forall_mem_singleton.2 dot⟩, settled'.isLowered⟩
  have parts : (operand.aliasName ++ "." ++ operand.field).toList =
      operand.aliasName.toList ++ '.' :: operand.field.toList := by simp
  have read := ofLowered?_dotted dotless (by rw [settled.trim_eq]; exact settled.ne_nil)
    (by rw [settled'.trim_eq]; exact settled'.ne_nil)
  rw [settled.trim_eq, settled'.trim_eq, String.ofList_toList, String.ofList_toList] at read
  rw [Operand.ofText?, Text.lowercase_of_lowered lowered, parts, read]

end RuleQuery.Sql

namespace RuleQuery.Planner

open Sql

/-- **A text names an operand exactly if it has two parts that are not blank.** The error for any
other text carries it as it was written. The operand is normal, and read back from its own text. -/
theorem operand_normalised (text : String) :
    ((∃ operand, Operand.ofText? text = some operand) ↔ NamesOperand text) ∧
    (∀ column : ColumnRef, column.text = text → ∀ scope,
      (∀ operand, Operand.ofText? text = some operand →
        (operandOf column).run scope = .ok operand scope) ∧
      (¬ NamesOperand text →
        (operandOf column).run scope = .error (.malformedOperand text) scope)) ∧
    ∀ operand, Operand.ofText? text = some operand →
      operand.IsNormal ∧
        Operand.ofText? (operand.aliasName ++ "." ++ operand.field) = some operand := by
  refine ⟨exists_ofText?_iff, ?_, fun operand read => ?_⟩
  · rintro column rfl scope
    unfold operandOf
    constructor
    · intro operand read
      rw [read]
      rfl
    · intro unnamed
      have none : Operand.ofText? column.text = none := by
        rw [Option.eq_none_iff_forall_ne_some]
        exact fun operand read => unnamed (exists_ofText?_iff.1 ⟨operand, read⟩)
      rw [none]
      rfl
  · have normal := isNormal_of_read read
    exact ⟨normal, ofText?_normal normal⟩

/-- Capitals with forms of their own and white space around the dot: the operand is read back. A blank
alias is refused with the text as it stands. -/
theorem sigmaOperand_normalised :
    NamesOperand " ΟΔΟΣ .İd" ∧
      Operand.ofText? " ΟΔΟΣ .İd" = some ⟨"οδος", "i\u0307d"⟩ ∧
      Operand.ofText? "οδος.i\u0307d" = some ⟨"οδος", "i\u0307d"⟩ ∧
      (∀ scope, (operandOf ⟨some " ΟΔΟΣ ", "İd"⟩).run scope = .ok ⟨"οδος", "i\u0307d"⟩ scope) ∧
      ¬ NamesOperand "\u00a0.Id" ∧
      ∀ scope, (operandOf ⟨some "\u00a0", "Id"⟩).run scope =
        .error (.malformedOperand "\u00a0.Id") scope := by
  obtain ⟨names, ends, reads⟩ := operand_normalised " ΟΔΟΣ .İd"
  obtain ⟨names', ends', -⟩ := operand_normalised "\u00a0.Id"
  have read : Operand.ofText? " ΟΔΟΣ .İd" = some ⟨"οδος", "i\u0307d"⟩ := by decide +kernel
  have unread : Operand.ofText? "\u00a0.Id" = none := by decide +kernel
  have unnamed : ¬ NamesOperand "\u00a0.Id" := by
    rw [← names', unread]
    rintro ⟨_, ⟨⟩⟩
  exact ⟨names.1 ⟨_, read⟩, read, (reads _ read).2, fun scope => (ends _ rfl scope).1 _ read, unnamed,
    fun scope => (ends' _ rfl scope).2 unnamed⟩

end RuleQuery.Planner
