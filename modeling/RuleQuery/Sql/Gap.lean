/-!
**Characters of the query language, and the gaps between its words.**

`splitGap` takes the blanks and comments that a text starts with. Nothing of the text is lost
(`splitGap_append`).
-/

namespace RuleQuery.Sql

/-- A blank of the language. -/
def isGapChar (c : Char) : Bool :=
  c == ' ' || c == '\t' || c == '\r' || c == '\n'

/-- A character of identifiers and reserved words. -/
def isWordChar (c : Char) : Bool :=
  c.isAlphanum || c == '_'

/-- A character that may start an identifier. -/
def isWordStart (c : Char) : Bool :=
  c.isAlpha || c == '_'

mutual

/-- The blanks and comments at the start of a text, and the text after them. A comment begins with
two hyphens and goes to the end of its line. -/
def splitGap : List Char → List Char × List Char
  | '-' :: '-' :: rest =>
    let (comment, after) := splitComment rest
    ('-' :: '-' :: comment, after)
  | c :: rest =>
    if isGapChar c then
      let (gap, after) := splitGap rest
      (c :: gap, after)
    else ([], c :: rest)
  | [] => ([], [])

/-- The rest of a comment with the gap that follows it, and the text after them. -/
def splitComment : List Char → List Char × List Char
  | [] => ([], [])
  | c :: rest =>
    if c = '\n' then
      let (gap, after) := splitGap rest
      (c :: gap, after)
    else
      let (gap, after) := splitComment rest
      (c :: gap, after)

end

mutual

theorem splitGap_append (s : List Char) : (splitGap s).1 ++ (splitGap s).2 = s := by
  rw [splitGap.eq_def]
  split
  · next rest => simp [splitComment_append rest]
  · next c rest _ =>
    split
    · simp [splitGap_append rest]
    · rfl
  · rfl
termination_by s.length

theorem splitComment_append (s : List Char) : (splitComment s).1 ++ (splitComment s).2 = s := by
  match s with
  | [] => simp [splitComment]
  | c :: rest =>
    rw [splitComment]
    split
    · simp [splitGap_append rest]
    · simp [splitComment_append rest]
termination_by s.length

end

end RuleQuery.Sql
