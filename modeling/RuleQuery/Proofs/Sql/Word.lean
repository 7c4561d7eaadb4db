import RuleQuery.Proofs.Peg.Derivation
import RuleQuery.Proofs.Text.Lettercase
import RuleQuery.Proofs.Text.Runs
import RuleQuery.Sql.Grammar

/-!
**Reserved words and identifiers in a text.**

What the rules for words read at a place is a matter of the longest run of letters, digits and
underscores there, `leadingWord`.

* `word_matches`, `word_fails`: a reserved word is read where the run spells it, in any letter case.
* `keyword_matches`, `keyword_fails`: some reserved word is read where the run spells one. The choice
  commits to the first word that the text starts with; no word stands before a longer one that it
  starts, so that the choice is the right one.
* `ident_matches`, `ident_fails`: an identifier is read where the run is one.
-/

namespace RuleQuery.Sql

open Peg
open Peg.Expression

/-! ### Words -/

/-- The characters spell the reserved word, in any letter case. -/
def Keyword.Spells (k : Keyword) (w : List Char) : Prop :=
  w.map Char.toLower = k.letters

instance (k : Keyword) (w : List Char) : Decidable (k.Spells w) :=
  inferInstanceAs (Decidable (w.map Char.toLower = k.letters))

/-- The characters spell a reserved word. -/
def IsKeyword (w : List Char) : Prop :=
  ∃ k : Keyword, k.Spells w

instance (w : List Char) : Decidable (IsKeyword w) :=
  decidable_of_iff (∃ k ∈ Keyword.all, k.Spells w)
    ⟨fun ⟨k, _, spells⟩ => ⟨k, spells⟩, fun ⟨k, spells⟩ => ⟨k, k.mem_all, spells⟩⟩

/-- **The characters are an identifier**: a letter or an underscore, then letters, digits and
underscores, and no reserved word in any letter case. -/
structure IsIdentifier (w : List Char) : Prop where
  starts : w.head?.any isWordStart = true
  inside : ∀ c ∈ w, isWordChar c = true
  free : ¬ IsKeyword w

instance (w : List Char) : Decidable (IsIdentifier w) :=
  decidable_of_iff
    (w.head?.any isWordStart = true ∧ w.all isWordChar = true ∧ ¬ IsKeyword w)
    ⟨fun ⟨starts, inside, free⟩ => ⟨starts, List.all_eq_true.1 inside, free⟩,
      fun ⟨starts, inside, free⟩ => ⟨starts, List.all_eq_true.2 inside, free⟩⟩

/-- The run of word characters at the start of a text. -/
def leadingWord (s : List Char) : List Char :=
  s.takeWhile isWordChar

/-- What follows the leading word. -/
def afterWord (s : List Char) : List Char :=
  s.dropWhile isWordChar

/-- The text does not start with a word character. -/
def EndsWord (s : List Char) : Prop :=
  ∀ c ∈ s.head?, isWordChar c = false

instance (s : List Char) : Decidable (EndsWord s) :=
  decidable_of_iff (s.head?.all (!isWordChar ·) = true) (by cases s <;> simp [EndsWord])

theorem leadingWord_append_afterWord (s : List Char) : leadingWord s ++ afterWord s = s :=
  List.takeWhile_append_dropWhile

/-- The leading word has word characters only. -/
theorem leadingWord_isWordChar (s : List Char) : ∀ c ∈ leadingWord s, isWordChar c = true :=
  List.all_eq_true.1 List.all_takeWhile

theorem endsWord_afterWord (s : List Char) : EndsWord (afterWord s) := by
  induction s with
  | nil => intro c member; cases member
  | cons c rest ih =>
    by_cases member : isWordChar c = true
    · rwa [afterWord, List.dropWhile_cons_of_pos member]
    · rw [afterWord, List.dropWhile_cons_of_neg member]
      rintro d ⟨⟩
      exact Bool.not_eq_true _ ▸ member

theorem leadingWord_append {w rest : List Char} (inside : ∀ c ∈ w, isWordChar c = true)
    (ends : EndsWord rest) : leadingWord (w ++ rest) = w :=
  (Text.run_append inside ends).1

theorem afterWord_append {w rest : List Char} (inside : ∀ c ∈ w, isWordChar c = true)
    (ends : EndsWord rest) : afterWord (w ++ rest) = rest :=
  (Text.run_append inside ends).2

/-! ### Letters of reserved words -/

theorem isWordChar_toLower (c : Char) : isWordChar c.toLower = isWordChar c :=
  Text.toLower_of_capitals (by decide) c

theorem isWordStart_toLower (c : Char) : isWordStart c.toLower = isWordStart c :=
  Text.toLower_of_capitals (by decide) c

theorem isWordChar_of_isWordStart {c : Char} (starts : isWordStart c = true) :
    isWordChar c = true := by
  rw [isWordStart, Bool.or_eq_true] at starts
  rw [isWordChar, Char.isAlphanum]
  rcases starts with letter | underscore
  · rw [letter]; rfl
  · rw [underscore, Bool.or_true]

theorem Keyword.letters_isWordChar (k : Keyword) : ∀ c ∈ k.letters, isWordChar c = true := by
  rw [← List.all_eq_true]
  cases k <;> decide

theorem Keyword.letters_toLower (k : Keyword) : k.letters.map Char.toLower = k.letters := by
  cases k <;> decide

theorem Keyword.letters_injective {k k' : Keyword} (same : k.letters = k'.letters) : k = k' := by
  revert same
  cases k <;> cases k' <;> decide

/-- No reserved word is tried before a longer one that it starts. -/
theorem Keyword.find?_isPrefixOf (k : Keyword) :
    Keyword.all.find? (fun k' => k'.letters.isPrefixOf k.letters) = some k := by
  cases k <;> decide

theorem Keyword.Spells.isWordChar {k : Keyword} {w : List Char} (spells : k.Spells w) :
    ∀ c ∈ w, isWordChar c = true := by
  intro c member
  rw [← isWordChar_toLower]
  apply k.letters_isWordChar
  rw [← spells]
  exact List.mem_map_of_mem member

theorem Keyword.letters_starts (k : Keyword) : k.letters.head?.any isWordStart = true := by
  cases k <;> decide

theorem Keyword.Spells.starts {k : Keyword} {w : List Char} (spells : k.Spells w) :
    w.head?.any isWordStart = true := by
  have letters := k.letters_starts
  rw [← spells] at letters
  cases w with
  | nil => exact letters
  | cons c w => exact (isWordStart_toLower c).symm.trans letters

theorem takeLike_letters {k : Keyword} {s taken rest : List Char} :
    takeLike sameLetter k.letters s = some (taken, rest) ↔ taken ++ rest = s ∧ k.Spells taken := by
  rw [takeLike_sameLetter_eq_some_iff, k.letters_toLower, Keyword.Spells]

/-! ### Characters of words -/

theorem identChar_matches (position : Nat) (s : List Char) :
    Matches grammar (.rule .identChar) position s (.ofChar isWordChar s) :=
  .silent rfl (.char_ofChar isWordChar position s)

theorem absent_identChar (position : Nat) {s : List Char} (ends : EndsWord s) :
    Matches grammar (absent (.rule .identChar)) position s (.ok [] [] s) := by
  have inside := identChar_matches position s
  cases s with
  | nil => exact .absent inside
  | cons c rest =>
    rw [Outcome.ofChar, if_neg (by simp [ends c rfl])] at inside
    exact .absent inside

theorem present_identChar (position : Nat) {s : List Char} (goesOn : ¬ EndsWord s) :
    Matches grammar (absent (.rule .identChar)) position s .fail := by
  have inside := identChar_matches position s
  cases s with
  | nil => exact absurd (by intro c member; cases member) goesOn
  | cons c rest =>
    by_cases member : isWordChar c = true
    · rw [Outcome.ofChar, if_pos member] at inside
      exact .present inside
    · refine absurd ?_ goesOn
      rintro d ⟨⟩
      exact Bool.not_eq_true _ ▸ member

/-! ### Reserved words -/

variable {k : Keyword} {s taken rest : List Char}

/-- Letters of a reserved word with no word character after them are the leading word. -/
theorem leadingWord_of_spells (spells : k.Spells taken) (ends : EndsWord rest) :
    leadingWord (taken ++ rest) = taken :=
  leadingWord_append spells.isWordChar ends

/-- **A reserved word is read where the leading word spells it.** -/
theorem word_matches (position : Nat) (spells : k.Spells (leadingWord s)) :
    Matches grammar (.rule (.word k)) position s
      (.ok [.mk (.word k) position (leadingWord s) []] (leadingWord s) (afterWord s)) := by
  have found : takeLike sameLetter k.letters s = some (leadingWord s, afterWord s) :=
    takeLike_letters.2 ⟨leadingWord_append_afterWord s, spells⟩
  have inside := Matches.next (g := grammar) (.word found)
    (absent_identChar (position + _) (endsWord_afterWord s))
  rw [Outcome.after, List.append_nil, List.append_nil] at inside
  exact .atomic rfl inside

/-- A reserved word is not read where the leading word does not spell it. -/
theorem word_fails (position : Nat) (other : ¬ k.Spells (leadingWord s)) :
    Matches grammar (.rule (.word k)) position s .fail := by
  apply Matches.rule_fail
  cases found : takeLike sameLetter k.letters s with
  | none => exact .next_fail _ (.word_fail found)
  | some parts =>
    obtain ⟨taken, rest⟩ := parts
    obtain ⟨rfl, spells⟩ := takeLike_letters.1 found
    have goesOn : ¬ EndsWord rest := by
      intro ends
      rw [leadingWord_of_spells spells ends] at other
      exact other spells
    exact (Matches.next (.word found) (present_identChar _ goesOn) :)

/-! ### Any reserved word -/

/-- The text starts with the letters of the reserved word. -/
def Keyword.Starts (s : List Char) (k : Keyword) : Bool :=
  (takeLike sameLetter k.letters s).isSome

theorem anyWord_matches {ks : List Keyword} (position : Nat)
    (first : ks.find? (Keyword.Starts s) = some k)
    (found : takeLike sameLetter k.letters s = some (taken, rest)) :
    Matches grammar (anyOf (ks.map fun k => word k.letters)) position s (.ok [] taken rest) := by
  induction ks with
  | nil => cases first
  | cons k' ks ih =>
    rw [List.map_cons]
    by_cases starts : Keyword.Starts s k' = true
    · rw [List.find?_cons_of_pos starts, Option.some.injEq] at first
      rw [first]
      exact .anyOf_first _ (.word found)
    · rw [List.find?_cons_of_neg starts] at first
      have missing : takeLike sameLetter k'.letters s = none := by
        simpa [Keyword.Starts] using starts
      exact .anyOf_later (.word_fail missing) (ih first)

theorem anyWord_fails {ks : List Keyword} (position : Nat)
    (none : ∀ k ∈ ks, ¬ Keyword.Starts s k = true) :
    Matches grammar (anyOf (ks.map fun k => word k.letters)) position s .fail := by
  induction ks with
  | nil => exact .anyOf_none position s
  | cons k' ks ih =>
    rw [List.forall_mem_cons] at none
    have missing : takeLike sameLetter k'.letters s = Option.none := by
      simpa [Keyword.Starts] using none.1
    exact .anyOf_later (.word_fail missing) (ih none.2)

/-- Where the leading word spells a reserved word, that word is the first that the text starts
with. -/
theorem find?_starts (spells : k.Spells (leadingWord s)) :
    Keyword.all.find? (Keyword.Starts s) = some k := by
  obtain ⟨_, before, after, all, others⟩ := List.find?_eq_some_iff_append.1 k.find?_isPrefixOf
  rw [List.find?_eq_some_iff_append]
  have found : takeLike sameLetter k.letters s = some (leadingWord s, afterWord s) :=
    takeLike_letters.2 ⟨leadingWord_append_afterWord s, spells⟩
  refine ⟨by rw [Keyword.Starts, found]; rfl, before, after, all, ?_⟩
  intro k' member
  -- a word that the text starts with lies inside the leading word, and so starts `k`
  cases found' : takeLike sameLetter k'.letters s with
  | none => simp [Keyword.Starts, found']
  | some parts =>
    obtain ⟨taken, rest⟩ := parts
    obtain ⟨whole, spells'⟩ := takeLike_letters.1 found'
    have inside : taken <+: leadingWord s := by
      rw [← whole, leadingWord, List.takeWhile_append_of_pos spells'.isWordChar]
      exact List.prefix_append _ _
    have starts : k'.letters <+: k.letters := by
      rw [← spells, ← spells']
      exact inside.map _
    have never := others k' member
    rw [List.isPrefixOf_iff_prefix.2 starts] at never
    cases never

/-- **Some reserved word is read where the leading word spells one.** -/
theorem keyword_matches (position : Nat) (reserved : IsKeyword (leadingWord s)) :
    Matches grammar (.rule .keyword) position s
      (.ok [.mk .keyword position (leadingWord s) []] (leadingWord s) (afterWord s)) := by
  obtain ⟨k, spells⟩ := reserved
  have found : takeLike sameLetter k.letters s = some (leadingWord s, afterWord s) :=
    takeLike_letters.2 ⟨leadingWord_append_afterWord s, spells⟩
  have inside := Matches.next (anyWord_matches position (find?_starts spells) found)
    (absent_identChar _ (endsWord_afterWord s))
  rw [Outcome.after, List.append_nil, List.append_nil] at inside
  exact .atomic rfl inside

/-- No reserved word is read where the leading word spells none. -/
theorem keyword_fails (position : Nat) (free : ¬ IsKeyword (leadingWord s)) :
    Matches grammar (.rule .keyword) position s .fail := by
  apply Matches.rule_fail
  cases first : Keyword.all.find? (Keyword.Starts s) with
  | none => exact .next_fail _ (anyWord_fails position (List.find?_eq_none.1 first))
  | some k =>
    have starts : Keyword.Starts s k = true := List.find?_some first
    obtain ⟨⟨taken, rest⟩, found⟩ := Option.isSome_iff_exists.1 starts
    obtain ⟨rfl, spells⟩ := takeLike_letters.1 found
    have goesOn : ¬ EndsWord rest := by
      intro ends
      rw [leadingWord_of_spells spells ends] at free
      exact free ⟨k, spells⟩
    exact (Matches.next (anyWord_matches position first found) (present_identChar _ goesOn) :)

/-! ### Identifiers -/

/-- **An identifier is read where the leading word is one.** -/
theorem ident_matches (position : Nat) (named : IsIdentifier (leadingWord s)) :
    Matches grammar (.rule .ident) position s
      (.ok [.mk .ident position (leadingWord s) []] (leadingWord s) (afterWord s)) := by
  have free := Matches.absent (keyword_fails position named.free)
  cases s with
  | nil => cases named.starts
  | cons c rest =>
    by_cases member : isWordChar c = true
    · have word : leadingWord (c :: rest) = c :: leadingWord rest :=
        List.takeWhile_cons_of_pos member
      have after : afterWord (c :: rest) = afterWord rest := List.dropWhile_cons_of_pos member
      have starts : isWordStart c = true := by
        have starts := named.starts
        rwa [word] at starts
      have inside := Matches.next free
        (.next (.char starts _ rest) (.many_ofChar identChar_matches _ rest))
      rw [word, after]
      exact .atomic rfl inside
    · have word : leadingWord (c :: rest) = [] := List.takeWhile_cons_of_neg member
      have starts := named.starts
      rw [word] at starts
      cases starts

/-- No identifier is read where the leading word is none. -/
theorem ident_fails (position : Nat) (other : ¬ IsIdentifier (leadingWord s)) :
    Matches grammar (.rule .ident) position s .fail := by
  apply Matches.rule_fail
  by_cases reserved : IsKeyword (leadingWord s)
  · exact .next_fail _ (.present (keyword_matches position reserved))
  · have free := Matches.absent (keyword_fails position reserved)
    have single := Matches.char_ofChar (g := grammar) isWordStart position s
    have starts : Outcome.ofChar (ρ := Rule) isWordStart s = .fail := by
      cases s with
      | nil => rfl
      | cons c rest =>
        rw [Outcome.ofChar, if_neg]
        intro start
        have member := isWordChar_of_isWordStart start
        refine other ⟨?_, ?_, reserved⟩
        · rw [leadingWord, List.takeWhile_cons_of_pos member]
          exact start
        · exact leadingWord_isWordChar (c :: rest)
    rw [starts] at single
    exact (Matches.next free (.next_fail _ single) :)

end RuleQuery.Sql
