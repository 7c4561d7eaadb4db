import RuleQuery.Proofs.Sql.Lexeme

/-!
**Where reserved words and identifiers end.**

A call to a rule may come from anywhere in the grammar, at any place of a text. What the rules for
words take there depends on the leading word alone, whatever else the text holds.

* `isIdentifier_leadingWord_iff`: the leading word is an identifier unless it is empty, starts with a
  digit or is reserved.
* `rule_taken?`: a rule whose matches and failures are known is decided at every level of a run.
* `words_taken_whole`: **a rule for words takes the whole leading word or nothing.** The reserved words
  are told apart by all their letters, not by those that they start with, and no place is read both as
  a reserved word and as an identifier.
-/

namespace RuleQuery.Peg

/-- The characters that a match takes, if there is one. -/
def Outcome.taken? {ρ : Type} : Outcome ρ → Option (List Char)
  | fail => none
  | ok _ taken _ => some taken

/-- **A rule takes what its matches take**, at every level of a run. -/
theorem rule_taken? {ρ : Type} {g : Grammar ρ} {r : ρ} {position : Nat} {s w : List Char}
    {holds : Prop} [Decidable holds]
    (matched : holds → ∃ nodes rest, Matches g (.rule r) position s (.ok nodes w rest))
    (failed : ¬ holds → Matches g (.rule r) position s .fail) (level : Nat)
    (ranked : (Expression.rule r).ranked g.toRanking level = true) :
    (g.run level (.rule r) ranked position s).1.outcome.taken? = if holds then some w else none := by
  by_cases holding : holds
  · obtain ⟨nodes, rest, derivation⟩ := matched holding
    rw [derivation.run_eq level ranked, if_pos holding, Outcome.taken?]
  · rw [(failed holding).run_eq level ranked, if_neg holding, Outcome.taken?]

end RuleQuery.Peg

namespace RuleQuery.Sql

open Peg

/-! ### The leading word -/

/-- A word character that is no digit may start an identifier. -/
theorem isWordStart_of_isWordChar {c : Char} (word : isWordChar c = true)
    (other : c.isDigit = false) : isWordStart c = true := by
  rw [isWordChar, Char.isAlphanum, other, Bool.or_false] at word
  exact word

/-- **The leading word is an identifier** unless it is empty, starts with a digit or is reserved. -/
theorem isIdentifier_leadingWord_iff {s : List Char} :
    IsIdentifier (leadingWord s) ↔
      leadingWord s ≠ [] ∧ (leadingWord s).head?.any Char.isDigit = false ∧
        ¬ IsKeyword (leadingWord s) := by
  have inside := leadingWord_isWordChar s
  generalize leadingWord s = w at inside ⊢
  constructor
  · rintro ⟨starts, _, free⟩
    cases w with
    | nil => cases starts
    | cons c rest =>
      refine ⟨List.cons_ne_nil c rest, ?_, free⟩
      rw [List.head?_cons, Option.any_some] at starts ⊢
      cases digit : c.isDigit with
      | false => rfl
      | true =>
        rw [not_isWordStart_of_isDigit digit] at starts
        cases starts
  · rintro ⟨nonempty, undigited, free⟩
    obtain ⟨c, rest, rfl⟩ := List.exists_cons_of_ne_nil nonempty
    have starts := isWordStart_of_isWordChar (inside c List.mem_cons_self) undigited
    exact ⟨starts, inside, free⟩

/-! ### Calls to the rules for words -/

/-- **What a call to a rule takes** of a text after a part of it, if the rule matches there. -/
def Rule.taken? (r : Rule) (level : Nat)
    (ranked : (Expression.rule r).ranked grammar.toRanking level = true) (before s : List Char) :
    Option (List Char) :=
  (grammar.run level (.rule r) ranked (Text.byteCount before) s).1.outcome.taken?

/-- **A rule for words takes the whole leading word or nothing**, at every place of a text. Some
reserved word is read where the leading word spells one, a certain one where it spells that one, and
an identifier where it is not empty, does not start with a digit and spells no reserved word. So a
word that only begins like a reserved one is an identifier, and no place is read as both. -/
theorem words_taken_whole (before s : List Char) :
    (∀ level ranked, Rule.keyword.taken? level ranked before s =
      if IsKeyword (leadingWord s) then some (leadingWord s) else none) ∧
    (∀ k level ranked, (Rule.word k).taken? level ranked before s =
      if k.Spells (leadingWord s) then some (leadingWord s) else none) ∧
    (∀ level ranked, Rule.ident.taken? level ranked before s =
      if leadingWord s ≠ [] ∧ (leadingWord s).head?.any Char.isDigit = false ∧
          ¬ IsKeyword (leadingWord s)
        then some (leadingWord s) else none) ∧
    (∀ (k : Keyword) begun more, leadingWord s = begun ++ more → k.Spells begun →
      ¬ IsKeyword (leadingWord s) →
        ∀ level ranked, Rule.ident.taken? level ranked before s = some (leadingWord s)) ∧
    ∀ level ranked level' ranked', Rule.keyword.taken? level ranked before s = none ∨
      Rule.ident.taken? level' ranked' before s = none := by
  have keyword (level ranked) : Rule.keyword.taken? level ranked before s =
      if IsKeyword (leadingWord s) then some (leadingWord s) else none :=
    rule_taken? (fun reserved => ⟨_, _, keyword_matches _ reserved⟩) (keyword_fails _) level ranked
  have ident (level ranked) : Rule.ident.taken? level ranked before s =
      if IsIdentifier (leadingWord s) then some (leadingWord s) else none :=
    rule_taken? (fun named => ⟨_, _, ident_matches _ named⟩) (ident_fails _) level ranked
  refine ⟨keyword, fun k => ?_, fun level ranked => ?_, ?_, ?_⟩
  · exact rule_taken? (fun spells => ⟨_, _, word_matches _ spells⟩) (word_fails _)
  · rw [ident]
    simp only [isIdentifier_leadingWord_iff]
  · intro k begun more split spells free level ranked
    -- the word starts like a reserved one, and so with a letter
    have starts : (leadingWord s).head?.any isWordStart = true := by
      have first := spells.starts
      cases begun with
      | nil => cases first
      | cons c rest => rwa [split]
    rw [ident, if_pos ⟨starts, leadingWord_isWordChar s, free⟩]
  · intro level ranked level' ranked'
    rw [keyword, ident]
    by_cases reserved : IsKeyword (leadingWord s)
    · exact .inr (if_neg fun named => named.free reserved)
    · exact .inl (if_neg reserved)

/-- The name after FROM begins like a reserved word and is read as an identifier. -/
theorem orders_taken_whole :
    Keyword.ORDER.Spells "ORDER".toList ∧ ¬ IsKeyword (leadingWord "ORDERS o".toList) ∧
      Rule.ident.taken? grammar.top (by decide) "FROM ".toList "ORDERS o".toList =
        some "ORDERS".toList ∧
      Rule.keyword.taken? grammar.top (by decide) "FROM ".toList "ORDERS o".toList = none := by
  obtain ⟨keyword, -, -, begins, -⟩ := words_taken_whole "FROM ".toList "ORDERS o".toList
  have spells : Keyword.ORDER.Spells "ORDER".toList := by decide
  have free : ¬ IsKeyword (leadingWord "ORDERS o".toList) := by decide
  exact ⟨spells, free, begins .ORDER _ "S".toList rfl spells free grammar.top _,
    (keyword grammar.top _).trans (if_neg free)⟩

example : ∀ w ∈ ["orders", "ordinal", "ascending", "by_", "joined1"], IsIdentifier w.toList := by
  decide

end RuleQuery.Sql
