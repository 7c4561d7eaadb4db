import RuleQuery.Proofs.Sql.Acceptance

/-!
**What the lexical rules read.**

For each lexical rule: the one kind of token that it accepts, and that it refuses every other.

* reserved words (`word_accepts`, `word_refuses`) and identifiers (`ident_accepts`, `ident_refuses`);
* signs (`sign_accepts`, `sign_refuses`) and comparisons (`cmpOp_accepts`, `cmpOp_refuses`);
* literals (`literal_accepts`, `literal_refuses`): the value is the one that was written.
-/

namespace RuleQuery.Sql

open Peg
open Peg.Expression

variable {k : Keyword} {text : String} {tokens more : List Token} {s w rest : List Char} {c : Char}

/-! ### Words -/

theorem Facing.keyword (facing : Facing (.keyword k :: tokens) s) :
    k.Spells (leadingWord s) ∧ Spelling tokens (afterWord s) := by
  obtain ⟨w, rest, rfl, spelled, apart, others⟩ := facing.token
  cases spelled with
  | keyword spells =>
    rw [leadingWord_append spells.isWordChar (apart rfl),
      afterWord_append spells.isWordChar (apart rfl)]
    exact ⟨spells, others⟩

theorem Facing.name (facing : Facing (.name text :: tokens) s) :
    leadingWord s = text.toList ∧ Named text ∧ Spelling tokens (afterWord s) := by
  obtain ⟨w, rest, rfl, spelled, apart, others⟩ := facing.token
  cases spelled with
  | name named =>
    rw [leadingWord_append named.inside (apart rfl), afterWord_append named.inside (apart rfl)]
    exact ⟨rfl, named, others⟩

theorem not_isWordStart_of_isDigit (digit : c.isDigit = true) : isWordStart c = false := by
  have last : c.toNat ≤ 57 := by
    rw [Char.isDigit, Bool.and_eq_true, decide_eq_true_eq, decide_eq_true_eq] at digit
    exact UInt32.le_iff_toNat_le.1 digit.2
  cases starts : isWordStart c with
  | false => rfl
  | true =>
    rw [isWordStart, Bool.or_eq_true, beq_iff_eq, Text.isAlpha_iff] at starts
    rcases starts with letter | rfl
    · omega
    · exact absurd last (by decide)

/-- A token that is no word does not start like one. -/
theorem Token.StartsWith.not_isWordStart {t : Token} (starts : t.StartsWith c)
    (other : t.isWord = false) : isWordStart c = false := by
  cases t with
  | keyword => cases other
  | name => cases other
  | value v =>
    cases v with
    | int =>
      rcases starts with digit | rfl
      · exact not_isWordStart_of_isDigit digit
      · rfl
    | string => cases starts; rfl
  | compare => rcases starts with rfl | rfl | rfl | rfl <;> rfl
  | sign =>
    obtain ⟨rfl, member⟩ := starts
    have signs : ∀ c ∈ Token.signs, isWordStart c = false := by simp [Token.signs, isWordStart]
    exact signs c member

theorem starts_of_leadingWord (starts : (leadingWord s).head?.any isWordStart = true) :
    s.head?.any isWordStart = true := by
  cases s with
  | nil => exact starts
  | cons c s =>
    by_cases member : isWordChar c = true
    · rwa [leadingWord, List.takeWhile_cons_of_pos member] at starts
    · rw [leadingWord, List.takeWhile_cons_of_neg member] at starts
      cases starts

/-- No word is read at a token that is none. -/
theorem Facing.not_starts (facing : Facing tokens s) (other : Clear Token.isWord tokens) :
    ¬ (leadingWord s).head?.any isWordStart = true := by
  intro starts
  have starts := starts_of_leadingWord starts
  cases tokens with
  | nil => rw [facing.finish] at starts; cases starts
  | cons t tokens =>
    obtain ⟨w, rest, rfl, spelled, -⟩ := facing.token
    obtain ⟨c, tail, rfl, first⟩ := spelled.first
    have never := first.not_isWordStart (clear_cons.1 other)
    rw [List.cons_append, List.head?_cons, Option.any_some, never] at starts
    cases starts

/-- **A reserved word is read at its token.** -/
theorem word_accepts (k : Keyword) (more : List Token) :
    Accepts (.rule (.word k)) [.keyword k] more (significant [.keyword k]) := by
  intro position s facing
  obtain ⟨spells, others⟩ := facing.keyword
  exact ⟨_, _, _, word_matches position spells, .node position .nil rfl, others⟩

theorem word_refuses (other : Clear (· == .keyword k) tokens) : Refuses (.rule (.word k)) tokens := by
  intro position s facing
  apply word_fails
  intro spells
  cases tokens with
  | nil => exact facing.not_starts (clear_nil _) spells.starts
  | cons t tokens =>
    cases t with
    | keyword k' =>
      have spells' := facing.keyword.1
      rw [Keyword.Spells] at spells spells'
      have same := Keyword.letters_injective (spells.symm.trans spells')
      simp [same] at other
    | name n =>
      obtain ⟨word, named, -⟩ := facing.name
      rw [word] at spells
      exact named.free ⟨k, spells⟩
    | _ => exact facing.not_starts (clear_cons.2 rfl) spells.starts

/-- The token is a name. -/
def Token.isName : Token → Bool
  | name _ => true
  | _ => false

/-- **An identifier is read at a name.** -/
theorem ident_accepts (text : String) (more : List Token) :
    Accepts (.rule .ident) [.name text] more [.name text] := by
  intro position s facing
  obtain ⟨word, named, others⟩ := facing.name
  have found : IsIdentifier (leadingWord s) := by rw [word]; exact named
  have made : combine? .ident (leadingWord s) [] = some (.name text) := by
    rw [word]
    show some (Part.name (String.ofList text.toList)) = _
    rw [String.ofList_toList]
  exact ⟨_, _, _, ident_matches position found, .node position .nil made, others⟩

theorem ident_refuses (other : Clear Token.isName tokens) : Refuses (.rule .ident) tokens := by
  intro position s facing
  apply ident_fails
  intro named
  cases tokens with
  | nil => exact facing.not_starts (clear_nil _) named.starts
  | cons t tokens =>
    cases t with
    | keyword k => exact named.free ⟨k, facing.keyword.1⟩
    | name n => simp [Token.isName] at other
    | _ => exact facing.not_starts (clear_cons.2 rfl) named.starts

/-! ### Signs -/

theorem text_matches (w rest : List Char) (position : Nat) :
    Matches grammar (.text w) position (w ++ rest) (.ok [] w rest) :=
  .text (takeLike_beq_eq_some_iff.2 ⟨rfl, rfl⟩)

theorem text_fails (position : Nat) (other : ¬ w <+: s) :
    Matches grammar (.text w) position s .fail := by
  cases found : takeLike (· == ·) w s with
  | none => exact .text_fail found
  | some parts => exact absurd ⟨parts.2, (takeLike_beq_eq_some_iff.1 found).2⟩ other

/-- A text with tokens starts as its first token does. -/
theorem Facing.first {t : Token} (facing : Facing (t :: tokens) s) :
    ∃ c tail, s = c :: tail ∧ t.StartsWith c := by
  obtain ⟨w, rest, rfl, spelled, -⟩ := facing.token
  obtain ⟨c, tail, rfl, starts⟩ := spelled.first
  exact ⟨c, tail ++ rest, rfl, starts⟩

/-- Only the token of a sign starts with it. -/
theorem Token.StartsWith.eq_sign {t : Token} (starts : t.StartsWith c) (member : c ∈ Token.signs) :
    t = .sign c := by
  have signs : ∀ c ∈ Token.signs, isWordStart c = false ∧ c.isDigit = false ∧
      c ≠ '-' ∧ c ≠ '\'' ∧ c ≠ '=' ∧ c ≠ '<' ∧ c ≠ '>' ∧ c ≠ '!' := by
    simp [Token.signs, isWordStart]
  have others := signs c member
  cases t with
  | keyword => exact absurd starts (by simp [Token.StartsWith, others])
  | name => exact absurd starts (by simp [Token.StartsWith, others])
  | value v => cases v <;> exact absurd starts (by simp [Token.StartsWith, others])
  | compare => exact absurd starts (by simp [Token.StartsWith, others])
  | sign d => rw [starts.1]

/-- **A sign is read at its token.** -/
theorem sign_accepts (c : Char) (more : List Token) : Accepts (.text [c]) [.sign c] more [] := by
  intro position s facing
  obtain ⟨w, rest, rfl, spelled, -, others⟩ := facing.token
  cases spelled with
  | sign => exact ⟨[], [c], rest, text_matches [c] rest position, .nil, others⟩

theorem sign_refuses (member : c ∈ Token.signs) (other : Clear (· == .sign c) tokens) :
    Refuses (.text [c]) tokens := by
  intro position s facing
  apply text_fails
  rintro ⟨rest, rfl⟩
  cases tokens with
  | nil => cases facing.finish
  | cons t tokens =>
    obtain ⟨d, tail, same, starts⟩ := facing.first
    cases same
    rw [starts.eq_sign member] at other
    simp at other

/-! ### Comparisons -/

/-- The token is a comparison. -/
def Token.isCompare : Token → Bool
  | compare _ => true
  | _ => false

/-- A choice of literals takes the first that the text starts with. -/
theorem anyText_matches {ws : List (List Char)} (position : Nat)
    (first : ws.find? (·.isPrefixOf (w ++ rest)) = some w) :
    Matches grammar (anyOf (ws.map .text)) position (w ++ rest) (.ok [] w rest) := by
  induction ws with
  | nil => cases first
  | cons w' ws ih =>
    rw [List.find?_cons] at first
    cases starts : w'.isPrefixOf (w ++ rest) with
    | true =>
      rw [starts] at first
      cases first
      exact .anyOf_first _ (text_matches w rest position)
    | false =>
      rw [starts] at first
      have other : ¬ w' <+: w ++ rest := by
        rw [← List.isPrefixOf_iff_prefix, starts]
        exact Bool.false_ne_true
      exact .anyOf_later (text_fails position other) (ih first)

theorem anyText_fails {ws : List (List Char)} (position : Nat) (none : ∀ w ∈ ws, ¬ w <+: s) :
    Matches grammar (anyOf (ws.map .text)) position s .fail := by
  induction ws with
  | nil => exact .anyOf_none position s
  | cons w ws ih =>
    rw [List.forall_mem_cons] at none
    exact .anyOf_later (text_fails position none.1) (ih none.2)

/-- The characters that start a comparison. -/
def comparisonStarts : List Char :=
  ['=', '<', '>', '!']

/-- Only a comparison starts with such a character. -/
theorem Token.StartsWith.isCompare {t : Token} (starts : t.StartsWith c)
    (sign : c ∈ comparisonStarts) : t.isCompare = true := by
  have signs : ∀ c ∈ comparisonStarts, isWordStart c = false ∧ c.isDigit = false ∧
      c ≠ '-' ∧ c ≠ '\'' ∧ c ∉ Token.signs := by
    simp [comparisonStarts, Token.signs, isWordStart]
  have others := signs c sign
  cases t with
  | keyword => exact absurd starts (by simp [Token.StartsWith, others])
  | name => exact absurd starts (by simp [Token.StartsWith, others])
  | value v => cases v <;> exact absurd starts (by simp [Token.StartsWith, others])
  | compare => rfl
  | sign d =>
    obtain ⟨rfl, member⟩ := starts
    exact absurd member others.2.2.2.2

/-- What follows a comparison does not go on with it. -/
theorem Spelling.not_compare (spelling : Spelling tokens (c :: s))
    (other : Clear Token.isCompare tokens) : c ∉ comparisonStarts := by
  intro sign
  have signs : ∀ c ∈ comparisonStarts, isGapChar c = false ∧ c ≠ '-' := by
    simp [comparisonStarts, isGapChar]
  obtain ⟨solid, notHyphen⟩ := signs c sign
  rcases spelling.first with blank | hyphen | ⟨t, member, starts⟩
  · rw [solid] at blank
    cases blank
  · exact notHyphen hyphen
  · have never := other t member
    rw [starts.isCompare sign] at never
    cases never

/-- **A comparison is read at its token.** -/
theorem cmpOp_accepts (op : BinOp) (other : Clear Token.isCompare more) :
    Accepts (.rule .cmpOp) [.compare op] more [.op op] := by
  intro position s facing
  obtain ⟨w, rest, rfl, spelled, -, others⟩ := facing.token
  have first : comparisonSigns.find? (·.isPrefixOf (w ++ rest)) = some w := by
    cases rest with
    | nil => cases spelled <;> rfl
    | cons c rest =>
      have goesOn := others.not_compare other
      have notEqual : '=' ≠ c := by rintro rfl; exact goesOn (by decide)
      have notGreater : '>' ≠ c := by rintro rfl; exact goesOn (by decide)
      cases spelled <;> simp [comparisonSigns, notEqual, notGreater]
  have made : combine? .cmpOp w [] = some (.op op) := by cases spelled <;> rfl
  have inside : Matches grammar (body .cmpOp) position (w ++ rest) (.ok [] w rest) :=
    anyText_matches position first
  exact ⟨_, w, rest, .plain rfl inside, .node position .nil made, others⟩

theorem cmpOp_refuses (other : Clear Token.isCompare tokens) : Refuses (.rule .cmpOp) tokens := by
  intro position s facing
  apply Matches.rule_fail
  show Matches grammar (anyOf (comparisonSigns.map .text)) position s .fail
  apply anyText_fails
  have signs : ∀ w ∈ comparisonSigns, ∃ c rest, w = c :: rest ∧ c ∈ comparisonStarts := by
    simp [comparisonSigns, comparisonStarts]
  rintro w member ⟨after, rfl⟩
  obtain ⟨c, rest, rfl, sign⟩ := signs w member
  exact facing.1.not_compare other sign

/-! ### Literals -/

/-- The token is a literal. -/
def Token.isValue : Token → Bool
  | value _ => true
  | _ => false

/-- The token is an integer. -/
def Token.isInteger : Token → Bool
  | value (.int _) => true
  | _ => false

/-- Only a literal starts with a digit, a hyphen or a quote. -/
theorem Token.StartsWith.isValue {t : Token} (starts : t.StartsWith c)
    (sign : c.isDigit = true ∨ c = '-' ∨ c = '\'') : t.isValue = true := by
  have notStart : isWordStart c = false := by
    rcases sign with digit | rfl | rfl
    · exact not_isWordStart_of_isDigit digit
    · rfl
    · rfl
  have signs : ∀ c ∈ Token.signs ++ comparisonStarts, c.isDigit = false ∧ c ≠ '-' ∧ c ≠ '\'' := by
    simp [comparisonStarts, Token.signs]
  have other : c ∉ Token.signs ++ comparisonStarts := by
    intro member
    have never := signs c member
    simp [never] at sign
  cases t with
  | keyword => exact absurd starts (by simp [Token.StartsWith, notStart])
  | name => exact absurd starts (by simp [Token.StartsWith, notStart])
  | value => rfl
  | compare =>
    have member : c ∈ comparisonStarts := by simpa [comparisonStarts, Token.StartsWith] using starts
    exact absurd (List.mem_append_right _ member) other
  | sign =>
    obtain ⟨rfl, member⟩ := starts
    exact absurd (List.mem_append_left _ member) other

theorem Token.StartsWith.isInteger {t : Token} (starts : t.StartsWith c)
    (sign : c.isDigit = true ∨ c = '-') : t.isInteger = true := by
  have value := starts.isValue (sign.imp_right .inl)
  cases t with
  | value v =>
    cases v with
    | int => rfl
    | string =>
      cases starts
      exact absurd sign (by decide)
  | _ => cases value

/-- What follows a literal does not go on with it. -/
theorem Spelling.not_value (spelling : Spelling tokens (c :: s))
    (other : Clear Token.isValue tokens) : ¬ (c.isDigit = true ∨ c = '\'') := by
  intro sign
  have solid : isGapChar c = false := by
    rcases sign with digit | rfl
    · exact Token.StartsWith.solid (t := .value (.int 0)) (.inl digit)
    · rfl
  rcases spelling.first with blank | rfl | ⟨t, member, starts⟩
  · rw [solid] at blank
    cases blank
  · rcases sign with digit | quote
    · exact absurd digit (by decide)
    · cases quote
  · have never := other t member
    rw [starts.isValue (sign.imp_right .inr)] at never
    cases never

/-! ### Integers -/

theorem digits_matches {digits : List Char} (position : Nat) (some : digits ≠ [])
    (all : ∀ c ∈ digits, c.isDigit = true) (ends : ∀ c ∈ rest.head?, c.isDigit = false) :
    Matches grammar (.next (.char Char.isDigit) (.many (.char Char.isDigit))) position
      (digits ++ rest) (.ok [] digits rest) := by
  obtain ⟨d, digits, rfl⟩ := List.exists_cons_of_ne_nil some
  rw [List.forall_mem_cons] at all
  have others := Matches.many_ofChar (g := grammar) (.char_ofChar Char.isDigit)
    (position + Text.byteCount [d]) (digits ++ rest)
  obtain ⟨taken, left⟩ := Text.run_append all.2 ends
  rw [taken, left] at others
  exact (Matches.next (.char all.1 position (digits ++ rest)) others :)

theorem integer?_of_denotes {i : Int64} {literal : List Char}
    (denotes : i.toInt = Text.decimalValue literal) : integer? literal = some i := by
  rw [integer?, ← denotes, if_pos ⟨i.minValue_le_toInt, i.toInt_le⟩, Int64.ofInt_toInt]

/-- **An integer is read at its token.** -/
theorem integer_accepts (i : Int64) (other : Clear Token.isValue more) :
    Accepts (.rule .integer) [.value (.int i)] more [.value (.int i)] := by
  intro position s facing
  obtain ⟨w, rest, rfl, spelled, -, others⟩ := facing.token
  have ends : ∀ c ∈ rest.head?, c.isDigit = false := by
    cases rest with
    | nil => simp
    | cons d rest =>
      rintro c ⟨⟩
      exact Bool.eq_false_iff.2 fun digit => others.not_value other (.inl digit)
  suffices read : Matches grammar (body .integer) position (w ++ rest) (.ok [] w rest) ∧
      i.toInt = Text.decimalValue w by
    obtain ⟨inside, denotes⟩ := read
    have made : combine? .integer w [] = some (.value (.int i)) := by
      show (integer? w).map _ = _
      rw [integer?_of_denotes denotes, Option.map_some]
    exact ⟨_, w, rest, .atomic rfl inside, .node position .nil made, others⟩
  cases spelled with
  | natural some all denotes =>
    have number := digits_matches position some all ends
    obtain ⟨d, digits, rfl⟩ := List.exists_cons_of_ne_nil some
    have noHyphen : d ≠ '-' := by
      rintro rfl
      exact absurd (all '-' List.mem_cons_self) (by decide)
    have sign := text_fails position (w := ['-']) (s := d :: digits ++ rest)
      (by rintro ⟨_, same⟩; cases same; exact noHyphen rfl)
    refine ⟨(Matches.next (.skip sign) number :), ?_⟩
    rw [denotes, Text.decimalValue.eq_2]
    intro _ same
    exact noHyphen (List.cons.inj same).1
  | @negative _ digits some all denotes =>
    have sign := Matches.optional (text_matches ['-'] (digits ++ rest) position)
    exact ⟨(Matches.next sign (digits_matches _ some all ends) :), denotes⟩

theorem integer_refuses (other : Clear Token.isInteger tokens) :
    Refuses (.rule .integer) tokens := by
  intro position s facing
  apply Matches.rule_fail
  have starts : ∀ c tail, s = c :: tail → ¬ (c.isDigit = true ∨ c = '-') := by
    rintro c tail rfl sign
    cases tokens with
    | nil => cases facing.finish
    | cons t tokens =>
      obtain ⟨d, _, same, first⟩ := facing.first
      cases same
      rw [clear_cons, first.isInteger sign] at other
      cases other
  have sign := text_fails position (w := ['-']) (s := s) (by
    rintro ⟨rest, rfl⟩
    exact starts '-' rest rfl (.inr rfl))
  have digit : Matches grammar (.char Char.isDigit) position s .fail := by
    cases s with
    | nil => exact .char_end _ _
    | cons c s => exact .char_fail (Bool.eq_false_iff.2 fun digit => starts c s rfl (.inl digit)) _ _
  exact (Matches.next (.skip sign) (.next_fail _ digit) :)

/-! ### Strings -/

theorem doubleQuotes_cons_quote (text : List Char) :
    doubleQuotes ('\'' :: text) = '\'' :: '\'' :: doubleQuotes text :=
  rfl

theorem doubleQuotes_cons (other : c ≠ '\'') (text : List Char) :
    doubleQuotes (c :: text) = c :: doubleQuotes text := by
  rw [doubleQuotes, List.flatMap_cons, if_neg other]
  rfl

theorem undoubleQuotes_doubleQuotes (text : List Char) :
    undoubleQuotes (doubleQuotes text) = text := by
  induction text with
  | nil => rfl
  | cons c text ih =>
    by_cases quote : c = '\''
    · rw [quote, doubleQuotes_cons_quote, undoubleQuotes, ih]
    · rw [doubleQuotes_cons quote, undoubleQuotes.eq_2, ih]
      intro _ same
      exact absurd same quote

theorem stringValue_quoted (text : String) :
    stringValue ('\'' :: (doubleQuotes text.toList ++ ['\''])) = text := by
  rw [stringValue, List.drop_one, List.tail_cons, List.dropLast_concat, undoubleQuotes_doubleQuotes,
    String.ofList_toList]

/-- What a string repeats: a pair of quotes, or one character that is no quote. -/
abbrev stringChar : Expression Rule :=
  .choice (.text ['\'', '\'']) (.next (.absent (.text ['\''])) (.char fun _ => true))

theorem stringChars_matches (position : Nat) (text : List Char) (ends : rest.head? ≠ some '\'') :
    Matches grammar (.many stringChar) position (doubleQuotes text ++ '\'' :: rest)
      (.ok [] (doubleQuotes text) ('\'' :: rest)) := by
  induction text generalizing position with
  | nil =>
    have pair := text_fails position (w := ['\'', '\'']) (s := '\'' :: rest) (by
      rintro ⟨_, same⟩
      cases same
      exact ends rfl)
    have quote := Matches.present (text_matches ['\''] rest position)
    exact .stop (.second pair (.next_fail _ quote))
  | cons c text ih =>
    by_cases quote : c = '\''
    · rw [quote, doubleQuotes_cons_quote]
      have pair := text_matches ['\'', '\''] (doubleQuotes text ++ '\'' :: rest) position
      exact (Matches.again (.first _ pair) (ih _) :)
    · rw [doubleQuotes_cons quote]
      have noQuote : ∀ w, ¬ ('\'' :: w) <+: c :: (doubleQuotes text ++ '\'' :: rest) := by
        rintro w ⟨_, same⟩
        exact quote (List.cons.inj same).1.symm
      have any := Matches.char_ofChar (g := grammar) (fun _ => true) (position + Text.byteCount [])
        (c :: (doubleQuotes text ++ '\'' :: rest))
      have single := Matches.second (text_fails position (noQuote ['\'']))
        (Matches.next (.absent (text_fails position (noQuote []))) any)
      exact (Matches.again single (ih _) :)

/-- **A string is read at its token.** -/
theorem string_accepts (text : String) (other : Clear Token.isValue more) :
    Accepts (.rule .string) [.value (.string text)] more [.value (.string text)] := by
  intro position s facing
  obtain ⟨w, rest, rfl, spelled, -, others⟩ := facing.token
  cases spelled with
  | string =>
    have ends : rest.head? ≠ some '\'' := by
      cases rest with
      | nil => simp
      | cons c rest =>
        rintro ⟨⟩
        exact others.not_value other (.inr rfl)
    have inside : Matches grammar (body .string) position
        ('\'' :: (doubleQuotes text.toList ++ ['\'']) ++ rest)
        (.ok [] ('\'' :: (doubleQuotes text.toList ++ ['\''])) rest) := by
      have chars := stringChars_matches (position + Text.byteCount ['\'']) text.toList ends
      have whole := Matches.next (text_matches ['\''] _ position)
        (.next chars (text_matches ['\''] rest _))
      have same : '\'' :: (doubleQuotes text.toList ++ ['\'']) ++ rest =
          ['\''] ++ (doubleQuotes text.toList ++ '\'' :: rest) := by simp
      rw [same]
      exact whole
    have made : combine? .string ('\'' :: (doubleQuotes text.toList ++ ['\''])) [] =
        some (.value (.string text)) := by
      show some (Part.value (.string (stringValue _))) = _
      rw [stringValue_quoted]
    exact ⟨_, _, rest, .atomic rfl inside, .node position .nil made, others⟩

theorem string_refuses (other : Clear Token.isValue tokens) : Refuses (.rule .string) tokens := by
  intro position s facing
  apply Matches.rule_fail
  refine .next_fail _ (text_fails position ?_)
  rintro ⟨rest, rfl⟩
  cases tokens with
  | nil => cases facing.finish
  | cons t tokens =>
    obtain ⟨d, _, same, first⟩ := facing.first
    cases same
    rw [clear_cons, first.isValue (.inr (.inr rfl))] at other
    cases other

/-! ### Literals -/

/-- **A literal is read at its token.** -/
theorem literal_accepts (v : Value) (other : Clear Token.isValue more) :
    Accepts (.rule .literal) [.value v] more [.expr (.literal v)] := by
  have made : ∀ text, combine? .literal text [.value v] = some (.expr (.literal v)) := fun _ => rfl
  refine .plain rfl made ?_
  cases v with
  | int i => exact .first (integer_accepts i other)
  | string text => exact .second (integer_refuses (clear_cons.2 rfl)) (string_accepts text other)

theorem literal_refuses (other : Clear Token.isValue tokens) : Refuses (.rule .literal) tokens := by
  have noInteger : Clear Token.isInteger tokens := other.imp fun t integer => by
    cases t with
    | value => rfl
    | _ => exact integer
  exact .rule (.choice (integer_refuses noInteger) (string_refuses other))

/-! ### The end -/

theorem endOfInput_accepts : Accepts (.rule .endOfInput) [] [] [.finish] := by
  intro position s facing
  rw [facing.finish]
  have made : combine? .endOfInput [] [] = some .finish := rfl
  exact ⟨_, [], [], .plain rfl (.absent (.char_end _ _)), .node position .nil made,
    .finish (.closed .none)⟩

end RuleQuery.Sql
