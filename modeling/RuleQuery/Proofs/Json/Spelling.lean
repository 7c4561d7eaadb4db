import RuleQuery.Json.Token
import RuleQuery.Json.Writer
import RuleQuery.Proofs.Text.Runs

/-!
**Tokens that are written are read again.**

* `lexString_escaped`: a string is read back from its form with escapes, whatever its characters.
* `number?_decimal`: an integer of 64 bits is read back from its digits.
* `Laid`: tokens one after the other, with any blanks between them. `Laid.lex_eq`: **the tokens of
  such a text are these.**
-/

namespace RuleQuery.Json

/-! ### Strings -/

theorem hex4?_control :
    ∀ n < 0x20, hex4? '0' '0' (hexDigit (n / 16)) (hexDigit (n % 16)) = some n := by
  decide

/-- A character stands for itself, or for what follows a backslash. -/
theorem escapeChar_cases (c : Char) :
    (escapeChar c = [c] ∧ c ≠ '"' ∧ c ≠ '\\' ∧ ¬ c.toNat < 0x20) ∨
      ∃ w, escapeChar c = '\\' :: w ∧ ∀ rest, lexEscape (w ++ rest) = some (some c, rest) := by
  unfold escapeChar
  split
  · next quote => subst quote; exact .inr ⟨_, rfl, fun _ => rfl⟩
  split
  · next backslash => subst backslash; exact .inr ⟨_, rfl, fun _ => rfl⟩
  split
  · next backspace => subst backspace; exact .inr ⟨_, rfl, fun _ => rfl⟩
  split
  · next formFeed => subst formFeed; exact .inr ⟨_, rfl, fun _ => rfl⟩
  split
  · next lineFeed => subst lineFeed; exact .inr ⟨_, rfl, fun _ => rfl⟩
  split
  · next carriage => subst carriage; exact .inr ⟨_, rfl, fun _ => rfl⟩
  split
  · next tab => subst tab; exact .inr ⟨_, rfl, fun _ => rfl⟩
  split
  · next control =>
    refine .inr ⟨_, rfl, fun rest => ?_⟩
    have high : isHighSurrogate c.toNat = false := by simp [isHighSurrogate]; omega
    have low : isLowSurrogate c.toNat = false := by simp [isLowSurrogate]; omega
    simp [lexEscape, hex4?_control c.toNat control, high, low]
  · next quote backslash _ _ _ _ _ printable => exact .inl ⟨rfl, quote, backslash, printable⟩

theorem lexChar_escapeChar (c : Char) (rest : List Char) :
    lexChar (escapeChar c ++ rest) = some (some c, rest) := by
  rcases escapeChar_cases c with ⟨form, _, backslash, printable⟩ | ⟨w, form, escape⟩
  · rw [form, List.singleton_append, lexChar, if_neg backslash, if_neg printable]
  · rw [form, List.cons_append, lexChar, if_pos rfl, escape]

/-- The form of a character does not start with the quote that ends a string. -/
theorem escapeChar_ne_quote (c : Char) (rest left : List Char) :
    escapeChar c ++ rest ≠ '"' :: left := by
  rcases escapeChar_cases c with ⟨form, quote, _⟩ | ⟨w, form, _⟩
  · rw [form]
    exact fun same => quote (List.cons.inj same).1
  · rw [form]
    exact fun same => absurd (List.cons.inj same).1 (by decide)

/-- **A string is read back from its form.** -/
theorem lexString_escaped (text rest : List Char) :
    lexString (text.flatMap escapeChar ++ '"' :: rest) = some (some text, rest) := by
  induction text with
  | nil => rw [List.flatMap_nil, List.nil_append, lexString]
  | cons c text ih =>
    have first := lexChar_escapeChar c (text.flatMap escapeChar ++ '"' :: rest)
    rw [List.flatMap_cons, List.append_assoc, lexString]
    · split
      · next none =>
        rw [first] at none
        cases none
      · next found =>
        rw [first] at found
        cases found
        rw [ih]
        rfl
    · exact escapeChar_ne_quote c _

/-! ### Numbers in range -/

theorem le_ofDigitChars (ds : List Char) (value : Nat) : value ≤ Nat.ofDigitChars 10 ds value := by
  rw [Nat.ofDigitChars_eq_ofDigitChars_zero]
  have power : 0 < 10 ^ ds.length := Nat.pow_pos (by decide)
  exact Nat.le_add_right_of_le (Nat.le_mul_of_pos_left value power)

/-- The digits of a number of 64 bits are all taken. -/
theorem takeDigits_eq {ds : List Char} {value : Nat}
    (small : Nat.ofDigitChars 10 ds value < UInt64.size) :
    takeDigits value ds = (Nat.ofDigitChars 10 ds value, []) := by
  induction ds generalizing value with
  | nil => rfl
  | cons d ds ih =>
    rw [Nat.ofDigitChars_cons, Nat.mul_comm] at small ⊢
    have longer := le_ofDigitChars ds (value * 10 + (d.toNat - '0'.toNat))
    have fits : value * 10 + (d.toNat - 48) < UInt64.size := Nat.lt_of_le_of_lt longer small
    rw [takeDigits, if_pos fits]
    exact ih small

theorem roundDouble_le (n : Nat) : roundDouble n ≤ 2 * n := by
  unfold roundDouble
  dsimp only
  generalize width : 1 <<< (n.log2 - 52) = unit
  have below : n / unit * unit ≤ n := Nat.div_mul_le_self n unit
  split
  · omega
  · next up =>
    -- only a number with a rest is rounded up, and its unit is not greater than itself
    have positive : n ≠ 0 := by
      rintro rfl
      exact up (.inl (by simp [← width]))
    have least : unit ≤ n := by
      rw [← width, Nat.one_shiftLeft]
      exact Nat.le_trans (Nat.pow_le_pow_right (by decide) (Nat.sub_le _ _)) (Nat.log2_self_le positive)
    rw [Nat.succ_mul]
    omega

theorem lt_doubleLimit : 2 * UInt64.size < doubleLimit := by
  decide

/-- A number of 64 bits without fraction and exponent is in range. -/
theorem inRange_of_small {ds : List Char} (small : Nat.ofDigitChars 10 ds 0 < UInt64.size) :
    inRange ds [] = true := by
  have whole := takeDigits_eq small
  have rounded := roundDouble_le (Nat.ofDigitChars 10 ds 0)
  have limit := lt_doubleLimit
  have one : roundDouble (Nat.pow 10 (0 : Int).toNat) = 1 := by decide
  have finite : isFinite (Nat.ofDigitChars 10 ds 0) 0 = true := by
    unfold isFinite
    rw [one, decide_eq_true_eq]
    exact .inr (.inr ⟨by decide, by omega⟩)
  simpa [inRange, whole, takeDigits, exponentValue] using finite

/-! ### Digits -/

/-- A number other than zero has no zero in front. -/
theorem head?_toDigits {n : Nat} (positive : 0 < n) : (Nat.toDigits 10 n).head? ≠ some '0' := by
  induction n using Nat.strongRecOn with
  | ind n ih =>
    by_cases small : n < 10
    · rw [Nat.toDigits_of_lt_base small, List.head?_cons]
      have digits : ∀ d < 10, 0 < d → some d.digitChar ≠ some '0' := by decide
      exact digits n small positive
    · have front := ih (n / 10) (by omega) (by omega)
      obtain ⟨d, ds, digits⟩ := List.exists_cons_of_ne_nil (Nat.toDigits_ne_nil (n := n / 10) (b := 10))
      rw [Nat.toDigits_of_base_le (by decide) (by omega), digits]
      rwa [digits] at front

theorem isDigits_toDigits (n : Nat) : isDigits (Nat.toDigits 10 n) = true := by
  have some : (Nat.toDigits 10 n).isEmpty = false := by
    simp [Nat.toDigits_ne_nil]
  rw [isDigits, some, Bool.not_false, Bool.true_and, List.all_eq_true]
  intro c member
  exact Nat.isDigit_of_mem_toDigits (by decide) (by decide) member

theorem isWhole_toDigits (n : Nat) : isWhole (Nat.toDigits 10 n) = true := by
  by_cases zero : n = 0
  · rw [zero, Nat.toDigits_zero]
    rfl
  · have front := head?_toDigits (Nat.pos_of_ne_zero zero)
    unfold isWhole
    split
    · rfl
    · next digits =>
      rw [digits] at front
      exact absurd rfl front
    · exact isDigits_toDigits n

theorem toDigits_run (n : Nat) :
    (Nat.toDigits 10 n).takeWhile Char.isDigit = Nat.toDigits 10 n ∧
      (Nat.toDigits 10 n).dropWhile Char.isDigit = [] := by
  have digits : ∀ c ∈ Nat.toDigits 10 n, c.isDigit = true := fun _ member =>
    Nat.isDigit_of_mem_toDigits (by decide) (by decide) member
  have run := @Text.run_append Char.isDigit _ [] digits nofun
  rwa [List.append_nil] at run

/-- **An integer of 64 bits is read back from its digits.** -/
theorem number?_decimal {value : Int} (small : value.natAbs < UInt64.size) :
    number? (Text.decimal value) = some (.int value) := by
  unfold Text.decimal
  generalize size : value.natAbs = n at small ⊢
  have read : Nat.ofDigitChars 10 (Nat.toDigits 10 n) 0 = n := Nat.ofDigitChars_ten_toDigits
  have range : inRange (Nat.toDigits 10 n) [] = true := inRange_of_small (by rwa [read])
  obtain ⟨whole, tail⟩ := toDigits_run n
  by_cases negative : value < 0
  · have nonzero : Nat.toDigits 10 n ≠ ['0'] := by
      intro zero
      rw [zero] at read
      have : Nat.ofDigitChars 10 ['0'] 0 = 0 := rfl
      omega
    have back : -(n : Int) = value := by omega
    simp [if_pos negative, number?, whole, tail, isWhole_toDigits, isFraction, isExponent, range,
      nonzero, read, back]
  · have sign : ((Nat.toDigits 10 n).head? == some '-') = false := by
      cases digits : Nat.toDigits 10 n with
      | nil => rfl
      | cons d ds =>
        have digit : d.isDigit = true :=
          Nat.isDigit_of_mem_toDigits (by decide) (by decide) (digits ▸ List.mem_cons_self)
        have other : d ≠ '-' := by
          rintro rfl
          cases digit
        simpa using other
    have back : (n : Int) = value := by omega
    simp [if_neg negative, number?, sign, whole, tail, isWhole_toDigits, isFraction, isExponent, range,
      read, back]

/-! ### Tokens in a text -/

namespace Token

/-- The characters of a token. -/
def text : Token → List Char
  | openArray => ['[']
  | closeArray => [']']
  | openObject => ['\x7b']
  | closeObject => ['\x7d']
  | comma => [',']
  | colon => [':']
  | null => ['n', 'u', 'l', 'l']
  | bool value => boolText value
  | int value => Text.decimal value
  | real literal => literal
  | str text => stringText text
  | broken | huge => []

/-- The token has characters from which it is read back: it is an integer of 64 bits, or no number
at all, and stands for something. -/
def Plain : Token → Prop
  | int value => value.natAbs < UInt64.size
  | real _ | broken | huge => False
  | _ => True

/-- The token ends before the text: no more digits come after a number and no more letters after a
word. -/
def EndsBefore : Token → List Char → Prop
  | int _, rest => ∀ c ∈ rest.head?, isNumberChar c = false
  | null, rest | bool _, rest => ∀ c ∈ rest.head?, c.isAlpha = false
  | _, _ => True

end Token

/-- A text after a token that is read. -/
theorem lex_of_lexToken {c : Char} {s rest : List Char} {t : Token} (solid : isSpace c = false)
    (read : lexToken c s = some (t, rest)) : lex (c :: s) = (lex rest).map (t :: ·) := by
  rw [lex, if_neg (by simp [solid])]
  split
  · next none =>
    rw [read] at none
    cases none
  · next found =>
    rw [read] at found
    cases found
    rfl

theorem isSpace_of_isNumberChar {c : Char} (number : isNumberChar c = true) :
    isSpace c = false ∧ mark? c = none ∧ c ≠ '"' := by
  have apart {d : Char} (other : isNumberChar d = false) : c ≠ d := by
    rintro rfl
    rw [number] at other
    cases other
  refine ⟨?_, ?_, apart rfl⟩
  · simp only [isSpace, Bool.or_eq_false_iff, beq_eq_false_iff_ne]
    exact ⟨⟨⟨apart rfl, apart rfl⟩, apart rfl⟩, apart rfl⟩
  · rw [mark?, if_neg (apart rfl), if_neg (apart rfl), if_neg (apart rfl), if_neg (apart rfl),
      if_neg (apart rfl), if_neg (apart rfl)]

theorem isNumberChar_of_isDigit {c : Char} (digit : c.isDigit = true) : isNumberChar c = true := by
  simp [isNumberChar, digit]

theorem isNumberChar_of_mem_decimal {value : Int} {c : Char} (member : c ∈ Text.decimal value) :
    isNumberChar c = true := by
  have digits : ∀ d ∈ Nat.toDigits 10 value.natAbs, isNumberChar d = true := fun _ inside =>
    isNumberChar_of_isDigit (Nat.isDigit_of_mem_toDigits (by decide) (by decide) inside)
  unfold Text.decimal at member
  split at member
  · rcases List.mem_cons.1 member with rfl | inside
    · rfl
    · exact digits c inside
  · exact digits c member

theorem decimal_ne_nil (value : Int) : Text.decimal value ≠ [] := by
  unfold Text.decimal
  split
  · exact List.cons_ne_nil _ _
  · exact Nat.toDigits_ne_nil

theorem lex_decimal {value : Int} {rest : List Char} (small : value.natAbs < UInt64.size)
    (ends : ∀ c ∈ rest.head?, isNumberChar c = false) :
    lex (Text.decimal value ++ rest) = (lex rest).map (.int value :: ·) := by
  have read := number?_decimal small
  have inside : ∀ c ∈ Text.decimal value, isNumberChar c = true := fun _ =>
    isNumberChar_of_mem_decimal
  obtain ⟨c, w, digits⟩ := List.exists_cons_of_ne_nil (decimal_ne_nil value)
  rw [digits] at read inside ⊢
  rw [List.forall_mem_cons] at inside
  obtain ⟨solid, unmarked, unquoted⟩ := isSpace_of_isNumberChar inside.1
  obtain ⟨taken, left⟩ := Text.run_append inside.2 ends
  rw [List.cons_append]
  refine lex_of_lexToken solid ?_
  rw [lexToken, unmarked]
  dsimp only
  rw [if_neg unquoted, if_pos inside.1, taken, left, read]
  rfl

/-- A word is read up to its last letter. -/
theorem lex_word {c : Char} {w rest : List Char} {t : Token} (word : word? (c :: w) = some t)
    (letters : ∀ d ∈ w, d.isAlpha = true) (ends : ∀ d ∈ rest.head?, d.isAlpha = false)
    (starts : isSpace c = false ∧ mark? c = none ∧ c ≠ '"' ∧ isNumberChar c = false) :
    lex (c :: w ++ rest) = (lex rest).map (t :: ·) := by
  obtain ⟨solid, unmarked, unquoted, other⟩ := starts
  obtain ⟨taken, left⟩ := Text.run_append letters ends
  rw [List.cons_append]
  refine lex_of_lexToken solid ?_
  rw [lexToken, unmarked]
  dsimp only
  rw [if_neg unquoted, if_neg (by simp [other]), taken, left, word]
  rfl

/-- **A token is read back from its characters.** -/
theorem lex_token {t : Token} {rest : List Char} (plain : t.Plain) (ends : t.EndsBefore rest) :
    lex (t.text ++ rest) = (lex rest).map (t :: ·) := by
  cases t with
  | openArray => exact lex_of_lexToken rfl rfl
  | closeArray => exact lex_of_lexToken rfl rfl
  | openObject => exact lex_of_lexToken rfl rfl
  | closeObject => exact lex_of_lexToken rfl rfl
  | comma => exact lex_of_lexToken rfl rfl
  | colon => exact lex_of_lexToken rfl rfl
  | null => exact lex_word rfl (List.all_eq_true.1 rfl) ends (by decide)
  | bool value =>
    cases value with
    | true => exact lex_word rfl (List.all_eq_true.1 rfl) ends (by decide)
    | false => exact lex_word rfl (List.all_eq_true.1 rfl) ends (by decide)
  | int value => exact lex_decimal plain ends
  | str text =>
    rw [Token.text, stringText, List.append_assoc, List.cons_append, List.singleton_append]
    refine lex_of_lexToken rfl ?_
    show (lexString _).map _ = _
    rw [lexString_escaped]
    rfl
  | real => exact plain.elim
  | broken => exact plain.elim
  | huge => exact plain.elim

/-- **The text lays out the tokens**, with blanks between them or not. -/
inductive Laid : List Token → List Char → Prop where
  | nil : Laid [] []
  | blank {tokens : List Token} {c : Char} {s : List Char} (space : isSpace c = true)
      (laid : Laid tokens s) : Laid tokens (c :: s)
  | token {t : Token} {tokens : List Token} {s : List Char} (plain : t.Plain)
      (ends : t.EndsBefore s) (laid : Laid tokens s) : Laid (t :: tokens) (t.text ++ s)

/-- **The tokens of a text are those that it lays out.** -/
theorem Laid.lex_eq {tokens : List Token} {s : List Char} (laid : Laid tokens s) :
    lex s = some tokens := by
  induction laid with
  | nil => rw [lex]
  | blank space _ ih => rw [lex, if_pos space, ih]
  | token plain ends _ ih => rw [lex_token plain ends, ih, Option.map_some]

end RuleQuery.Json
