import RuleQuery.Json.Reader
import RuleQuery.Json.Record
import RuleQuery.Proofs.Json.Spelling

/-!
**Values that are written are read again.**

A value goes to its text by way of its tokens, and back the same way.

* `Plain`: values of words, strings and integers of 64 bits, in arrays and objects.
* `Plain.laysOut`: in every layout, the text of a plain value lays out its tokens.
* `Plain.readBack`: the reader goes through these tokens and has read the value, if the value with what
  is open around it is not too deep.
* `parse_compact` and `parse_pretty`: **a plain value that is not too deep is read back from both of
  its texts.**
-/

namespace RuleQuery.Json

/-! ### Tokens of values -/

mutual

/-- **The tokens of a value.** -/
def tokens : Json → List Token
  | null | unreadable => [.null]
  | bool value => [.bool value]
  | int value => [.int value]
  | real literal => [.real literal]
  | str text => [.str text.toList]
  | arr [] => [.openArray, .closeArray]
  | arr (v :: rest) => .openArray :: (v.tokens ++ itemTokens rest)
  | obj [] => [.openObject, .closeObject]
  | obj ((name, v) :: rest) =>
    .openObject :: .str name.toList :: .colon :: (v.tokens ++ fieldTokens rest)

/-- The tokens of the items after the first, and the closing bracket. -/
def itemTokens : List Json → List Token
  | [] => [.closeArray]
  | v :: rest => .comma :: (v.tokens ++ itemTokens rest)

/-- The tokens of the fields after the first, and the closing brace. -/
def fieldTokens : List (String × Json) → List Token
  | [] => [.closeObject]
  | (name, v) :: rest => .comma :: .str name.toList :: .colon :: (v.tokens ++ fieldTokens rest)

end

/-- **A value of words, strings and integers of 64 bits**, in arrays and objects. -/
inductive Plain : Json → Prop where
  | null : Plain null
  | bool (value : Bool) : Plain (bool value)
  | int {value : Int} (small : value.natAbs < UInt64.size) : Plain (int value)
  | str (text : String) : Plain (str text)
  | arr {items : List Json} (each : ∀ v ∈ items, Plain v) : Plain (arr items)
  | obj {fields : List (String × Json)} (each : ∀ field ∈ fields, Plain field.2) : Plain (obj fields)

/-! ### What a plain value holds -/

section Contents

variable {items : List Json} {fields : List (String × Json)} {room : Nat}

theorem areReadable_iff : areReadable items = true ↔ ∀ v ∈ items, v.isReadable = true := by
  induction items with
  | nil => simp [areReadable]
  | cons v items ih => rw [areReadable, Bool.and_eq_true, ih, List.forall_mem_cons]

theorem haveReadable_iff :
    haveReadable fields = true ↔ ∀ field ∈ fields, field.2.isReadable = true := by
  induction fields with
  | nil => simp [haveReadable]
  | cons field fields ih => rw [haveReadable, Bool.and_eq_true, ih, List.forall_mem_cons]

theorem Plain.isReadable {v : Json} (plain : v.Plain) : v.isReadable = true := by
  induction plain with
  | arr _ each => exact areReadable_iff.2 each
  | obj _ each => exact haveReadable_iff.2 each
  | _ => rfl

theorem depthOfItems_le_iff : depthOfItems items ≤ room ↔ ∀ v ∈ items, v.depth ≤ room := by
  induction items with
  | nil => simp [depthOfItems]
  | cons v items ih => rw [depthOfItems, Nat.max_le, ih, List.forall_mem_cons]

theorem depthOfFields_le_iff :
    depthOfFields fields ≤ room ↔ ∀ field ∈ fields, field.2.depth ≤ room := by
  induction fields with
  | nil => simp [depthOfFields]
  | cons field fields ih => rw [depthOfFields, Nat.max_le, ih, List.forall_mem_cons]

/-- **A plain value of bounded depth.** -/
structure PlainWithin (room : Nat) (v : Json) : Prop where
  plain : v.Plain
  shallow : v.depth ≤ room

namespace PlainWithin

theorem mono {v : Json} {more : Nat} (within : v.PlainWithin room) (le : room ≤ more) :
    v.PlainWithin more :=
  ⟨within.plain, Nat.le_trans within.shallow le⟩

theorem str (text : String) : (Json.str text).PlainWithin room :=
  ⟨.str text, Nat.zero_le room⟩

theorem int {value : Int} (small : value.natAbs < UInt64.size) : (Json.int value).PlainWithin room :=
  ⟨.int small, Nat.zero_le room⟩

theorem arr (each : ∀ v ∈ items, PlainWithin room v) : (Json.arr items).PlainWithin (room + 1) :=
  ⟨.arr fun v member => (each v member).plain,
    Nat.succ_le_succ (depthOfItems_le_iff.2 fun v member => (each v member).shallow)⟩

theorem obj (each : ∀ field ∈ fields, PlainWithin room field.2) :
    (Json.obj fields).PlainWithin (room + 1) :=
  ⟨.obj fun field member => (each field member).plain,
    Nat.succ_le_succ (depthOfFields_le_iff.2 fun field member => (each field member).shallow)⟩

theorem aside?_eq {v : Json} (within : v.PlainWithin room) : v.aside? = some v := by
  rw [aside?, if_pos within.plain.isReadable]

end PlainWithin

end Contents

/-! ### Texts -/

/-- The layout has blanks only. -/
structure Layout.Blank (layout : Layout) : Prop where
  line : ∀ depth, ∀ c ∈ layout.line depth, isSpace c = true
  afterColon : ∀ c ∈ layout.afterColon, isSpace c = true

theorem Layout.blank_compact : Layout.compact.Blank :=
  ⟨nofun, nofun⟩

theorem Layout.blank_pretty : Layout.pretty.Blank := by
  refine ⟨fun depth c member => ?_, List.forall_mem_singleton.2 rfl⟩
  rcases List.mem_cons.1 member with rfl | inside
  · rfl
  · rw [List.eq_of_mem_replicate inside]
    rfl

/-- A value ends before the text: neither a digit nor a letter comes next. -/
def Stops (rest : List Char) : Prop :=
  ∀ c ∈ rest.head?, isNumberChar c = false ∧ c.isAlpha = false

theorem stops_cons {c : Char} {s : List Char} (other : isNumberChar c = false ∧ c.isAlpha = false) :
    Stops (c :: s) := by
  rintro d ⟨⟩
  exact other

theorem isSpace_ends {c : Char} (space : isSpace c = true) :
    isNumberChar c = false ∧ c.isAlpha = false := by
  simp only [isSpace, Bool.or_eq_true, beq_iff_eq] at space
  rcases space with ((rfl | rfl) | rfl) | rfl <;> decide

theorem Stops.blanks {w s : List Char} (blank : ∀ c ∈ w, isSpace c = true) (stops : Stops s) :
    Stops (w ++ s) := by
  cases w with
  | nil => exact stops
  | cons c w => exact stops_cons (isSpace_ends (blank c List.mem_cons_self))

section Texts

variable {tokens : List Token} {s : List Char} {layout : Layout} {items : List Json}
  {fields : List (String × Json)}

theorem Laid.blanks {w : List Char} (blank : ∀ c ∈ w, isSpace c = true) (laid : Laid tokens s) :
    Laid tokens (w ++ s) := by
  induction w with
  | nil => exact laid
  | cons c w ih =>
    rw [List.forall_mem_cons] at blank
    exact .blank blank.1 (ih blank.2)

/-- A punctuation mark before a text. -/
theorem Laid.mark {t : Token} {c : Char} (sign : t.text = [c]) (plain : t.Plain)
    (ends : t.EndsBefore s) (laid : Laid tokens s) : Laid (t :: tokens) (c :: s) := by
  have whole := Laid.token plain ends laid
  rwa [sign] at whole

/-- The text of a value lays out its tokens before those of any text behind it. -/
def LaysOut (layout : Layout) (v : Json) : Prop :=
  ∀ depth tokens s, Laid tokens s → Stops s →
    Laid (v.tokens ++ tokens) (valueText layout depth v ++ s)

theorem itemsText_stops (blank : layout.Blank) (depth : Nat) (items : List Json) (s : List Char) :
    Stops (itemsText layout depth items ++ s) := by
  cases items with
  | nil =>
    rw [itemsText, List.append_assoc]
    exact .blanks (blank.line depth) (stops_cons (by decide))
  | cons => exact stops_cons (by decide)

theorem fieldsText_stops (blank : layout.Blank) (depth : Nat) (fields : List (String × Json))
    (s : List Char) : Stops (fieldsText layout depth fields ++ s) := by
  cases fields with
  | nil =>
    rw [fieldsText, List.append_assoc]
    exact .blanks (blank.line depth) (stops_cons (by decide))
  | cons => exact stops_cons (by decide)

/-- A name, its colon and a value before the other fields. -/
theorem field_laid (blank : layout.Blank) {v : Json} (laysOut : LaysOut layout v) (name : String)
    (depth : Nat) (laid : Laid tokens s) (stops : Stops s) :
    Laid (.str name.toList :: .colon :: (v.tokens ++ tokens))
      (stringText name.toList ++ ':' :: (layout.afterColon ++ (valueText layout depth v ++ s))) :=
  .token trivial trivial
    (.mark rfl trivial trivial (.blanks blank.afterColon (laysOut depth tokens s laid stops)))

theorem itemsText_laid (blank : layout.Blank) (each : ∀ v ∈ items, LaysOut layout v) (depth : Nat)
    (laid : Laid tokens s) : Laid (itemTokens items ++ tokens) (itemsText layout depth items ++ s) := by
  induction items with
  | nil =>
    rw [itemsText, List.append_assoc]
    exact .blanks (blank.line depth) (.mark rfl trivial trivial laid)
  | cons v items ih =>
    rw [List.forall_mem_cons] at each
    simp only [itemTokens, itemsText, List.cons_append, List.append_assoc]
    exact .mark rfl trivial trivial (.blanks (blank.line (depth + 1))
      (each.1 _ _ _ (ih each.2) (itemsText_stops blank depth items s)))

theorem fieldsText_laid (blank : layout.Blank) (each : ∀ field ∈ fields, LaysOut layout field.2)
    (depth : Nat) (laid : Laid tokens s) :
    Laid (fieldTokens fields ++ tokens) (fieldsText layout depth fields ++ s) := by
  induction fields with
  | nil =>
    rw [fieldsText, List.append_assoc]
    exact .blanks (blank.line depth) (.mark rfl trivial trivial laid)
  | cons field fields ih =>
    rw [List.forall_mem_cons] at each
    simp only [fieldTokens, fieldsText, List.cons_append, List.append_assoc]
    exact .mark rfl trivial trivial (.blanks (blank.line (depth + 1))
      (field_laid blank each.1 field.1 _ (ih each.2) (fieldsText_stops blank depth fields s)))

/-- **The text of a plain value lays out its tokens**, in every layout of blanks. -/
theorem Plain.laysOut (blank : layout.Blank) {v : Json} (plain : v.Plain) : LaysOut layout v := by
  induction plain with
  | null => exact fun _ _ _ laid stops => .token trivial (fun c first => (stops c first).2) laid
  | bool value => exact fun _ _ _ laid stops => .token trivial (fun c first => (stops c first).2) laid
  | int small => exact fun _ _ _ laid stops => .token small (fun c first => (stops c first).1) laid
  | str text => exact fun _ _ _ laid _ => .token trivial trivial laid
  | @arr items _ each =>
    intro depth tokens s laid _
    cases items with
    | nil => exact .mark rfl trivial trivial (.mark rfl trivial trivial laid)
    | cons v items =>
      rw [List.forall_mem_cons] at each
      simp only [Json.tokens, valueText, List.cons_append, List.append_assoc]
      exact .mark rfl trivial trivial (.blanks (blank.line (depth + 1))
        (each.1 _ _ _ (itemsText_laid blank each.2 depth laid) (itemsText_stops blank depth items s)))
  | @obj fields _ each =>
    intro depth tokens s laid _
    cases fields with
    | nil => exact .mark rfl trivial trivial (.mark rfl trivial trivial laid)
    | cons field fields =>
      rw [List.forall_mem_cons] at each
      simp only [Json.tokens, valueText, List.cons_append, List.append_assoc]
      exact .mark rfl trivial trivial (.blanks (blank.line (depth + 1))
        (field_laid blank each.1 field.1 _ (fieldsText_laid blank each.2 depth laid)
          (fieldsText_stops blank depth fields s)))

theorem Plain.lex_valueText (blank : layout.Blank) {v : Json} (plain : v.Plain) :
    lex (valueText layout 0 v) = some v.tokens := by
  have laid := plain.laysOut blank 0 [] [] .nil nofun
  rw [List.append_nil, List.append_nil] at laid
  exact laid.lex_eq

end Texts

/-! ### Reading the tokens -/

/-- The tokens take the reader from one state to another. -/
def Leads (tokens : List Token) (before after : Reading) : Prop :=
  tokens.foldlM Reading.next before = some after

section Reading

variable {tokens more : List Token} {before middle after : Reading} {t : Token}
  {stack : List Frame} {v : Json}

theorem Leads.cons (step : before.next t = some middle) (leads : Leads tokens middle after) :
    Leads (t :: tokens) before after := by
  rw [Leads, List.foldlM_cons, step]
  exact leads

theorem Leads.append (first : Leads tokens before middle) (second : Leads more middle after) :
    Leads (tokens ++ more) before after := by
  rw [Leads, List.foldlM_append, first]
  exact second

/-- The first token of a value does not close an array. -/
theorem exists_tokens_cons (v : Json) : ∃ t more, v.tokens = t :: more ∧ t ≠ .closeArray := by
  cases v with
  | arr items => cases items <;> exact ⟨_, _, rfl, nofun⟩
  | obj fields => cases fields <;> exact ⟨_, _, rfl, nofun⟩
  | _ => exact ⟨_, _, rfl, nofun⟩

/-- Where a first item may stand, it is read as a value. -/
theorem Leads.firstItem (leads : Leads v.tokens ⟨.value, stack⟩ after) :
    Leads v.tokens ⟨.firstItem, stack⟩ after := by
  obtain ⟨t, more, split, goesOn⟩ := exists_tokens_cons v
  have same : Reading.next ⟨.firstItem, stack⟩ t = Reading.next ⟨.value, stack⟩ t := by
    unfold Reading.next
    split <;> simp_all
  rw [split] at leads ⊢
  rwa [Leads, List.foldlM_cons, same]

theorem isShallow_of_lt (shallow : stack.length < nestingLimit) : isShallow stack = true := by
  rw [isShallow, List.isEmpty_iff, List.drop_eq_nil_iff]
  exact Nat.le_sub_one_of_lt shallow

theorem closeArray_eq {items : List Json} (shallow : stack.length < nestingLimit) :
    closeArray stack items = .arr items.reverse := by
  rw [closeArray, if_pos (isShallow_of_lt shallow)]

/-- A field as the reader keeps it. -/
def RawField.of (field : String × Json) : RawField :=
  (some field.1, field.2)

theorem closeObject_eq {fields : List (String × Json)} (shallow : stack.length < nestingLimit) :
    closeObject stack (fields.map RawField.of) = .obj fields.reverse := by
  have named : (fields.reverse.map RawField.of).mapM RawField.named? = some fields.reverse :=
    Text.mapM_map_of_inverse fun _ _ => rfl
  rw [closeObject, ← List.map_reverse, named]
  dsimp only
  rw [if_pos (isShallow_of_lt shallow)]

/-- The tokens of the value lead to it, wherever there is room for its depth. -/
def ReadBack (v : Json) : Prop :=
  ∀ stack : List Frame, stack.length + v.depth ≤ nestingLimit →
    Leads v.tokens ⟨.value, stack⟩ ⟨.done v, stack⟩

/-- The items of an array, after those that were read before. -/
theorem itemTokens_leads {items : List Json} (each : ∀ w ∈ items, ReadBack w)
    (fits : stack.length + (depthOfItems items + 1) ≤ nestingLimit) (earlier : List Json) (v : Json) :
    Leads (itemTokens items) ⟨.done v, .array earlier :: stack⟩
      ⟨.done (.arr (earlier.reverse ++ v :: items)), stack⟩ := by
  induction items generalizing earlier v with
  | nil =>
    have closed : closeArray stack (v :: earlier) = .arr (earlier.reverse ++ [v]) := by
      rw [closeArray_eq (by omega), List.reverse_cons]
    refine .cons rfl ?_
    rw [closed]
    rfl
  | cons w items ih =>
    rw [List.forall_mem_cons] at each
    rw [depthOfItems] at fits
    have first := each.1 (.array (v :: earlier) :: stack) (by rw [List.length_cons]; omega)
    have others := ih each.2 (by omega) (v :: earlier) w
    rw [List.reverse_cons, List.append_assoc] at others
    exact .cons rfl (first.append others)

/-- A name, its colon and a value, where a field may stand. -/
theorem field_leads {phase : Phase} (opens : phase = .firstField ∨ phase = .name)
    (readBack : ReadBack v) (fits : stack.length + 1 + v.depth ≤ nestingLimit)
    (earlier : List RawField) (name : String) :
    Leads (.str name.toList :: .colon :: v.tokens) ⟨phase, .object earlier :: stack⟩
      ⟨.done v, .field earlier (some name) :: stack⟩ := by
  have named : Reading.next ⟨phase, .object earlier :: stack⟩ (.str name.toList) =
      some ⟨.colon (some name), .object earlier :: stack⟩ := by
    rcases opens with rfl | rfl <;> simp [Reading.next, startField, Token.name?]
  exact .cons named (.cons rfl (readBack (.field earlier (some name) :: stack) fits))

/-- The fields of an object, after those that were read before. -/
theorem fieldTokens_leads {fields : List (String × Json)} (each : ∀ field ∈ fields, ReadBack field.2)
    (fits : stack.length + (depthOfFields fields + 1) ≤ nestingLimit)
    (earlier : List (String × Json)) (name : String) (v : Json) :
    Leads (fieldTokens fields) ⟨.done v, .field (earlier.map RawField.of) (some name) :: stack⟩
      ⟨.done (.obj (earlier.reverse ++ (name, v) :: fields)), stack⟩ := by
  induction fields generalizing earlier name v with
  | nil =>
    have closed : closeObject stack (((name, v) :: earlier).map RawField.of) =
        .obj (earlier.reverse ++ [(name, v)]) := by
      rw [closeObject_eq (by omega), List.reverse_cons]
    refine .cons rfl ?_
    rw [← closed]
    rfl
  | cons field fields ih =>
    obtain ⟨next, w⟩ := field
    rw [List.forall_mem_cons] at each
    rw [depthOfFields] at fits
    have room : stack.length + 1 + w.depth ≤ nestingLimit := by omega
    have first := field_leads (.inr rfl) each.1 room (((name, v) :: earlier).map RawField.of) next
    have others := ih each.2 (by omega) ((name, v) :: earlier) next w
    rw [List.reverse_cons, List.append_assoc] at others
    exact .cons rfl (first.append others)

/-- **The tokens of a plain value lead to it.** -/
theorem Plain.readBack (plain : v.Plain) : ReadBack v := by
  induction plain with
  | null => exact fun _ _ => rfl
  | bool value => exact fun _ _ => rfl
  | int small => exact fun _ _ => rfl
  | str text => exact fun _ _ => by simp [Leads, tokens, Reading.next, startValue, Token.scalar?]
  | @arr items _ each =>
    intro stack fits
    rw [depth] at fits
    have shallow : stack.length < nestingLimit := by omega
    cases items with
    | nil =>
      have closed : closeArray stack [] = .arr [] := closeArray_eq shallow
      refine .cons rfl (.cons rfl ?_)
      rw [closed]
      rfl
    | cons v items =>
      rw [List.forall_mem_cons] at each
      rw [depthOfItems] at fits
      have first := each.1 (.array [] :: stack) (by rw [List.length_cons]; omega)
      have room : stack.length + (depthOfItems items + 1) ≤ nestingLimit := by omega
      have others := itemTokens_leads each.2 room [] v
      exact .cons rfl (first.firstItem.append others)
  | @obj fields _ each =>
    intro stack fits
    rw [depth] at fits
    have shallow : stack.length < nestingLimit := by omega
    cases fields with
    | nil =>
      have closed : closeObject stack ([].map RawField.of) = .obj [] := closeObject_eq shallow
      refine .cons rfl (.cons rfl ?_)
      rw [← closed]
      rfl
    | cons field fields =>
      obtain ⟨name, v⟩ := field
      rw [List.forall_mem_cons] at each
      rw [depthOfFields] at fits
      have roomForValue : stack.length + 1 + v.depth ≤ nestingLimit := by omega
      have roomForOthers : stack.length + (depthOfFields fields + 1) ≤ nestingLimit := by omega
      have first := field_leads (.inl rfl) each.1 roomForValue [] name
      have others := fieldTokens_leads each.2 roomForOthers [] name v
      exact .cons rfl (first.append others)

end Reading

/-! ### Whole texts -/

theorem parse_valueText {layout : Layout} (blank : layout.Blank) {v : Json} (plain : v.Plain)
    (fits : v.depth ≤ nestingLimit) : parse (String.ofList (valueText layout 0 v)) = some v := by
  have leads := plain.readBack [] (by rwa [List.length_nil, Nat.zero_add])
  rw [Leads] at leads
  rw [parse, String.toList_ofList, plain.lex_valueText blank]
  show ofTokens? v.tokens = _
  rw [ofTokens?, leads]
  rfl

/-- **A plain value is read back from its text without blanks.** -/
theorem parse_compact {v : Json} (plain : v.Plain) (fits : v.depth ≤ nestingLimit) :
    parse v.compact = some v :=
  parse_valueText Layout.blank_compact plain fits

/-- **A plain value is read back from its text in lines.** -/
theorem parse_pretty {v : Json} (plain : v.Plain) (fits : v.depth ≤ nestingLimit) :
    parse v.pretty = some v :=
  parse_valueText Layout.blank_pretty plain fits

end RuleQuery.Json
