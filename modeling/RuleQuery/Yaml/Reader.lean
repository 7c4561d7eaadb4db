import RuleQuery.Yaml.Node
import RuleQuery.Yaml.Scalar

/-!
**Reading a YAML document.**

A mapping is a block of keys in one column, each with a value after it in the same line or deeper in
the lines below, or it stands between braces; a sequence is a block of items after hyphens, or stands
between brackets. A key and its colon stand in one line and no further apart than `keyLimit` bytes. A
comment starts at a number sign and ends with its line. A tab may not stand where a key or an item of
a block may start. A byte-order mark that starts a line between the parts is passed over, but it takes
the first column. A text is read only as a single document. Anchors, tags, directives, block scalars
and keys after question marks are not read.
-/

namespace RuleQuery.Yaml

/-! ### Between the parts -/

/-- Where the reader stands. -/
structure Cursor where
  /-- A key or an item of a block may start here. -/
  fresh : Bool
  /-- What is left of the text. -/
  rest : List Mark

/-- **The cursor behind blanks, line breaks, comments and byte-order marks**, from a cursor outside or
inside brackets, outside or inside a comment. A line break outside brackets lets a key start. -/
def skip (inside fresh comment : Bool) : List Mark → Cursor
  | [] => ⟨fresh, []⟩
  | m :: rest =>
    if isBreak m.char then skip inside (fresh || !inside) false rest
    else if comment ∨ m.char = '#' then skip inside fresh true rest
    else if m.char = ' ' ∨ (m.char = '\t' ∧ (inside ∨ !fresh)) ∨ m.isByteOrder then
      skip inside fresh false rest
    else ⟨fresh, m :: rest⟩

/-- The most bytes between the start of a key and its colon. -/
def keyLimit : Nat := 1024

/-- What follows the colon after a key that starts at a mark. -/
def afterColon? (inside : Bool) (start : Mark) (cursor : Cursor) : Option (List Mark) :=
  match cursor.rest with
  | m :: rest =>
    if m.char = ':' ∧ (inside ∨ endsWord rest) ∧ m.line = start.line ∧
        m.offset ≤ start.offset + keyLimit then some rest
    else none
  | [] => none

/-- The hyphen before an item of a block stands here. -/
def startsItem : List Mark → Bool
  | m :: rest => m.char = '-' ∧ endsWord rest
  | [] => false

/-! ### Scalars and collections in brackets -/

/-- A scalar from a column on, and the cursor behind it. -/
def scalarNode (inside : Bool) (least : Nat) : List Mark → Option (Yaml × Cursor)
  | [] => none
  | m :: rest =>
    if m.char = '\'' then do
      let (text, after) ← scanSingle .empty rest
      return (.scalar (String.ofList text), skip inside false false after)
    else if m.char = '"' then do
      let (text, after) ← scanDouble .empty .none rest
      return (.scalar (String.ofList text), skip inside false false after)
    else if startsPlain inside (m :: rest) then do
      let (text, crosses, after) ← scanPlain inside least .empty (m :: rest)
      return (.scalar (String.ofList text), skip inside crosses false after)
    else none

mutual

/-- A scalar or a collection in brackets, outside or inside brackets. -/
def flowNode (inside : Bool) (least : Nat) : Nat → List Mark → Option (Yaml × Cursor)
  | 0, _ => none
  | _ + 1, [] => none
  | fuel + 1, m :: rest =>
    if isBoundary (m :: rest) then none
    else if m.char = '[' then do
      let (items, after) ← flowItems inside least fuel (skip true false false rest).rest
      return (.sequence items, after)
    else if m.char = '\x7b' then do
      let (entries, after) ← flowEntries inside least fuel (skip true false false rest).rest
      return (.mapping entries, after)
    else scalarNode inside least (m :: rest)

/-- The value after a colon inside brackets, which may be left out. -/
def flowValue (least : Nat) : Nat → List Mark → Option (Yaml × Cursor)
  | 0, _ => none
  | _ + 1, [] => none
  | fuel + 1, m :: rest =>
    if m.char = ',' ∨ m.char = ']' ∨ m.char = '\x7d' then some (.blank, ⟨false, m :: rest⟩)
    else flowNode true least fuel (m :: rest)

/-- A key inside brackets with its value, or a value alone. -/
def flowEntry (least : Nat) : Nat → List Mark → Option (Yaml × Option Yaml × Cursor)
  | 0, _ => none
  | _ + 1, [] => none
  | fuel + 1, m :: rest => do
    let (node, after) ← flowNode true least fuel (m :: rest)
    match afterColon? true m after with
    | some held =>
      let (value, last) ← flowValue least fuel (skip true false false held).rest
      return (node, some value, last)
    | none => return (node, none, after)

/-- The items up to the closing bracket, which stands outside or inside other brackets. An item may be
a single key with its value. -/
def flowItems (inside : Bool) (least : Nat) : Nat → List Mark → Option (List Yaml × Cursor)
  | 0, _ => none
  | _ + 1, [] => none
  | fuel + 1, m :: rest =>
    if m.char = ']' then some ([], skip inside false false rest)
    else do
      let (node, value, after) ← flowEntry least fuel (m :: rest)
      let item :=
        match value with
        | some value => .mapping [(node, value)]
        | none => node
      match after.rest with
      | n :: more =>
        if n.char = ',' then
          let (items, last) ← flowItems inside least fuel (skip true false false more).rest
          return (item :: items, last)
        else if n.char = ']' then return ([item], skip inside false false more)
        else failure
      | [] => failure

/-- The entries up to the closing brace, which stands outside or inside other brackets. A key may
stand without a value. -/
def flowEntries (inside : Bool) (least : Nat) :
    Nat → List Mark → Option (List (Yaml × Yaml) × Cursor)
  | 0, _ => none
  | _ + 1, [] => none
  | fuel + 1, m :: rest =>
    if m.char = '\x7d' then some ([], skip inside false false rest)
    else do
      let (node, value, after) ← flowEntry least fuel (m :: rest)
      let entry := (node, value.getD .blank)
      match after.rest with
      | n :: more =>
        if n.char = ',' then
          let (entries, last) ← flowEntries inside least fuel (skip true false false more).rest
          return (entry :: entries, last)
        else if n.char = '\x7d' then return ([entry], skip inside false false more)
        else failure
      | [] => failure

end

/-! ### Blocks -/

mutual

/-- **A value that stands from a column on.** Where no key or item may start, it is no block. -/
def blockNode (least : Nat) : Nat → Cursor → Option (Yaml × Cursor)
  | 0, _ => none
  | fuel + 1, cursor =>
    match cursor.rest with
    | [] => some (.blank, cursor)
    | m :: _ =>
      if m.column < least ∨ isBoundary cursor.rest then some (.blank, cursor)
      else if startsItem cursor.rest then
        if cursor.fresh then do
          let (items, after) ← blockItems m.column fuel cursor.rest
          return (.sequence items, after)
        else none
      else do
        let (node, after) ← flowNode false least (fuel + 1) cursor.rest
        match afterColon? false m after with
        | some held =>
          if cursor.fresh then
            let (entries, last) ← blockEntries m.column fuel node held
            return (.mapping entries, last)
          else failure
        | none => return (node, after)

/-- The items of a sequence from the hyphen of one on. The hyphens stand in a column. -/
def blockItems (column : Nat) : Nat → List Mark → Option (List Yaml × Cursor)
  | 0, _ => none
  | fuel + 1, marks => do
    let (item, after) ← blockNode (column + 1) fuel (skip false true false (marks.drop 1))
    match after.rest with
    | [] => return ([item], after)
    | m :: _ =>
      if !after.fresh ∨ column < m.column then failure
      else if m.column = column ∧ startsItem after.rest then
        let (items, last) ← blockItems column fuel after.rest
        return (item :: items, last)
      else return ([item], after)

/-- The entries of a mapping from what follows the colon of one on. The keys stand in a column. -/
def blockEntries (column : Nat) :
    Nat → Yaml → List Mark → Option (List (Yaml × Yaml) × Cursor)
  | 0, _, _ => none
  | fuel + 1, key, held => do
    let start := skip false false false held
    let (value, after) ←
      if start.fresh ∧ startsItem start.rest ∧ start.rest.head?.map Mark.column = some column then do
        let (items, after) ← blockItems column fuel start.rest
        pure (Yaml.sequence items, after)
      else blockNode (column + 1) fuel start
    match after.rest with
    | [] => return ([(key, value)], after)
    | m :: _ =>
      if !after.fresh ∨ column < m.column then failure
      else if m.column = column ∧ !isBoundary after.rest then
        let (next, later) ← flowNode false (column + 1) (fuel + 1) after.rest
        let (entries, last) ← blockEntries column fuel next (← afterColon? false m later)
        return ((key, value) :: entries, last)
      else return ([(key, value)], after)

end

/-! ### Documents -/

/-- The value of a document, which may start with three hyphens. -/
def document (fuel : Nat) (cursor : Cursor) : Option (Yaml × Cursor) :=
  if startsTriple '-' cursor.rest then
    blockNode 0 fuel (skip false false false (cursor.rest.drop 3))
  else if startsTriple '.' cursor.rest then none
  else blockNode 0 fuel cursor

/-- Nothing stands here but ends of documents. -/
def isEnd : Nat → List Mark → Bool
  | _, [] => true
  | 0, _ :: _ => false
  | fuel + 1, marks =>
    startsTriple '.' marks ∧ isEnd fuel (skip false false false (marks.drop 3)).rest

/-- **The value of the only document in a text.** -/
def parse (text : String) : Option Yaml := do
  guard (text.toList.all isAllowed)
  let placed := marks text.toList
  let fuel := 3 * placed.length + 3
  let (value, after) ← document fuel (skip false true false placed)
  guard (isEnd placed.length after.rest)
  return value

end RuleQuery.Yaml
