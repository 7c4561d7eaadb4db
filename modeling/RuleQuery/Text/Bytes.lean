/-!
**Places in a text counted in bytes of UTF-8.**
-/

namespace RuleQuery.Text

/-- The number of bytes that the characters take in UTF-8. -/
def byteCount : List Char → Nat
  | [] => 0
  | c :: rest => c.utf8Size + byteCount rest

theorem byteCount_append (xs ys : List Char) :
    byteCount (xs ++ ys) = byteCount xs + byteCount ys := by
  induction xs with
  | nil => rw [List.nil_append, byteCount, Nat.zero_add]
  | cons c xs ih => rw [List.cons_append, byteCount, ih, byteCount, Nat.add_assoc]

theorem byteCount_pos {s : List Char} (some : s ≠ []) : 0 < byteCount s := by
  cases s with
  | nil => exact absurd rfl some
  | cons c s => exact Nat.add_pos_left c.utf8Size_pos _

/-- The characters that end within a number of bytes. -/
def takeBytes : Nat → List Char → List Char
  | _, [] => []
  | count, c :: rest =>
    if c.utf8Size ≤ count then c :: takeBytes (count - c.utf8Size) rest else []

/-- The characters that start after a number of bytes. -/
def dropBytes : Nat → List Char → List Char
  | _, [] => []
  | count, c :: rest => if count = 0 then c :: rest else dropBytes (count - c.utf8Size) rest

end RuleQuery.Text
