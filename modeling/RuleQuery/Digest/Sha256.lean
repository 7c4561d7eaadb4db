/-!
**The SHA-256 digest of a text.**

The bytes of the text in UTF-8 are padded to whole blocks of 64 bytes: a bit that is set, zeros, and
the number of bits of the text in 64 bits. Each block is mixed into a chain of eight words by 64
rounds. A round reads one word of the schedule, which starts with the words of the block and then
goes on from the sixteen words before. The digest is the chain after the last block, written in
hexadecimal.
-/

namespace RuleQuery.Digest

/-! ### Words -/

/-- The word turned to the right by a number of bits below 32. -/
def rotateRight (word : UInt32) (bits : UInt32) : UInt32 :=
  (word >>> bits) ||| (word <<< (32 - bits))

/-- The word with its first byte on top. -/
def wordOfBytes (bytes : List UInt8) : UInt32 :=
  bytes.foldl (fun word byte => (word <<< 8) ||| byte.toUInt32) 0

/-- The parts of a list that hold a number of items each; the last one may hold fewer. -/
def chunks {α : Type} (size : Nat) (items : List α) : List (List α) :=
  if h : size = 0 ∨ items = [] then []
  else items.take size :: chunks size (items.drop size)
termination_by items.length
decreasing_by
  have : items.length ≠ 0 := fun empty => h (Or.inr (List.length_eq_zero_iff.mp empty))
  simp only [List.length_drop]
  omega

/-! ### The constants -/

/-- The fractional parts of the cube roots of the first 64 primes. -/
def roundConstants : List UInt32 :=
  [ 0x428a2f98, 0x71374491, 0xb5c0fbcf, 0xe9b5dba5, 0x3956c25b, 0x59f111f1, 0x923f82a4, 0xab1c5ed5,
    0xd807aa98, 0x12835b01, 0x243185be, 0x550c7dc3, 0x72be5d74, 0x80deb1fe, 0x9bdc06a7, 0xc19bf174,
    0xe49b69c1, 0xefbe4786, 0x0fc19dc6, 0x240ca1cc, 0x2de92c6f, 0x4a7484aa, 0x5cb0a9dc, 0x76f988da,
    0x983e5152, 0xa831c66d, 0xb00327c8, 0xbf597fc7, 0xc6e00bf3, 0xd5a79147, 0x06ca6351, 0x14292967,
    0x27b70a85, 0x2e1b2138, 0x4d2c6dfc, 0x53380d13, 0x650a7354, 0x766a0abb, 0x81c2c92e, 0x92722c85,
    0xa2bfe8a1, 0xa81a664b, 0xc24b8b70, 0xc76c51a3, 0xd192e819, 0xd6990624, 0xf40e3585, 0x106aa070,
    0x19a4c116, 0x1e376c08, 0x2748774c, 0x34b0bcb5, 0x391c0cb3, 0x4ed8aa4a, 0x5b9cca4f, 0x682e6ff3,
    0x748f82ee, 0x78a5636f, 0x84c87814, 0x8cc70208, 0x90befffa, 0xa4506ceb, 0xbef9a3f7, 0xc67178f2 ]

/-- Eight words, in the order of their letters. -/
structure Chain where
  /-- The first word. -/
  a : UInt32
  /-- The second word. -/
  b : UInt32
  /-- The third word. -/
  c : UInt32
  /-- The fourth word. -/
  d : UInt32
  /-- The fifth word. -/
  e : UInt32
  /-- The sixth word. -/
  f : UInt32
  /-- The seventh word. -/
  g : UInt32
  /-- The eighth word. -/
  h : UInt32
deriving DecidableEq, Repr

/-- The fractional parts of the square roots of the first eight primes. -/
def Chain.initial : Chain :=
  ⟨0x6a09e667, 0xbb67ae85, 0x3c6ef372, 0xa54ff53a, 0x510e527f, 0x9b05688c, 0x1f83d9ab, 0x5be0cd19⟩

/-- The sums of the words of two chains. -/
def Chain.add (x y : Chain) : Chain :=
  ⟨x.a + y.a, x.b + y.b, x.c + y.c, x.d + y.d, x.e + y.e, x.f + y.f, x.g + y.g, x.h + y.h⟩

/-- The words of a chain. -/
def Chain.words (x : Chain) : List UInt32 :=
  [x.a, x.b, x.c, x.d, x.e, x.f, x.g, x.h]

/-! ### Rounds and blocks -/

/-- The word of the schedule after sixteen words. -/
def nextWord (window : List UInt32) : UInt32 :=
  let early := window.getD 1 0
  let late := window.getD 14 0
  window.getD 0 0 + (rotateRight early 7 ^^^ rotateRight early 18 ^^^ (early >>> 3)) +
    window.getD 9 0 + (rotateRight late 17 ^^^ rotateRight late 19 ^^^ (late >>> 10))

/-- One round with a word of the schedule and a constant. -/
def Chain.round (x : Chain) (word constant : UInt32) : Chain :=
  let choice := (x.e &&& x.f) ^^^ ((~~~x.e) &&& x.g)
  let majority := (x.a &&& x.b) ^^^ (x.a &&& x.c) ^^^ (x.b &&& x.c)
  let first := x.h + (rotateRight x.e 6 ^^^ rotateRight x.e 11 ^^^ rotateRight x.e 25) + choice +
    constant + word
  let second := (rotateRight x.a 2 ^^^ rotateRight x.a 13 ^^^ rotateRight x.a 22) + majority
  ⟨first + second, x.a, x.b, x.c, x.d + first, x.e, x.f, x.g⟩

/-- The rounds with the constants, starting from sixteen words of the schedule. -/
def Chain.rounds (x : Chain) (window : List UInt32) : List UInt32 → Chain
  | [] => x
  | constant :: rest =>
    (x.round (window.getD 0 0) constant).rounds (window.tail ++ [nextWord window]) rest

/-- **A block mixed into a chain.** -/
def Chain.absorb (x : Chain) (block : List UInt8) : Chain :=
  x.add (x.rounds ((chunks 4 block).map wordOfBytes) roundConstants)

/-! ### Whole texts -/

/-- The eight bytes of a number below 2^64, from the top. -/
def lengthBytes (bits : Nat) : List UInt8 :=
  [56, 48, 40, 32, 24, 16, 8, 0].map fun shift => (bits >>> shift).toUInt8

/-- The bytes with their padding. -/
def padded (bytes : List UInt8) : List UInt8 :=
  bytes ++ 0x80 :: List.replicate ((119 - bytes.length % 64) % 64) 0 ++
    lengthBytes (8 * bytes.length)

/-- The eight hexadecimal digits of a word. -/
def hexadecimal (word : UInt32) : List Char :=
  [28, 24, 20, 16, 12, 8, 4, 0].map fun shift => Nat.digitChar ((word.toNat >>> shift) % 16)

/-- **The digest of bytes.** -/
def ofBytes (bytes : List UInt8) : Chain :=
  (chunks 64 (padded bytes)).foldl Chain.absorb Chain.initial

/-- **The digest of a text in hexadecimal.** -/
def sha256 (text : String) : String :=
  String.ofList ((ofBytes text.toUTF8.toList).words.flatMap hexadecimal)

end RuleQuery.Digest
