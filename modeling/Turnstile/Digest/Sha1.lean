/-!
# SHA-1

The digest of a list of bytes, over 32-bit words: the message is padded to blocks
of 64 bytes, each block is stretched to 80 words, and 80 rounds mix them into five
words of state.
-/

set_option autoImplicit false

namespace Turnstile.Digest

/-- Rotate a word to the left. -/
def rotate (x : UInt32) (n : UInt32) : UInt32 := (x <<< n) ||| (x >>> (32 - n))

/-- The bytes of a number, most significant first. -/
def bigEndian (width n : Nat) : List UInt8 :=
  (List.range width).reverse.map fun i => (n / Nat.pow 256 i % 256).toUInt8

/-- The message followed by a one bit, zeros and its length in bits. -/
def padded (message : List UInt8) : List UInt8 :=
  let zeros := (119 - message.length % 64) % 64
  message ++ 0x80 :: List.replicate zeros 0 ++ bigEndian 8 (8 * message.length)

/-- The 32-bit words of a list of bytes; bytes that make no whole word are dropped. -/
def wordsOf : List UInt8 → List UInt32
  | a :: b :: c :: d :: rest =>
    ((a.toUInt32 <<< 24) ||| (b.toUInt32 <<< 16) ||| (c.toUInt32 <<< 8) ||| d.toUInt32) ::
      wordsOf rest
  | _ => []

/-- Cut a list of words into blocks of sixteen. -/
def blocksOf : Nat → List UInt32 → List (List UInt32)
  | 0, _ => []
  | n + 1, words => words.take 16 :: blocksOf n (words.drop 16)

/-- Stretch a block: `recent` holds the last sixteen words, the newest first. -/
def stretch : Nat → List UInt32 → List UInt32
  | 0, _ => []
  | n + 1, recent =>
    let word := rotate
      (recent.getD 2 0 ^^^ recent.getD 7 0 ^^^ recent.getD 13 0 ^^^ recent.getD 15 0) 1
    word :: stretch n (word :: recent.take 15)

/-- The five words of state. -/
structure State where
  a : UInt32
  b : UInt32
  c : UInt32
  d : UInt32
  e : UInt32

/-- The state before the first block. -/
def State.initial : State := ⟨0x67452301, 0xefcdab89, 0x98badcfe, 0x10325476, 0xc3d2e1f0⟩

/-- The mixing function and the constant of a round. -/
def State.mix (s : State) (round : Nat) : UInt32 × UInt32 :=
  if round < 20 then ((s.b &&& s.c) ||| (~~~s.b &&& s.d), 0x5a827999)
  else if round < 40 then (s.b ^^^ s.c ^^^ s.d, 0x6ed9eba1)
  else if round < 60 then ((s.b &&& s.c) ||| (s.b &&& s.d) ||| (s.c &&& s.d), 0x8f1bbcdc)
  else (s.b ^^^ s.c ^^^ s.d, 0xca62c1d6)

/-- One round with one word. -/
def State.step (s : State) (round : Nat) (word : UInt32) : State :=
  let (f, k) := s.mix round
  ⟨rotate s.a 5 + f + s.e + k + word, s.a, rotate s.b 30, s.c, s.d⟩

/-- All rounds of a block. -/
def State.rounds (s : State) (round : Nat) : List UInt32 → State
  | [] => s
  | word :: rest => (s.step round word).rounds (round + 1) rest

/-- Take in a block. -/
def State.absorb (s : State) (block : List UInt32) : State :=
  let t := s.rounds 0 (block ++ stretch 64 block.reverse)
  ⟨s.a + t.a, s.b + t.b, s.c + t.c, s.d + t.d, s.e + t.e⟩

/-- The SHA-1 digest: twenty bytes. -/
def sha1 (message : List UInt8) : List UInt8 :=
  let words := wordsOf (padded message)
  let s := (blocksOf (words.length / 16) words).foldl State.absorb State.initial
  [s.a, s.b, s.c, s.d, s.e].flatMap fun w => bigEndian 4 w.toNat

end Turnstile.Digest
