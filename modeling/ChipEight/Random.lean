/-! # Random bytes

A key of eight words fixes an endless stream of bytes, the key stream of the ChaCha cipher with
twelve rounds: block `k` of the stream is the cipher's block at position `k`, which is sixteen
words, and each byte of the stream is the low byte of one word. A key may be anything; a seed, which
is shorter, is stretched into one by a permuted congruential generator.

* `Random.Key.ofSeed seed`: the key that a seed stands for;
* `Random.stream key k`: byte `k` of the stream;
* `RandomSource`: a stream and how much of it has been drawn. -/

namespace ChipEight

namespace Random

/-! ### Keys -/

/-- What fixes a stream. -/
structure Key where
  words : Vector UInt32 8
deriving DecidableEq

/-- One step of the linear congruential generator that stretches a seed. -/
def advanceSeed (state : UInt64) : UInt64 :=
  state * 6364136223846793005 + 11634580027462260723

/-- Rotate a word to the left. Distances count modulo 32. -/
def rotateLeft (w k : UInt32) : UInt32 := (w <<< k) ||| (w >>> (32 - k))

/-- The word that a state of the generator gives: its high bits folded onto themselves, and rotated
to the right by its topmost five bits. -/
def permute (state : UInt64) : UInt32 :=
  let folded : UInt64 := ((state >>> 18) ^^^ state) >>> 27
  let distance : UInt64 := state >>> 59
  rotateLeft folded.toUInt32 (32 - distance.toUInt32)

/-- The key that a seed stands for: the words that the first eight steps of the generator give. -/
def Key.ofSeed (seed : UInt64) : Key :=
  ⟨Vector.ofFn fun i => permute (Nat.repeat advanceSeed (i + 1) seed)⟩

/-- A seed may be named in place of its key. -/
instance : Coe UInt64 Key := ⟨Key.ofSeed⟩

/-- A numeral names a seed. -/
instance (n : Nat) : OfNat Key n := ⟨Key.ofSeed (OfNat.ofNat n)⟩

/-! ### The cipher -/

/-- The sixteen words that a block is made of. -/
abbrev Block := Vector UInt32 16

/-- Mix four words of a block. -/
def quarterRound (b : Block) (i j k l : Fin 16) : Block :=
  let mix (b : Block) (i j l : Fin 16) (distance : UInt32) : Block :=
    let b := b.set i (b[i] + b[j])
    b.set l (rotateLeft (b[l] ^^^ b[i]) distance)
  let b := mix b i j l 16
  let b := mix b k l j 12
  let b := mix b i j l 8
  mix b k l j 7

/-- Mix the four columns and then the four diagonals of a block. -/
def doubleRound (b : Block) : Block :=
  let b := quarterRound b 0 4 8 12
  let b := quarterRound b 1 5 9 13
  let b := quarterRound b 2 6 10 14
  let b := quarterRound b 3 7 11 15
  let b := quarterRound b 0 5 10 15
  let b := quarterRound b 1 6 11 12
  let b := quarterRound b 2 7 8 13
  quarterRound b 3 4 9 14

/-- The block before mixing: four constants, the key, and the block's position. -/
def initialBlock (key : Key) (position : Nat) : Block :=
  let words : List UInt32 :=
    [0x61707865, 0x3320646e, 0x79622d32, 0x6b206574] ++ key.words.toList ++
      [UInt32.ofNat position, UInt32.ofNat (position / UInt32.size), 0, 0]
  Vector.ofFn fun i => words[i.val]?.getD 0

/-- The block of the stream at a position: twelve rounds, then the initial words added on. -/
def block (key : Key) (position : Nat) : Block :=
  let start := initialBlock key position
  Vector.zipWith (· + ·) (Nat.repeat doubleRound 6 start) start

/-- Byte `k` of the stream that a key fixes. -/
def stream (key : Key) (k : Nat) : UInt8 :=
  ((block key (k / 16))[Fin.ofNat 16 k]).toUInt8

end Random

/-- A stream of random bytes, and how many have been drawn from it. -/
structure RandomSource where
  /-- The key that fixes the stream. -/
  key : Random.Key
  /-- How many bytes have been drawn. -/
  drawn : Nat
deriving DecidableEq

namespace RandomSource

/-- A stream from which nothing has been drawn. -/
def ofKey (key : Random.Key) : RandomSource := ⟨key, 0⟩

/-- The byte that is drawn next. -/
def next (r : RandomSource) : UInt8 := Random.stream r.key r.drawn

/-- The source after one byte has been drawn. -/
def advance (r : RandomSource) : RandomSource := ⟨r.key, r.drawn + 1⟩

end RandomSource

end ChipEight
