/-!
A seeded stream of 32-bit words.

The stream is ChaCha with twelve rounds, stream number zero and a 64-bit block counter, keyed by
an expansion of a 64-bit seed.  It is a function of the position of a word, so that a reader of
the stream carries a position and no generator state.
-/

namespace StoreBench.Keys

/-- The state of the seed expansion before its word number `index + 1`. -/
def expansionState (seed : UInt64) : Nat → UInt64
  | 0 => seed * 6364136223846793005 + 11634580027462260723
  | index + 1 => expansionState seed index * 6364136223846793005 + 11634580027462260723

def rotateRight (word amount : UInt32) : UInt32 :=
  (word >>> amount) ||| (word <<< (32 - amount))

def rotateLeft (word amount : UInt32) : UInt32 :=
  (word <<< amount) ||| (word >>> (32 - amount))

/-- Word `index` of the key: the state's high bits folded down and rotated by its top five. -/
def seedWord (seed : UInt64) (index : Nat) : UInt32 :=
  let state := expansionState seed index
  rotateRight (((state >>> 18) ^^^ state) >>> 27).toUInt32 (state >>> 59).toUInt32

abbrev Block := Vector UInt32 16

def quarterRound (a b c d : Fin 16) (block : Block) : Block :=
  let block := block.set a (block[a] + block[b])
  let block := block.set d (rotateLeft (block[d] ^^^ block[a]) 16)
  let block := block.set c (block[c] + block[d])
  let block := block.set b (rotateLeft (block[b] ^^^ block[c]) 12)
  let block := block.set a (block[a] + block[b])
  let block := block.set d (rotateLeft (block[d] ^^^ block[a]) 8)
  let block := block.set c (block[c] + block[d])
  block.set b (rotateLeft (block[b] ^^^ block[c]) 7)

def doubleRound (block : Block) : Block :=
  let block := quarterRound 0 4 8 12 block
  let block := quarterRound 1 5 9 13 block
  let block := quarterRound 2 6 10 14 block
  let block := quarterRound 3 7 11 15 block
  let block := quarterRound 0 5 10 15 block
  let block := quarterRound 1 6 11 12 block
  let block := quarterRound 2 7 8 13 block
  quarterRound 3 4 9 14 block

/-- The block before mixing: four constants, the key, the counter in two words, two zeros. -/
def initialBlock (seed : UInt64) (counter : Nat) : Block :=
  #v[0x61707865, 0x3320646E, 0x79622D32, 0x6B206574,
     seedWord seed 0, seedWord seed 1, seedWord seed 2, seedWord seed 3,
     seedWord seed 4, seedWord seed 5, seedWord seed 6, seedWord seed 7,
     UInt32.ofNat counter, UInt32.ofNat (counter / 0x100000000), 0, 0]

def repeated {α : Type} (f : α → α) : Nat → α → α
  | 0, value => value
  | count + 1, value => repeated f count (f value)

/-- Block `counter` of the stream: twelve rounds, added to the block they started from. -/
def streamBlock (seed : UInt64) (counter : Nat) : Block :=
  let start := initialBlock seed counter
  (repeated doubleRound 6 start).zipWith (· + ·) start

def streamWord (seed : UInt64) (position : Nat) : UInt32 :=
  (streamBlock seed (position / 16)).get ⟨position % 16, Nat.mod_lt _ (by decide)⟩

end StoreBench.Keys
