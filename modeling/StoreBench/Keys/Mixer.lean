import StoreBench.Pair
import StoreBench.Keys.Shape

/-!
From coordinates to keys and values.

A coordinate passes through a chain of bijections on `bits` bits: an offset, the substitution of
its low byte, and two rounds of an odd multiplication and a shifted exclusive or.  The first
symbols of the key spell the whole mixed number; the rest of the key, and the value, are filled
from a stream of remixed words that starts at it.
-/

namespace StoreBench.Keys

def multipliers : UInt64 × UInt64 := (0xBF58476D1CE4E5B9, 0x94D049BB133111EB)

def alphabet : Vector UInt8 64 :=
  #v[0x2D,
     0x30, 0x31, 0x32, 0x33, 0x34, 0x35, 0x36, 0x37, 0x38, 0x39,
     0x41, 0x42, 0x43, 0x44, 0x45, 0x46, 0x47, 0x48, 0x49, 0x4A, 0x4B, 0x4C, 0x4D,
     0x4E, 0x4F, 0x50, 0x51, 0x52, 0x53, 0x54, 0x55, 0x56, 0x57, 0x58, 0x59, 0x5A,
     0x5F,
     0x61, 0x62, 0x63, 0x64, 0x65, 0x66, 0x67, 0x68, 0x69, 0x6A, 0x6B, 0x6C, 0x6D,
     0x6E, 0x6F, 0x70, 0x71, 0x72, 0x73, 0x74, 0x75, 0x76, 0x77, 0x78, 0x79, 0x7A]

def remix (word : UInt64) : UInt64 :=
  let word := word + goldenFraction
  let word := (word ^^^ (word >>> 30)) * multipliers.1
  let word := (word ^^^ (word >>> 27)) * multipliers.2
  word ^^^ (word >>> 31)

namespace Shape

/-- The bijection on the numbers of `bits` bits. -/
def mix (shape : Shape) (point : UInt64) : UInt64 :=
  let mask := shape.mask
  let word := (point + goldenFraction) &&& mask
  let low := shape.substitution.get ⟨(word &&& 0xFF).toNat % 256, Nat.mod_lt _ (by decide)⟩
  let word := (word &&& ~~~0xFF) ||| low.toUInt64
  let word := (word * ((multipliers.1 &&& mask) ||| 1)) &&& mask
  let word := word ^^^ (word >>> UInt64.ofNat (shape.bits / 2))
  let word := (word * ((multipliers.2 &&& mask) ||| 1)) &&& mask
  word ^^^ (word >>> UInt64.ofNat (shape.bits / 2 - 3))

def symbol (shape : Shape) (word : UInt64) : UInt8 :=
  if shape.printable then alphabet.get ⟨word.toNat % 64, Nat.mod_lt _ (by decide)⟩
  else word.toUInt8

def spell (shape : Shape) (word : UInt64) : Nat → Bytes
  | 0 => []
  | count + 1 =>
    shape.symbol word :: shape.spell (word >>> UInt64.ofNat (symbolBits shape.printable)) count

def symbolsPerWord (shape : Shape) : Nat :=
  64 / symbolBits shape.printable

theorem symbolsPerWord_pos (shape : Shape) : 0 < shape.symbolsPerWord := by
  unfold symbolsPerWord symbolBits
  split <;> decide

/-- `count` symbols from the words after `word`, and the last word used. -/
def fill (shape : Shape) (word : UInt64) (count : Nat) : Bytes × UInt64 :=
  if count = 0 then ([], word)
  else
    let next := remix word
    let taken := min count shape.symbolsPerWord
    let (rest, last) := shape.fill next (count - taken)
    (shape.spell next taken ++ rest, last)
termination_by count
decreasing_by
  have positive := shape.symbolsPerWord_pos
  omega

/-- The key at a coordinate, and the word from which its values start. -/
def keyAt (shape : Shape) (point : Nat) : Bytes × UInt64 :=
  let mixed := shape.mix (UInt64.ofNat point)
  let head := symbolsFor shape.printable shape.bits
  let (tail, last) := shape.fill mixed (shape.keySize - head)
  (shape.spell mixed head ++ tail, last)

/-- The age salts the value and leaves the key alone. -/
def valueFrom (shape : Shape) (word age : UInt64) (size : Nat) : Bytes :=
  (shape.fill (word ^^^ age * goldenFraction) size).1

def pairAt (shape : Shape) (point size : Nat) (age : UInt64) : Pair :=
  let (key, word) := shape.keyAt point
  ⟨key, shape.valueFrom word age size⟩

end Shape

end StoreBench.Keys
