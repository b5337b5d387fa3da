import StoreBench.Error
import StoreBench.Keys.Shuffle

/-!
The shape of a finite key domain.

The domain has `spaces` key spaces of `period` keys each; a key's coordinate is
`space * period + serial`.  The shape fixes the number of bits in which every coordinate fits, the
alphabet, the length of the keys and the seeded substitution of bytes.
-/

namespace StoreBench.Keys

def goldenFraction : UInt64 := 0x9E3779B97F4A7C15

/-- The numbers of bits a mixed coordinate may have, in ascending order. -/
def widths : List Nat := [16, 24, 32, 40, 48, 56, 64]

structure Shape where
  printable : Bool
  keySize : Nat
  spaces : Nat
  sectors : Nat
  period : Nat
  bits : Nat
  substitution : Substitution
  deriving DecidableEq

/-- Bits spelled by one symbol of a key. -/
def symbolBits (printable : Bool) : Nat :=
  if printable then 6 else 8

def symbolsFor (printable : Bool) (bits : Nat) : Nat :=
  (bits + symbolBits printable - 1) / symbolBits printable

namespace Shape

/-- Fits the smallest width to `spaces` key spaces of `period` keys each.  `sectors` workers of
one category will split a key space, and each sector must hold at least one key. -/
def setup (printable : Bool) (keySize spaces sectors period : Nat) (seed : UInt64) :
    Except ConfigError Shape :=
  if period = 0 then .error .noKeys
  else if spaces = 0 then .error .noKeySpaces
  else if sectors = 0 || sectors > period then .error (.unsplittable period sectors)
  else
    let total := period * spaces
    match widths.find? (total ≤ Nat.pow 2 ·) with
    | none => .error (.domainTooLarge spaces period)
    | some bits =>
      let need := symbolsFor printable bits
      if keySize < need then .error (.keyTooShort keySize total printable need)
      else
        .ok { printable, keySize, spaces, sectors, period, bits
              substitution := shuffled (seed ^^^ UInt64.ofNat keySize * goldenFraction) }

def sectorLength (shape : Shape) : Nat :=
  shape.period / shape.sectors

def mask (shape : Shape) : UInt64 :=
  UInt64.ofNat (Nat.pow 2 shape.bits - 1)

end Shape

end StoreBench.Keys
