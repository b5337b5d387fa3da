import StoreBench.Keys.Stream

/-!
The seeded shuffle of the 256 byte values.

Position `i` is exchanged with a position at most `i`, for `i` from zero on.  Several exchange
positions are taken from one draw: a number below `m * (m + 1) * … * (m + k - 1)` is split by
division into `k` numbers, one below each factor.
-/

namespace StoreBench.Keys

/-- A number below `bound` from the stream, and the position after the words it took.  The high
half of a product with the bound is nearly uniform; where the low half shows a bias, one more word
decides whether it carries. -/
def drawBelow (seed : UInt64) (bound position : Nat) : Nat × Nat :=
  let product := (streamWord seed position).toNat * bound
  let high := product / 0x100000000
  let low := product % 0x100000000
  if (0x100000000 - bound) % 0x100000000 < low then
    let more := (streamWord seed (position + 1)).toNat * bound / 0x100000000
    (if low + more < 0x100000000 then high else high + 1, position + 2)
  else (high, position + 1)

def longestProduct (product next factors : Nat) : Nat → Nat × Nat
  | 0 => (product, factors)
  | fuel + 1 =>
    if product * next < 0x100000000 then
      longestProduct (product * next) (next + 1) (factors + 1) fuel
    else (product, factors)

/-- The source of exchange positions: the next factor less one, the undivided rest of the last
draw, how many positions it still holds, and the place in the stream. -/
structure Exchanges where
  index : Nat
  rest : Nat
  held : Nat
  position : Nat

def Exchanges.start : Exchanges := ⟨0, 0, 1, 0⟩

/-- The exchange position for `index`.  Each factor from two on at least doubles a product, so a
product that fits into 32 bits has at most 32 factors. -/
def Exchanges.next (seed : UInt64) (source : Exchanges) : Nat × Exchanges :=
  let factor := source.index + 1
  let (rest, held, position) :=
    if source.held = 0 then
      let (bound, factors) := longestProduct factor (factor + 1) 1 32
      let (drawn, position) := drawBelow seed bound source.position
      (drawn, factors - 1, position)
    else (source.rest, source.held - 1, source.position)
  if held = 0 then (rest, ⟨factor, rest, held, position⟩)
  else (rest % factor, ⟨factor, rest / factor, held, position⟩)

abbrev Substitution := Vector UInt8 256

def exchange (table : Substitution) (i j : Nat) : Substitution :=
  if bounds : i < 256 ∧ j < 256 then table.swap i j bounds.1 bounds.2 else table

def shuffleFrom (seed : UInt64) (source : Exchanges) (table : Substitution) :
    Nat → Substitution
  | 0 => table
  | count + 1 =>
    let (target, after) := source.next seed
    shuffleFrom seed after (exchange table source.index target) count

def shuffled (seed : UInt64) : Substitution :=
  shuffleFrom seed .start (.ofFn fun i => UInt8.ofNat i) 256

end StoreBench.Keys
