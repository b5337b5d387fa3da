/-!
Percentile bins.

A latency up to 2047 ns has a bin of its own; the table does not grow, and a larger latency is
counted in bin 2.  A quantile is the first bin at which the cumulative count reaches the rank.
-/

namespace StoreBench.Latency

def binCount : Nat := 2048

def binOf (latency : Nat) : Fin binCount :=
  if small : latency < binCount then ⟨latency, small⟩ else ⟨2, by decide⟩

abbrev Bins := Vector Nat binCount

structure Quantile where
  num : Nat
  den : Nat

/-- The rank of a quantile among `total` samples in ascending order: their fraction, rounded up,
and at least the first. -/
def Quantile.rank (quantile : Quantile) (total : Nat) : Nat :=
  max 1 ((quantile.num * total + quantile.den - 1) / quantile.den)

/-- The first position from which on `rank` counts are reached, counted from `position`. -/
def firstReaching (rank position : Nat) : List Nat → Nat
  | [] => 0
  | count :: counts =>
    if rank ≤ count then position else firstReaching (rank - count) (position + 1) counts

def Bins.at (bins : Bins) (quantile : Quantile) : Nat :=
  firstReaching (quantile.rank (bins.foldl (· + ·) 0)) 0 bins.toList

end StoreBench.Latency
