/-!
The latency buckets of the final report.

Sixteen buckets for each decade from a nanosecond to ten seconds, a few long ones, and one for
everything else.  Bucket `i` holds the latencies from bound `i - 1` on and below bound `i`.
-/

namespace StoreBench.Latency

def second : Nat := 1000000000

def decade : List Nat :=
  [12, 14, 16, 18, 20, 25, 30, 35, 40, 45, 50, 60, 70, 80, 90, 100]

/-- The exclusive upper bounds of the buckets, in nanoseconds. -/
def bounds : List Nat :=
  9 :: ((List.range 10).flatMap fun power => decade.map (· * Nat.pow 10 power)) ++
    [second * 5 * 60, second * 30 * 60, second * 3600 * 4, second * 3600 * 8, second * 3600 * 24,
     0xFFFFFFFFFFFFFFFF]

def bucketCount : Nat := 167

theorem length_bounds : bounds.length = bucketCount := by decide +kernel

def boundTable : Array Nat := bounds.toArray

def bound (index : Nat) : Nat := boundTable.getD index 0

/-- The bucket of a latency: as many bounds as lie at or below it.  The greatest latency of all
joins the last bucket. -/
def bucketIndex (latency : Nat) : Fin bucketCount :=
  ⟨min (bounds.countP (· ≤ latency)) (bucketCount - 1),
    Nat.lt_of_le_of_lt (Nat.min_le_right _ _) (by decide)⟩

/-- The least and the greatest latency of a bucket. -/
def bucketRange (index : Nat) : Nat × Nat :=
  (if index = 0 then 0 else bound (index - 1), bound index - 1)

end StoreBench.Latency
