import StoreBench.Latency.Bucket
import StoreBench.Latency.Tally
import StoreBench.Latency.Quantile

/-!
The account of one kind.

A worker's account is told of every sample; what it recorded since its last fold is folded into
the account of the hub and then rolled away.  Totals go on over folds; buckets, bins and extremes
of a worker's account cover the samples since the last fold only.
-/

namespace StoreBench.Latency

/-- The greatest instant and the greatest latency; as a minimum it says that there is none. -/
def never : Nat := 0xFFFFFFFFFFFFFFFF

structure Account where
  enabled : Bool
  total : Tally
  -- already folded, for a worker; already shown in a line, for the hub
  flushed : Tally
  least : Nat
  greatest : Nat
  pastLeast : Nat
  pastGreatest : Nat
  opened : Option Nat
  closed : Option Nat
  buckets : Vector Nat bucketCount
  bins : Bins

namespace Account

def new : Account :=
  { enabled := false
    total := .zero
    flushed := .zero
    least := never
    greatest := 0
    pastLeast := never
    pastGreatest := 0
    opened := none
    closed := none
    buckets := Vector.replicate bucketCount 0
    bins := Vector.replicate binCount 0 }

def unflushed (account : Account) : Tally :=
  account.total.since account.flushed

def pending (account : Account) : Bool :=
  account.total.count != account.flushed.count

/-- Records a sample that started at `start` and ended at `now`; a clock that ran backwards gives
latency zero. -/
def record (account : Account) (start now volume : Nat) : Except Panic Unit × Account :=
  let latency := now - start
  let account :=
    { account with
      opened := account.opened.or (some start)
      closed := some now }
  match account.total.grow (.ofSample latency volume) with
  | (.error panic, total) => (.error panic, { account with total })
  | (.ok (), total) =>
    let bucket := bucketIndex latency
    let bin := binOf latency
    (.ok (),
      { account with
        total
        least := min account.least latency
        greatest := max account.greatest latency
        buckets := account.buckets.set bucket (account.buckets[bucket] + 1)
        bins := account.bins.set bin (account.bins[bin] + 1) })

def earliest : Option Nat → Option Nat → Option Nat
  | some left, some right => some (min left right)
  | left, right => left.or right

def latest : Option Nat → Option Nat → Option Nat
  | some left, some right => some (max left right)
  | left, right => left.or right

def fold (account source : Account) : Except Panic Unit × Account :=
  match account.total.grow source.unflushed with
  | (.error panic, total) => (.error panic, { account with total })
  | (.ok (), total) =>
    (.ok (),
      { account with
        total
        least := min account.least source.least
        greatest := max account.greatest source.greatest
        opened := earliest account.opened source.opened
        closed := latest account.closed source.closed
        buckets := account.buckets.zipWith (· + ·) source.buckets
        bins := account.bins.zipWith (· + ·) source.bins })

/-- Marks everything recorded so far as folded. -/
def roll (account : Account) : Account :=
  { account with
    flushed := account.total
    least := never
    greatest := 0
    buckets := Vector.replicate bucketCount 0
    bins := Vector.replicate binCount 0 }

/-- Marks everything folded so far as shown in a line. -/
def turnPage (account : Account) : Account :=
  { account with
    flushed := account.total
    pastLeast := min account.pastLeast account.least
    pastGreatest := max account.pastGreatest account.greatest
    least := never
    greatest := 0 }

end Account

end StoreBench.Latency
