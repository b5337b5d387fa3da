import StoreBench.Latency.Hub

/-!
The final statistics of a kind, and their report.
-/

namespace StoreBench.Latency

open StoreBench.Decimal (ofNat fixed scientific)

/-- A bucket with samples; both ends belong to it. -/
structure BucketCount where
  low : Nat
  high : Nat
  count : Nat
  deriving DecidableEq

/-- Latencies are in nanoseconds, the throughput in operations per second. -/
structure Summary where
  kind : Kind
  count : Nat
  volume : Nat
  latencyTotal : Nat
  least : Nat
  greatest : Nat
  mean : Nat
  rootMeanSquare : Nat
  throughput : Float
  p50 : Nat
  p95 : Nat
  p99 : Nat
  p999 : Nat
  buckets : List BucketCount

def Account.bucketCounts (account : Account) : List BucketCount :=
  account.buckets.toList.zipIdx.filterMap fun (count, index) =>
    if count = 0 then none
    else
      let (low, high) := bucketRange index
      some ⟨low, high, count⟩

/-- Nanoseconds from the start of the first sample to the end of the last, at least one. -/
def Account.wall (account : Account) : Nat :=
  match account.opened, account.closed with
  | some opened, some closed => max (closed - opened) 1
  | _, _ => 1

/-- The totals of a kind; nothing if it is not enabled or has no samples. -/
def Hub.summary? (hub : Hub) (kind : Kind) : Option Summary :=
  let account := hub.accounts.get kind
  if !account.enabled || account.total.count = 0 then none
  else
    some
      { kind
        count := account.total.count
        volume := account.total.volume
        latencyTotal := min account.total.latency never
        least := min account.pastLeast account.least
        greatest := max account.pastGreatest account.greatest
        mean := account.total.mean
        rootMeanSquare := account.total.rootMeanSquare
        throughput := ofNat account.total.count * 1000000000.0 / ofNat account.wall
        p50 := account.bins.at ⟨50, 100⟩
        p95 := account.bins.at ⟨95, 100⟩
        p99 := account.bins.at ⟨99, 100⟩
        p999 := account.bins.at ⟨999, 1000⟩
        buckets := account.bucketCounts }

def Hub.summaries (hub : Hub) : List Summary :=
  Kind.all.filterMap hub.summary?

namespace Summary

def percent (summary : Summary) (part : Nat) : Float :=
  ofNat part * 100.0 / ofNat summary.count

def cumulative (summary : Summary) : List (BucketCount × Nat) :=
  let rec go (sum : Nat) : List BucketCount → List (BucketCount × Nat)
    | [] => []
    | bucket :: rest => (bucket, sum + bucket.count) :: go (sum + bucket.count) rest
  go 0 summary.buckets

def bucketLine (summary : Summary) (bucket : BucketCount) (sum : Nat) : String :=
  "[" ++ latencyText bucket.low ++ "," ++ latencyText bucket.high ++ " ]" ++
    Text.padLeft 16 (toString bucket.count) ++
    Text.padLeft 7 (fixed 2 (summary.percent bucket.count)) ++ "%" ++
    Text.padLeft 9 (fixed 4 (summary.percent sum)) ++ "%"

def rule : String := String.ofList (List.replicate 58 '-')

def banner : String := String.ofList (List.replicate 58 '>')

def text (summary : Summary) : List String :=
  let sum := (summary.buckets.map BucketCount.count).foldl (· + ·) 0
  ["", s!"{banner} {summary.kind.name}({summary.count})",
   "[" ++ Text.padLeft 8 "ltn_from" ++ "   " ++ Text.padLeft 8 "ltn_to" ++ "   ]" ++
     Text.padLeft 16 "ops_count" ++ Text.padLeft 8 "%" ++ Text.padLeft 10 "p%",
   rule] ++
  (summary.cumulative.map fun (bucket, sum) => summary.bucketLine bucket sum) ++
  [rule,
   "total:" ++ Text.padLeft 16 (latencyText summary.latencyTotal) ++ "  " ++
     Text.padLeft 16 (toString sum),
   "min latency:" ++ latencyText summary.least ++ "/op",
   "avg latency:" ++ latencyText summary.mean ++ "/op",
   "rms latency:" ++ latencyText summary.rootMeanSquare ++ "/op",
   "max latency:" ++ latencyText summary.greatest ++ "/op",
   " throughput:" ++ scaled summary.throughput "" ++ "ops/s",
   " percentile: p50" ++ latencyText summary.p50 ++ " p95" ++ latencyText summary.p95 ++
     " p99" ++ latencyText summary.p99 ++ " p999" ++ latencyText summary.p999]

def bucketCsv (summary : Summary) (bucket : BucketCount) (sum : Nat) : String :=
  scientific (latencySeconds bucket.low) ++ ",\t" ++ scientific (latencySeconds bucket.high) ++
    ",\t" ++ toString bucket.count ++ ",\t" ++ scientific (summary.percent bucket.count) ++
    ",\t" ++ scientific (summary.percent sum) ++ "\n"

/-- The report as comma-separated values: the buckets, then the summary. -/
def csv (summary : Summary) : String :=
  "ltn_open,\tltn_close,\tops_count,\t%,\tp%\n" ++
    String.join (summary.cumulative.map fun (bucket, sum) => summary.bucketCsv bucket sum) ++
    "\nltn_min,\tltn_avg,\tltn_rms,\tltn_max,\tthroughput\n" ++
    scientific (latencySeconds summary.least) ++ ",\t" ++
    scientific (latencySeconds summary.mean) ++ ",\t" ++
    scientific (latencySeconds summary.rootMeanSquare) ++ ",\t" ++
    scientific (latencySeconds summary.greatest) ++ ",\t" ++ scientific summary.throughput ++ "\n"

end Summary

end StoreBench.Latency
