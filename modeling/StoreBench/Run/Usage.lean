import StoreBench.Decimal.Places
import StoreBench.Decimal.Shortest
import StoreBench.Latency.Summary

/-!
What a run consumed: the difference of two samples of the process's counters.
-/

namespace StoreBench.Run

open StoreBench.Decimal (ofNat fixed scientific)

structure Usage where
  -- times in nanoseconds, sizes in bytes
  blocksRead : Nat
  blocksWritten : Nat
  pageFaults : Nat
  userTime : Nat
  systemTime : Nat
  disk : Nat
  memory : Nat
  deriving DecidableEq

def Usage.zero : Usage := ⟨0, 0, 0, 0, 0, 0, 0⟩

/-- Reads the 64 bits of a counter as a signed number. -/
def signed (counter : Nat) : Int :=
  let low := counter % wordLimit
  if low < wordLimit / 2 then low else low - wordLimit

/-- The difference of two counters as a signed number of 64 bits. -/
def difference (finish start : Nat) : Except Panic Int :=
  let change := signed finish - signed start
  if change < -0x8000000000000000 || 0x8000000000000000 ≤ change then .error .overflow
  else .ok change

def ofInt (value : Int) : Float :=
  if value < 0 then -ofNat value.natAbs else ofNat value.natAbs

/-- Consumption between two samples: times in seconds, sizes in units of 2^20 bytes. -/
structure Consumption where
  blocksRead : Int
  blocksWritten : Int
  pageFaults : Int
  userTime : Float
  systemTime : Float
  disk : Float
  memory : Float

namespace Consumption

def between (start finish : Usage) : Except Panic Consumption := do
  let blocksRead ← difference finish.blocksRead start.blocksRead
  let blocksWritten ← difference finish.blocksWritten start.blocksWritten
  let pageFaults ← difference finish.pageFaults start.pageFaults
  let userTime ← difference finish.userTime start.userTime
  let systemTime ← difference finish.systemTime start.systemTime
  let disk ← difference finish.disk start.disk
  let memory ← difference finish.memory start.memory
  return { blocksRead, blocksWritten, pageFaults
           userTime := ofInt userTime * 0.000000001
           systemTime := ofInt systemTime * 0.000000001
           disk := ofInt disk / 1048576.0
           memory := ofInt memory / 1048576.0 }

def text (used : Consumption) : List String :=
  ["", s!"{Latency.Summary.banner} rusage",
   s!"iops: read {used.blocksRead}, write {used.blocksWritten}, page {used.pageFaults}",
   s!"cpu: user {fixed 6 used.userTime}, system {fixed 6 used.systemTime}",
   s!"space: disk {fixed 6 used.disk}, ram {fixed 6 used.memory}"]

def csvHeading : String :=
  "iops_read,\tiops_write,\tiops_page,\tcpu_user,\tcpu_kernel,\tdisk,\tram\n"

def csv (used : Consumption) : String :=
  csvHeading ++
    s!"{used.blocksRead},\t{used.blocksWritten},\t{used.pageFaults},\t" ++
    s!"{scientific used.userTime},\t{scientific used.systemTime},\t" ++
    s!"{scientific used.disk},\t{scientific used.memory}\n"

end Consumption

end StoreBench.Run
