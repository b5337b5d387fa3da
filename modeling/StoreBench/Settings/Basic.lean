import StoreBench.Error
import StoreBench.Decimal.Binary64

/-!
The settings of a run.

Every setting has a default.  Settings from which no run can be built are refused in a fixed order
of checks, so that of two faults the first one is reported.
-/

namespace StoreBench

/-- How eagerly the engine should flush to stable storage. -/
inductive SyncMode where
  | sync
  | lazy
  | noSync
  deriving DecidableEq

def SyncMode.name : SyncMode → String
  | .sync => "sync"
  | .lazy => "lazy"
  | .noSync => "nosync"

/-- A request for write-ahead logging; `indefinite` leaves the choice to the engine. -/
inductive LogMode where
  | indefinite
  | on
  | off
  deriving DecidableEq

def LogMode.name : LogMode → String
  | .indefinite => "indef"
  | .on => "walon"
  | .off => "waloff"

structure Durability where
  sync : SyncMode
  log : LogMode
  deriving DecidableEq

structure Settings where
  kinds : List Kind
  count : Nat
  keys : Nat
  keySize : Nat
  valueSize : Nat
  batchLength : Nat
  passes : Nat
  durability : Durability
  readers : Nat
  -- without readers and writers a single worker runs everything
  writers : Nat
  continuous : Bool
  ignoreMissing : Bool
  binary : Bool
  reports : Option String
  seed : UInt64
  folder : String
  engineOptions : List String
  interval : Float
  pinned : Bool

namespace Settings

def default : Settings :=
  { kinds := [.set, .get]
    count := 1000000
    keys := 1000000
    keySize := 16
    valueSize := 32
    batchLength := 500
    passes := 1
    durability := ⟨.lazy, .indefinite⟩
    readers := 0
    writers := 0
    continuous := false
    ignoreMissing := false
    binary := false
    reports := none
    seed := 0
    folder := "./_kvarena"
    engineOptions := []
    interval := 1.0
    pinned := false }

def selected (settings : Settings) : KindSet :=
  .ofList settings.kinds

/-- A number of seconds is usable when it is finite and positive. -/
def usableInterval (seconds : Float) : Bool :=
  match Decimal.Binary64.ofFloat seconds with
  | .finite false mantissa _ => mantissa != 0
  | _ => false

def validate (settings : Settings) : Except ConfigError Unit :=
  if settings.kinds.isEmpty then .error .noKinds
  else if settings.count = 0 then .error (.notPositive "count")
  else if settings.keys = 0 then .error (.notPositive "keys")
  else if settings.passes = 0 then .error (.notPositive "repeat")
  else if settings.keySize = 0 then .error (.notPositive "ksize")
  else if settings.selected.contains .batch && settings.batchLength = 0 then
    .error (.notPositive "batch_length")
  else if !usableInterval settings.interval then .error .badInterval
  else .ok ()

/-- A number of seconds as nanoseconds, to the nearest, a half to the even one.  A duration holds
at most 64 bits of seconds. -/
def nanoseconds (seconds : Float) : Except Panic Nat :=
  match Decimal.Binary64.ofFloat seconds with
  | .nan => .error .duration
  | .infinite _ => .error .duration
  | .finite negative mantissa exponent =>
    let num := mantissa * Nat.pow 2 exponent.toNat
    let den := Nat.pow 2 (-exponent).toNat
    if negative && mantissa != 0 then .error .duration
    else if wordLimit * den ≤ num then .error .duration
    else .ok (Decimal.roundDiv (num * 1000000000) den)

def intervalNanoseconds (settings : Settings) : Except Panic Nat :=
  nanoseconds settings.interval

def reportName (start engine : String) (mode : SyncMode) (item : String) : String :=
  s!"{start}{engine}_{mode.name}_{item}.csv"

end Settings

end StoreBench
