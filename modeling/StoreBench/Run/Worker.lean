import StoreBench.Engine.Call
import StoreBench.Keys.Pool
import StoreBench.Latency.Recorder
import StoreBench.Settings.Basic

/-!
Workers and what they share.

A worker owns one or two walks through key spaces and a recorder.  All workers of a run share the
clock, the hub, the flag that stops the run, and two counters.  A worker's steps are written for
any engine; they change the desk, which is the shared part and the worker together, and may end
early with a failure or a panic.
-/

namespace StoreBench.Run

open StoreBench.Engine (Call Reply Answer)
open StoreBench.Keys (Shape Walk Pool)
open StoreBench.Latency (Hub Recorder Emission)

structure Shared where
  -- in nanoseconds; after 64 bits the clock starts again
  clock : Nat
  hub : Hub
  stopped : Bool
  enlisted : Nat
  finished : Nat

def Shared.new (hub : Hub) (clock : Nat) : Shared :=
  { clock, hub, stopped := false, enlisted := 0, finished := 0 }

structure Worker where
  number : Nat
  kinds : KindSet
  start : Nat
  share : Nat
  walk : Walk
  second : Option Walk
  recorder : Recorder

structure Desk where
  shared : Shared
  worker : Worker

structure Stage (m : Type → Type) where
  engine : Engine m
  publish : Emission → m Unit

abbrev Work (m : Type → Type) := ExceptT Stop (StateT Desk m)

namespace Worker

/-- Worker `number`, whose passes start at `start` of `space` (and of the space after it), with
`share` operations for each of `kinds`.  It attaches to the hub. -/
def enlist (settings : Settings) (shape : Shape) (number : Nat) (kinds : KindSet)
    (space start share : Nat) (shared : Shared) : Except Stop (Worker × Shared) := do
  if kinds.isEmpty then
    throw (.failure (.config (.idleWorker number)))
  let walk ← Walk.new shape space start settings.valueSize 0
  let second ←
    if kinds.meets .pairing then
      let second ← Walk.new shape (space + 1) start settings.valueSize 0
      pure (some second)
    else pure none
  let (recorder, hub) := Recorder.new shared.hub shared.clock
  return ({ number, kinds, start, share, walk, second, recorder },
    { shared with hub, enlisted := shared.enlisted + 1 })

end Worker

section Steps

variable {m : Type → Type} [Monad m] (stage : Stage m)

/-- Runs a part of the work whose failure is a result; a panic still ends everything. -/
def attempt {σ α : Type} (part : ExceptT Stop (StateT σ m) α) :
    ExceptT Stop (StateT σ m) (Except Failure α) :=
  ExceptT.mk do
    match ← part.run with
    | .ok value => return .ok (.ok value)
    | .error (.failure cause) => return .ok (.error cause)
    | .error (.panic cause) => return .error (.panic cause)

def settle {σ α : Type} : Except Failure α → ExceptT Stop (StateT σ m) α
  | .ok value => pure value
  | .error cause => throw (.failure cause)

def Shared.afterAnswer (shared : Shared) (answer : Answer) : Shared :=
  { shared with
    clock := (shared.clock + answer.took) % wordLimit
    stopped := shared.stopped || answer.interrupted }

/-- Makes a call and takes the answer apart; a panic of the engine is a panic of the worker. -/
def ask (call : Call) : Work m (Except EngineError Pair) := do
  let answer ← (stage.engine call : m Answer)
  modify fun desk => { desk with shared := desk.shared.afterAnswer answer }
  match answer.reply with
  | .ok pair => return .ok pair
  | .error cause => return .error cause
  | .panic reason => throw (.panic (.engine reason))

def demand (call : Call) : Work m Pair := do
  match ← ask stage call with
  | .ok pair => return pair
  | .error cause => throw (.failure (.engine cause))

def now : Work m Nat := do
  return (← get).shared.clock

/-- Applies an operation of the recorder and publishes the line it caused, if any. -/
def withRecorder
    (operation : Recorder → Hub → Nat → Except Panic (Option Emission) × Recorder × Hub) :
    Work m Unit := do
  let desk ← get
  let (result, recorder, hub) :=
    operation desk.worker.recorder desk.shared.hub desk.shared.clock
  set { desk with
    shared := { desk.shared with hub }
    worker := { desk.worker with recorder } : Desk }
  match result with
  | .error cause => throw (.panic cause)
  | .ok none => pure ()
  | .ok (some emission) => (stage.publish emission : m Unit)

/-- Records an operation that started at `start` and ends now.  A volume has 64 bits. -/
def record (start volume : Nat) : Work m Unit := do
  if wordLimit ≤ volume then
    throw (.panic .overflow)
  withRecorder stage fun recorder hub now => recorder.add hub start now volume

end Steps

end StoreBench.Run
