import StoreBench.Run.Worker
import StoreBench.Text.Escaped

/-!
The passes of a worker.

A worker runs its kinds in order, pass after pass.  Every step is bracketed by `begin` and `done`
and timed around the engine calls only:

* `set`, `get` and `del` have one key in a sample;
* `crud` has one quadruple in a sample: set B, set A, delete B, get A;
* `batch` has up to a batch of quadruples in a sample, of pairs generated before;
* `iter` walks one cursor, and each record is a sample.
-/

namespace StoreBench.Run

open StoreBench.Engine (Call)
open StoreBench.Keys (Pool)
open StoreBench.Latency (Recorder)

variable {m : Type → Type} [Monad m] (stage : Stage m) (settings : Settings) (context : Nat)

/-- A key was not found: a failure, unless missing keys are tolerated. -/
def missing (operation : String) (key : Bytes) : Work m Unit := do
  if settings.ignoreMissing then
    pure ()
  else
    throw (.failure (.keyNotFound operation (← get).worker.number (Text.escapeBytes key)))

def nextPair (keyOnly : Bool) : Work m Pair := do
  let desk ← get
  let (pair, walk) := if keyOnly then desk.worker.walk.nextKey else desk.worker.walk.next
  set { desk with worker := { desk.worker with walk } : Desk }
  return pair

def nextSecond (kind : Kind) : Work m Pair := do
  let desk ← get
  match desk.worker.second with
  | none => throw (.failure (.config (.noSecondSpace desk.worker.number kind)))
  | some walk =>
    let (pair, walk) := walk.next
    set { desk with worker := { desk.worker with second := some walk } : Desk }
    return pair

/-- One sample of `set`, `get` or `del`.  `done` is called and the sample recorded whatever the
step said; a failed step counts with the volume of the pair asked for. -/
def pointStep (kind : Kind) : Work m Unit := do
  let pair ← nextPair (kind != .set)
  let start ← now
  let outcome ←
    match ← ask stage (.begin context kind) with
    | .error cause => pure (.error cause)
    | .ok _ =>
      let got ← ask stage (.next context kind pair)
      pure (got.map fun got => if kind = .delete then pair.key.length else got.volume)
  let ending ← ask stage (.done context kind)
  record stage start
    (match outcome with
      | .ok volume => volume
      | .error _ => pair.volume)
  match outcome with
  | .error .notFound => missing settings kind.name pair.key
  | .error cause => throw (.failure (.engine cause))
  | .ok _ => pure ()
  match ending with
  | .error cause => throw (.failure (.engine cause))
  | .ok _ => pure ()

def pointPass (kind : Kind) : Nat → Work m Unit
  | 0 => pure ()
  | left + 1 => do
    pointStep stage settings context kind
    pointPass kind left

/-- Set B, set A, delete B, get A; the bytes moved. -/
def quadruple (a b : Pair) : Work m Nat := do
  let _ ← demand stage (.next context .set b)
  let _ ← demand stage (.next context .set a)
  match ← ask stage (.next context .delete b) with
  | .error .notFound => missing settings "crud.del" b.key
  | .error cause => throw (.failure (.engine cause))
  | .ok _ => pure ()
  let moved := b.volume + a.volume + b.key.length
  match ← ask stage (.next context .get a) with
  | .ok got => return moved + got.volume
  | .error .notFound =>
    missing settings "crud.get" a.key
    return moved + a.key.length
  | .error cause => throw (.failure (.engine cause))

def nominalVolume (a b : Pair) : Nat :=
  b.volume + a.volume + b.key.length + a.volume

/-- One transaction of a quadruple; `done` is called only if all went well. -/
def crudTransaction (a b : Pair) : Work m Nat := do
  let _ ← demand stage (.begin context .crud)
  let volume ← quadruple stage settings context a b
  let _ ← demand stage (.done context .crud)
  return volume

def crudStep : Work m Unit := do
  let a ← nextPair false
  let b ← nextSecond .crud
  let start ← now
  let outcome ← attempt (crudTransaction stage settings context a b)
  record stage start
    (match outcome with
      | .ok volume => volume
      | .error _ => nominalVolume a b)
  let _ ← settle outcome

def crudPass : Nat → Work m Unit
  | 0 => pure ()
  | left + 1 => do
    crudStep stage settings context
    crudPass left

/-- Quadruples of the two pools until one is drained or `left` of them are done; the volume of the
last one and how many were done. -/
def batchBody (left : Nat) : List Pair → List Pair → Nat → Nat → Work m (Nat × Nat)
  | a :: firsts, b :: seconds, _, made => do
    let volume ← quadruple stage settings context a b
    if made + 1 = left then return (volume, made + 1)
    else batchBody left firsts seconds volume (made + 1)
  | _, _, last, made => return (last, made)

def batchTransaction (left : Nat) (firsts seconds : List Pair) : Work m (Nat × Nat) := do
  let _ ← demand stage (.begin context .batch)
  let result ← batchBody stage settings context left firsts seconds 0 0
  let _ ← demand stage (.done context .batch)
  return result

def nextBatch : Work m (List Pair × List Pair) := do
  let desk ← get
  match desk.worker.second with
  | none => throw (.failure (.config (.noSecondSpace desk.worker.number .batch)))
  | some second =>
    match Pool.new desk.worker.walk settings.batchLength,
        Pool.new second settings.batchLength with
    | .ok (firsts, walk), .ok (seconds, second) =>
      set { desk with worker := { desk.worker with walk, second := some second } : Desk }
      return (firsts.pairs, seconds.pairs)
    | .error cause, _ => throw (.panic cause)
    | _, .error cause => throw (.panic cause)

def nominalBatchVolume : Work m Nat := do
  let walk := (← get).worker.walk
  return (walk.shape.keySize + walk.valueSize) * 3 + walk.shape.keySize

/-- A pass of `batch` with `left` quadruples to go.  Every batch is charged the volume of its last
quadruple times the length of a batch, the last and shorter batch too.  The recorder counts
samples with 64 bits, which bounds the number of batches. -/
def batchPass (left : Nat) : Nat → Work m Unit
  | 0 => throw (.panic .overflow)
  | room + 1 => do
    let (firsts, seconds) ← nextBatch settings
    let nominal ← nominalBatchVolume
    let start ← now
    let outcome ← attempt (batchTransaction stage settings context left firsts seconds)
    let volume :=
      match outcome with
      | .ok (volume, _) => volume
      | .error _ => nominal
    record stage start (volume * settings.batchLength)
    let (_, made) ← settle outcome
    if left ≤ made then pure () else batchPass (left - made) room

def cursorSteps (start : Nat) : Nat → Work m Unit
  | 0 => pure ()
  | left + 1 => do
    match ← ask stage (.next context .iterate .empty) with
    | .ok pair =>
      record stage start pair.volume
      cursorSteps (← now) left
    | .error .notFound => pure ()
    | .error cause => throw (.failure (.engine cause))

def iteratePass (share : Nat) : Work m Unit := do
  let start ← now
  let _ ← demand stage (.begin context .iterate)
  cursorSteps stage context start share
  let _ ← demand stage (.done context .iterate)

def kindSteps (kind : Kind) (share : Nat) : Work m Unit :=
  if share = 0 then pure ()
  else
    match kind with
    | .iterate => iteratePass stage context share
    | .crud => crudPass stage settings context share
    | .batch => batchPass stage settings context share wordLimit
    | kind => pointPass stage settings context kind share

/-- One kind of one pass: the walks start again, the recorder starts afresh, and what it recorded
is folded into the hub even if the steps failed. -/
def runKind (kind : Kind) : Work m Unit := do
  modify fun desk =>
    let worker := desk.worker
    { desk with
      worker :=
        { worker with
          walk := worker.walk.rewind worker.start
          second := worker.second.map (·.rewind worker.start)
          recorder := worker.recorder.reset kind desk.shared.clock } }
  let outcome ← attempt (kindSteps stage settings context kind (← get).worker.share)
  withRecorder stage Recorder.merge
  settle outcome

def kindsOfPass : List Kind → Work m Bool
  | [] => return true
  | kind :: kinds => do
    if (← get).shared.stopped then return false
    runKind stage settings context kind
    kindsOfPass kinds

def anotherPass (shared : Shared) (made : Nat) : Bool :=
  made < settings.passes || (settings.continuous && shared.finished < shared.enlisted)

/-- The passes after the first `made`.  The number of passes has 64 bits. -/
def passesFrom (made : Nat) : Nat → Work m Unit
  | 0 => throw (.panic .overflow)
  | room + 1 => do
    if anotherPass settings (← get).shared made then
      if ← kindsOfPass stage settings context (← get).worker.kinds.toList then
        if made + 1 = settings.passes then
          modify fun desk =>
            { desk with shared := { desk.shared with finished := desk.shared.finished + 1 } }
        if (← get).shared.stopped then pure () else passesFrom (made + 1) room

def applyOptions : List String → Work m Unit
  | [] => pure ()
  | option :: options => do
    match ← ask stage (.contextOption context option) with
    | .ok _ => applyOptions options
    | .error cause =>
      let _ ← ask stage (.dispose context)
      throw (.failure (.engine cause))

def onContext : Work m Unit := do
  let _ ← demand stage (.newContext context)
  applyOptions stage context settings.engineOptions
  let outcome ← attempt (passesFrom stage settings context 0 wordLimit)
  let _ ← ask stage (.dispose context)
  settle outcome

/-- All the work of a worker.  A failure stops the run. -/
def fulfil : Work m Unit := do
  let outcome ← attempt (onContext stage settings context)
  match outcome with
  | .ok () => pure ()
  | .error _ => modify fun desk => { desk with shared := { desk.shared with stopped := true } }
  settle outcome

end StoreBench.Run
