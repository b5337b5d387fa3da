import StoreBench.Latency.Hub

/-!
A worker's recorder.

It records samples of one kind at a time and folds them into the hub, at most a hundred times in
an interval and not more often than the epoch allows.
-/

namespace StoreBench.Latency

structure Recorder where
  kind : Option Kind
  account : Account
  checkpoint : Nat
  -- the hub's epoch while the worker is not counted in it, and its successor afterwards
  epoch : Nat

namespace Recorder

def new (hub : Hub) (now : Nat) : Recorder × Hub :=
  let (epoch, hub) := hub.attach
  ({ kind := none, account := .new, checkpoint := now, epoch }, hub)

def reset (recorder : Recorder) (kind : Kind) (now : Nat) : Recorder :=
  { recorder with kind := some kind, account := .new, checkpoint := now }

def count (recorder : Recorder) : Nat :=
  recorder.account.total.count

/-- Folds into the hub and rolls the account; a panic of the hub leaves the account unrolled. -/
def foldInto (recorder : Recorder) (hub : Hub) (kind : Kind) (now : Nat) :
    Except Panic (Option Emission) × Recorder × Hub :=
  match hub.fold kind recorder.account recorder.epoch now with
  | (.error panic, epoch, hub) => (.error panic, { recorder with epoch }, hub)
  | (.ok emission, epoch, hub) =>
    (.ok emission,
      { recorder with epoch, checkpoint := now, account := recorder.account.roll }, hub)

/-- Records an operation that started at `start` and ended at `now`, and folds if it is time. -/
def add (recorder : Recorder) (hub : Hub) (start now volume : Nat) :
    Except Panic (Option Emission) × Recorder × Hub :=
  match recorder.account.record start now volume with
  | (.error panic, account) => (.error panic, { recorder with account }, hub)
  | (.ok (), account) =>
    let recorder := { recorder with account }
    match recorder.kind with
    | none => (.ok none, recorder, hub)
    | some kind =>
      if now - recorder.checkpoint < hub.foldInterval || recorder.epoch ≠ hub.epoch then
        (.ok none, recorder, hub)
      else recorder.foldInto hub kind now

/-- Records operations with their starts, ends and volumes, one after the other up to a panic; the
lines they caused, and the last instant. -/
def addAll (recorder : Recorder) (hub : Hub) (now : Nat) :
    List (Nat × Nat × Nat) → Except Panic Unit × List Emission × Recorder × Hub × Nat
  | [] => (.ok (), [], recorder, hub, now)
  | (start, ending, volume) :: samples =>
    match recorder.add hub start ending volume with
    | (.error panic, recorder, hub) => (.error panic, [], recorder, hub, ending)
    | (.ok emission, recorder, hub) =>
      let (result, emissions, rest) := recorder.addAll hub ending samples
      (result, emission.toList ++ emissions, rest)

def merge (recorder : Recorder) (hub : Hub) (now : Nat) :
    Except Panic (Option Emission) × Recorder × Hub :=
  match recorder.kind with
  | none => (.ok none, recorder, hub)
  | some kind =>
    if recorder.account.pending then recorder.foldInto hub kind now
    else (.ok none, recorder, hub)

def drop (recorder : Recorder) (hub : Hub) (now : Nat) :
    Except Panic (Option Emission) × Hub :=
  hub.detach recorder.epoch now

end Recorder

end StoreBench.Latency
