import StoreBench.Latency.Account
import StoreBench.Latency.Timeline

/-!
The hub: the run-wide view of all workers' samples.

Workers attach to the hub and detach from it.  The time is divided into epochs, one for each
timeline line.  The first fold of a worker after the interval has elapsed counts it in the epoch;
once every attached worker is counted, the line is emitted and the next epoch begins.  A step that
panics keeps what it did before.
-/

namespace StoreBench.Latency

structure Writer where
  sink : String
  -- a sink without a limit takes every line
  writesLeft : Option Nat
  deriving DecidableEq

/-- Offers a line to the sink: whether it was taken, and the sink after it.  A sink that refused
once is dropped. -/
def Writer.offer (writer : Writer) : Bool × Option Writer :=
  match writer.writesLeft with
  | none => (true, some writer)
  | some 0 => (false, none)
  | some (left + 1) => (true, some { writer with writesLeft := some left })

structure Hub where
  start : Nat
  interval : Nat
  epoch : Nat
  checkpoint : Nat
  attached : Nat
  counted : Nat
  accounts : PerKind Account
  timeline : Option Writer
  headed : Bool

inductive Checkpoint where
  | early
  | pending
  | emitted (emission : Emission)
  deriving DecidableEq

namespace Hub

def new (interval now : Nat) : Hub :=
  { start := now
    interval
    epoch := 0
    checkpoint := now
    attached := 0
    counted := 0
    accounts := .replicate .new
    timeline := none
    headed := false }

def foldInterval (hub : Hub) : Nat :=
  hub.interval / 100

def mirror (hub : Hub) (writer : Writer) : Hub :=
  { hub with timeline := some writer }

def enable (hub : Hub) (kind : Kind) : Hub :=
  if (hub.accounts.get kind).enabled then hub
  else { hub with accounts := hub.accounts.set kind { Account.new with enabled := true } }

def kinds (hub : Hub) : List Kind :=
  Kind.all.filter fun kind => (hub.accounts.get kind).enabled

/-- Attaches a worker, which is not yet counted in the epoch it is told. -/
def attach (hub : Hub) : Nat × Hub :=
  (hub.epoch, { hub with attached := hub.attached + 1 })

def cell (hub : Hub) (kind : Kind) : Cell :=
  let account := hub.accounts.get kind
  let samples := account.unflushed
  { kind
    figures :=
      if samples.count = 0 then none
      else some ⟨samples, account.least, account.greatest, account.total.count⟩ }

def emit (hub : Hub) (now : Nat) : Emission × Hub :=
  let line : Line :=
    { time := now - hub.start, wall := now - hub.checkpoint, cells := hub.kinds.map hub.cell }
  let (taken, timeline) :=
    match hub.timeline with
    | none => (none, none)
    | some writer =>
      let (accepted, timeline) := writer.offer
      (if accepted then some writer.sink else none, timeline)
  ({ heading := if hub.headed then none else some hub.kinds, line, mirror := taken },
    { hub with
      checkpoint := now
      epoch := hub.epoch + 1
      counted := 0
      accounts := hub.accounts.map fun account =>
        if account.enabled then account.turnPage else account
      timeline
      headed := true })

/-- Counts the caller in the epoch once the interval has elapsed, and emits the line when it is
the last to be counted. -/
def tryLine (hub : Hub) (now : Nat) : Except Panic Checkpoint × Hub :=
  if now - hub.checkpoint < hub.interval then (.ok .early, hub)
  else
    let hub := { hub with counted := hub.counted + 1 }
    if hub.attached < hub.counted then (.error .overcounted, hub)
    else if hub.counted < hub.attached then (.ok .pending, hub)
    else
      let (emission, hub) := hub.emit now
      (.ok (.emitted emission), hub)

/-- Detaches a worker that was last told `epoch`.  If it was counted, it takes its count with it;
if all that stay are counted, the line is due. -/
def detach (hub : Hub) (epoch now : Nat) : Except Panic (Option Emission) × Hub :=
  if epoch = hub.epoch + 1 && hub.counted = 0 then (.error .uncounted, hub)
  else
    let hub := if epoch = hub.epoch + 1 then { hub with counted := hub.counted - 1 } else hub
    if hub.attached = 0 then (.error .unattached, hub)
    else
      let hub := { hub with attached := hub.attached - 1 }
      if 0 < hub.counted && hub.counted = hub.attached then
        let (emission, hub) := hub.emit now
        (.ok (some emission), hub)
      else (.ok none, hub)

/-- Folds the unflushed samples of a worker that was last told `epoch` into the account of `kind`;
the fold counts the worker if it is not yet counted.  Samples of kinds that are not enabled are
dropped.  The middle part of the result is the epoch to tell the worker. -/
def fold (hub : Hub) (kind : Kind) (source : Account) (epoch now : Nat) :
    Except Panic (Option Emission) × Nat × Hub :=
  let account := hub.accounts.get kind
  if !account.enabled || !source.pending then (.ok none, epoch, hub)
  else
    match account.fold source with
    | (.error panic, account) =>
      (.error panic, epoch, { hub with accounts := hub.accounts.set kind account })
    | (.ok (), account) =>
      let hub := { hub with accounts := hub.accounts.set kind account }
      if epoch ≠ hub.epoch then (.ok none, epoch, hub)
      else
        match hub.tryLine now with
        | (.error panic, hub) => (.error panic, epoch, hub)
        | (.ok .early, hub) => (.ok none, epoch, hub)
        | (.ok .pending, hub) => (.ok none, epoch + 1, hub)
        | (.ok (.emitted emission), hub) => (.ok (some emission), epoch + 1, hub)

end Hub

end StoreBench.Latency
