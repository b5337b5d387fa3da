import StoreBench.Engine.Registry
import StoreBench.Run.Pass
import StoreBench.Run.Plan
import StoreBench.Run.Usage

/-!
A run from its preparation to its report.

The engine is opened, takes the options, serves the workers and is closed, whatever became of the
run in between.  A single worker runs on the calling thread; with several, each has a clock of its
own and they take turns.  The first failure of a worker is the failure of the run and stops the
workers that come after it; reports are printed for failed runs too.
-/

namespace StoreBench.Run

open StoreBench.Engine (Call)
open StoreBench.Keys (Shape)
open StoreBench.Latency (Hub Emission Summary Writer)

/-- What surrounds a run: the engine, a console, files, and the process's counters. -/
structure Host (m : Type → Type) where
  engine : Engine m
  say : String → m Unit
  makeFolders : String → m (Except FileError Unit)
  create : String → m (Except FileError Unit)
  append : String → String → m (Except FileError Unit)
  -- a line of the timeline, which a sink may refuse without the run being told
  mirror : String → String → m Unit
  measure : String → m (Except FileError Usage)

/-- The order in which the workers take turns, and the workers whose thread breaks down after its
work. -/
structure Turns where
  order : List Nat
  broken : List Nat

def Turns.inOrder (workers : Nat) : Turns :=
  ⟨List.range workers, []⟩

structure Prepared where
  settings : Settings
  plan : Plan
  shape : Shape
  shared : Shared

def Stop.config (cause : ConfigError) : Stop :=
  .failure (.config cause)

/-- Checks the settings, plans the workers, shapes the key domain and makes a hub that collects
the selected kinds. -/
def prepare (settings : Settings) (clock : Nat) : Except Stop Prepared := do
  settings.validate.mapError Stop.config
  let plan ← (Plan.new settings).mapError Stop.panic
  let shape ←
    (Shape.setup (!settings.binary) settings.keySize plan.spaces plan.sectors settings.keys
      settings.seed).mapError Stop.config
  let interval ← settings.intervalNanoseconds.mapError Stop.panic
  let hub := plan.selected.toList.foldl Hub.enable (Hub.new interval clock)
  return { settings, plan, shape, shared := .new hub clock }

def prepareEngine (name : String) (settings : Settings) (clock : Nat) :
    Except Stop (Engine.BuiltIn × Prepared) := do
  settings.validate.mapError Stop.config
  let engine ← (Engine.create name settings.durability).mapError Stop.config
  let prepared ← prepare settings clock
  return (engine, prepared)

abbrev Running (m : Type → Type) := ExceptT Stop (StateT Shared m)

section Steps

variable {m : Type → Type} [Monad m] (host : Host m)

def Host.publish (emission : Emission) : m Unit := do
  for line in emission.text do
    host.say line
  match emission.mirror with
  | none => pure ()
  | some sink => host.mirror sink emission.csv

def Host.stage : Stage m :=
  { engine := host.engine, publish := host.publish }

def Host.write (path text : String) : m (Except FileError Unit) := do
  match ← host.create path with
  | .ok () => host.append path text
  | .error cause => return .error cause

def fileStep {α : Type} (step : m (Except FileError α)) : Running m α := do
  match ← (step : m (Except FileError α)) with
  | .ok value => return value
  | .error cause => throw (.failure (.file cause))

/-- A call outside the workers that has to succeed. -/
def demandCall (call : Call) : Running m Unit := do
  let answer ← (host.engine call : m Engine.Answer)
  modify fun shared => shared.afterAnswer answer
  match answer.reply with
  | .ok _ => pure ()
  | .error cause => throw (.failure (.engine cause))
  | .panic reason => throw (.panic (.engine reason))

def sayAll (lines : List String) : Running m Unit := do
  for line in lines do
    (host.say line : m Unit)

def withHub (change : Hub → Nat → Except Panic (Option Emission) × Hub) : Running m Unit := do
  let shared ← get
  let (result, hub) := change shared.hub shared.clock
  set { shared with hub : Shared }
  match result with
  | .error cause => throw (.panic cause)
  | .ok none => pure ()
  | .ok (some emission) => (host.publish emission : m Unit)

/-- Does all the work of a worker; how it ended, and the worker afterwards. -/
def turnOf (settings : Settings) (context : Nat) (worker : Worker) :
    Running m (Except Stop Unit × Worker) := do
  let shared ← get
  let (result, desk) ← ((fulfil host.stage settings context).run ⟨shared, worker⟩ : m _)
  set desk.shared
  return (result, desk.worker)

def dismiss (worker : Worker) : Running m Unit := do
  modify fun shared => { shared with enlisted := shared.enlisted - 1 }
  withHub host worker.recorder.drop

def enlistSlot (prepared : Prepared) (number : Nat) (slot : Slot) : Running m Worker := do
  let shared ← get
  match Worker.enlist prepared.settings prepared.shape number slot.kinds slot.space slot.start
      slot.share shared with
  | .error stop => throw stop
  | .ok (worker, shared) =>
    set shared
    return worker

def firstFailure (earlier : Option Failure) (later : Failure) : Option Failure :=
  some (earlier.getD later)

/-- The only worker, on the calling thread: a panic of it is a panic of the run. -/
def runSingle (prepared : Prepared) (slot : Slot) :
    Running m (Option Failure × Usage × Usage) := do
  let worker ← enlistSlot prepared 0 slot
  match ← (host.measure prepared.settings.folder : m (Except FileError Usage)) with
  | .error cause =>
    dismiss host worker
    throw (.failure (.file cause))
  | .ok before =>
    let (result, worker) ← turnOf host prepared.settings 0 worker
    dismiss host worker
    match result with
    | .error (.panic cause) => throw (.panic cause)
    | .error (.failure cause) =>
      let after ← fileStep (host.measure prepared.settings.folder)
      return (some cause, before, after)
    | .ok () =>
      let after ← fileStep (host.measure prepared.settings.folder)
      return (none, before, after)

/-- The turn of one worker on a thread with its own clock.  A panic ends the worker and stops the
run. -/
def threadTurn (prepared : Prepared) (failure : Option Failure) (worker : Worker) :
    Running m (Option Failure) := do
  let clock := (← get).clock
  modify fun shared => { shared with clock := 0 }
  let (result, worker) ← turnOf host prepared.settings worker.number worker
  let failure ←
    match result with
    | .ok () => pure failure
    | .error (.failure cause) => pure (firstFailure failure cause)
    | .error (.panic _) =>
      modify fun shared => { shared with stopped := true }
      pure (firstFailure failure (.aborted (.panicked worker.number)))
  dismiss host worker
  modify fun shared => { shared with clock }
  return failure

def threadTurns (prepared : Prepared) (failure : Option Failure) :
    List Worker → Running m (Option Failure)
  | [] => return failure
  | worker :: workers => do
    threadTurns prepared (← threadTurn host prepared failure worker) workers

def enlistAll (prepared : Prepared) (number : Nat) : List Slot → Running m (List Worker)
  | [] => return []
  | slot :: slots => do
    let worker ← enlistSlot prepared number slot
    let workers ← enlistAll prepared (number + 1) slots
    return worker :: workers

/-- All workers exist before the first of them starts.  A thread that breaks down after its work
stops the run. -/
def runThreads (prepared : Prepared) (turns : Turns) (slots : List Slot) :
    Running m (Option Failure × Usage × Usage) := do
  let workers ← enlistAll prepared 0 slots
  let before ← (host.measure prepared.settings.folder : m (Except FileError Usage))
  let failure ← threadTurns host prepared none (turns.order.filterMap (workers[·]?))
  let after ← (host.measure prepared.settings.folder : m (Except FileError Usage))
  if turns.broken.any (· < workers.length) then
    modify fun shared => { shared with stopped := true }
  match before, after with
  | .ok before, .ok after => return (failure, before, after)
  | .error cause, _ => throw (.failure (.file cause))
  | _, .error cause => throw (.failure (.file cause))

/-- Prints the report of each kind with samples, and writes it if reports are wanted. -/
def reportSummaries (reportName : Option (String → String)) : List Summary → Running m Unit
  | [] => pure ()
  | summary :: summaries => do
    sayAll host summary.text
    match reportName with
    | none => pure ()
    | some reportName =>
      fileStep (host.write (reportName summary.kind.name) summary.csv)
    reportSummaries reportName summaries

def reportUsage (reportName : Option (String → String)) (before after : Usage) :
    Running m Unit := do
  match Consumption.between before after with
  | .error cause => throw (.panic cause)
  | .ok used =>
    sayAll host used.text
    match reportName with
    | none => pure ()
    | some reportName =>
      fileStep (host.write (reportName "rusage") used.csv)

def applyEngineOptions : List String → Running m Unit
  | [] => pure ()
  | option :: options => do
    demandCall host (.option option)
    applyEngineOptions options

def runOpened (name : String) (prepared : Prepared) (turns : Turns) :
    Running m (List Summary) := do
  let settings := prepared.settings
  applyEngineOptions host settings.engineOptions
  let reportName :=
    settings.reports.map fun start => Settings.reportName start name settings.durability.sync
  match reportName with
  | none => pure ()
  | some reportName =>
    let timeline := reportName "timeline"
    fileStep (host.create timeline)
    modify fun shared => { shared with hub := shared.hub.mirror ⟨timeline, none⟩ }
  let slots := prepared.plan.slots settings
  let (failure, before, after) ←
    match prepared.plan.single, slots with
    | true, slot :: _ => runSingle host prepared slot
    | _, slots => runThreads host prepared turns slots
  withHub host fun hub clock =>
    let (emission, hub) := hub.emit clock
    (.ok (some emission), hub)
  let summaries := (← get).hub.summaries
  reportSummaries host reportName summaries
  reportUsage host reportName before after
  match failure with
  | some cause => throw (.failure cause)
  | none =>
    if (← get).stopped then throw (.failure (.aborted .interrupted))
    return summaries

/-- A whole run.  The engine is closed even if the run failed, and a failure of the run takes
precedence over one of closing; only a panic leaves the engine open. -/
def runAll (name : String) (prepared : Prepared) (turns : Turns) : Running m (List Summary) := do
  fileStep (host.makeFolders prepared.settings.folder)
  demandCall host (.openStore prepared.settings.folder)
  let outcome ← attempt (runOpened host name prepared turns)
  let closing ← attempt (demandCall host .close)
  let summaries ← settle outcome
  settle closing
  return summaries

end Steps

end StoreBench.Run
