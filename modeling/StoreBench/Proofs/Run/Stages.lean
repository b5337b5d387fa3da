import StoreBench.Run.Runner

/-! The stages of a run on an open engine.

First come the options of the engine, the timeline and the turns of the workers, then the last line
and the reports; a run is these stages one after the other.
-/

namespace StoreBench.Run

open StoreBench.Latency (Summary)

/-- Where the reports of a run go. -/
def reportNames (settings : Settings) (name : String) : Option (String → String) :=
  settings.reports.map fun start => Settings.reportName start name settings.durability.sync

theorem Plan.slots_single {settings : Settings} {plan : Plan} (alone : plan.single = true) :
    plan.slots settings = [⟨plan.selected, 0, 0, settings.count⟩] := by
  rw [slots, if_pos alone]

section Stages

variable {m : Type → Type} [Monad m] (host : Host m)

/-- The timeline is a report of its own, and the hub writes to it from the start. -/
def startTimeline : Option (String → String) → Running m Unit
  | none => pure ()
  | some reportName => do
    fileStep (host.create (reportName "timeline"))
    modify fun shared => { shared with hub := shared.hub.mirror ⟨reportName "timeline", none⟩ }

/-- The turns of all workers: the only one runs on the calling thread. -/
def runTurns (prepared : Prepared) (turns : Turns) :
    Running m (Option Failure × Usage × Usage) :=
  match prepared.plan.single, prepared.plan.slots prepared.settings with
  | true, slot :: _ => runSingle host prepared slot
  | _, slots => runThreads host prepared turns slots

/-- The stages up to the end of the workers. -/
def runWorkers (name : String) (prepared : Prepared) (turns : Turns) :
    Running m (Option Failure × Usage × Usage) := do
  applyEngineOptions host prepared.settings.engineOptions
  startTimeline host (reportNames prepared.settings name)
  runTurns host prepared turns

/-- The last line, the reports, and the failure of the workers if there is one. -/
def runReports (reportName : Option (String → String))
    (measured : Option Failure × Usage × Usage) : Running m (List Summary) := do
  withHub host fun hub clock =>
    let (emission, hub) := hub.emit clock
    (.ok (some emission), hub)
  let summaries := (← get).hub.summaries
  reportSummaries host reportName summaries
  reportUsage host reportName measured.2.1 measured.2.2
  match measured.1 with
  | some cause => throw (.failure cause)
  | none =>
    if (← get).stopped then throw (.failure (.aborted .interrupted))
    return summaries

theorem runTurns_single {prepared : Prepared} (alone : prepared.plan.single = true)
    (turns : Turns) :
    runTurns host prepared turns =
      runSingle host prepared ⟨prepared.plan.selected, 0, 0, prepared.settings.count⟩ := by
  rw [runTurns, alone, Plan.slots_single alone]

theorem runTurns_threads {prepared : Prepared} (threaded : prepared.plan.single = false)
    (turns : Turns) :
    runTurns host prepared turns =
      runThreads host prepared turns (prepared.plan.slots prepared.settings) := by
  rw [runTurns, threaded]

theorem runOpened_eq [LawfulMonad m] (name : String) (prepared : Prepared) (turns : Turns) :
    runOpened host name prepared turns =
      runWorkers host name prepared turns >>=
        runReports host (reportNames prepared.settings name) := by
  unfold runOpened runWorkers runTurns runReports reportNames
  dsimp only
  rw [bind_assoc]
  congr 1
  funext _
  generalize prepared.settings.reports.map (fun start =>
    Settings.reportName start name prepared.settings.durability.sync) = reportName
  cases reportName with
  | none =>
      rw [startTimeline, pure_bind]
      cases prepared.plan.single with
      | false => rfl
      | true => cases prepared.plan.slots prepared.settings <;> rfl
  | some nameOf =>
      simp only [startTimeline, bind_assoc]
      cases prepared.plan.single with
      | false => rfl
      | true => cases prepared.plan.slots prepared.settings <;> rfl

end Stages

end StoreBench.Run
