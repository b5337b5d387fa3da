import StoreBench.Proofs.Run.Relay
import StoreBench.Proofs.Run.Stages

/-! The end of a run.

Once the workers are done, the last line and the reports are printed, also for a run that failed.
Nothing is said to the engine then, and what may end the run early is known beforehand: a file that
cannot be written, or counters that leave their type.  So it is when the timeline is created.
-/

namespace StoreBench.Run

open StoreBench.Engine (Answer Call Exchange)
open StoreBench.Latency (Attendance Emission Hub Summary)

variable {W α β : Type} {host : Host (StateM W)} {record : W → List Exchange}
  {early : Stop → Prop} {ready : W → Prop}

/-- Steps that say nothing to the engine and leave the run alone and the world ready; they end early
only as allowed. -/
def Discreet (record : W → List Exchange) (early : Stop → Prop) (ready : W → Prop)
    (piece : Running (StateM W) α) : Prop :=
  ∀ shared world, ready world → Tells record piece shared world fun made result after left =>
    made = [] ∧ after = shared ∧ ready left ∧ ∀ stop, result = .error stop → early stop

namespace Discreet

theorem pure (value : α) : Discreet record early ready (Pure.pure value) :=
  fun _ _ good => Tells.pure ⟨rfl, rfl, good, by simp⟩

theorem throw {stop : Stop} (allowed : early stop) :
    Discreet record early ready (MonadExcept.throw stop : Running (StateM W) α) := by
  refine fun _ _ good => Tells.throw ⟨rfl, rfl, good, ?_⟩
  rintro _ ⟨⟩
  exact allowed

theorem bind {piece : Running (StateM W) α} {next : α → Running (StateM W) β}
    (first : Discreet record early ready piece)
    (rest : ∀ value, Discreet record early ready (next value)) :
    Discreet record early ready (piece >>= next) := by
  intro shared world good
  apply (first shared world good).bindFrom
  · rintro made stop after left ⟨rfl, rfl, still, ends⟩
    exact ⟨rfl, rfl, still, fun other same => ends other (by cases same; rfl)⟩
  · rintro made value after left ⟨rfl, rfl, still, _⟩
    exact rest value after left still

theorem lift {step : StateM W α} (silent : ∀ world, record (step world).2 = record world)
    (kept : ∀ world, ready world → ready (step world).2) :
    Discreet record early ready (liftM step : Running (StateM W) α) :=
  fun _ world good => Tells.lift (silent world) ⟨rfl, rfl, kept world good, by simp⟩

theorem fileStep {step : StateM W (Except FileError α)}
    (silent : ∀ world, record (step world).2 = record world)
    (kept : ∀ world, ready world → ready (step world).2 ∧
      ∀ cause, (step world).1 = .error cause → early (.failure (.file cause))) :
    Discreet record early ready (Run.fileStep step) := by
  intro shared world good
  obtain ⟨still, refused⟩ := kept world good
  unfold Run.fileStep
  apply Tells.bind
  apply Tells.lift (silent world)
  cases made : (step world).1 with
  | ok value => exact Tells.pure ⟨rfl, rfl, still, by simp⟩
  | error cause =>
      refine Tells.throw ⟨rfl, rfl, still, ?_⟩
      rintro _ ⟨⟩
      exact refused cause made

end Discreet

/-- Lines can be printed and reports under these names can be written, or fail as allowed. -/
structure Reporting (host : Host (StateM W)) (reportName : Option (String → String))
    (early : Stop → Prop) (ready : W → Prop) : Prop where
  say : ∀ line world, ready world → ready (host.say line world).2
  mirror : ∀ path text world, ready world → ready (host.mirror path text world).2
  create : ∀ name ∈ reportName, ∀ item world, ready world →
    ready (host.create (name item) world).2 ∧
      ∀ cause, (host.create (name item) world).1 = .error cause → early (.failure (.file cause))
  write : ∀ name ∈ reportName, ∀ item text world, ready world →
    ready (host.write (name item) text world).2 ∧
      ∀ cause, (host.write (name item) text world).1 = .error cause →
        early (.failure (.file cause))

namespace Reporting

variable {reportName : Option (String → String)}

theorem publish (reports : Reporting host reportName early ready) (emission : Emission)
    {world : W} (good : ready world) : ready (host.publish emission world).2 := by
  have lines : ready ((forIn emission.text PUnit.unit fun line (_ : PUnit) => do
      host.say line
      pure (.yield PUnit.unit) : StateM W PUnit) world).2 := by
    generalize emission.text = lines
    induction lines generalizing world with
    | nil => exact good
    | cons line lines ih =>
        rw [List.forIn_cons]
        exact ih (reports.say line world good)
  unfold Host.publish
  rcases mirror : emission.mirror with _ | sink
  · exact lines
  · exact reports.mirror sink emission.csv _ lines

theorem sayAll (reports : Reporting host reportName early ready) (heard : host.Heard record)
    (lines : List String) : Discreet record early ready (sayAll host lines) := by
  have all : Discreet record early ready (forIn lines PUnit.unit fun line (_ : PUnit) => do
      (host.say line : StateM W Unit)
      Pure.pure (.yield PUnit.unit) : Running (StateM W) PUnit) := by
    induction lines with
    | nil => exact .pure _
    | cons line lines ih =>
        rw [List.forIn_cons]
        apply Discreet.bind
        · exact (Discreet.lift (heard.say line) (reports.say line)).bind fun _ => .pure _
        · intro step
          cases step with
          | done value => exact .pure value
          | yield value => exact ih
  unfold Run.sayAll
  exact all.bind fun _ => .pure _

theorem create_discreet (reports : Reporting host reportName early ready) (heard : host.Heard record)
    {name : String → String} (named : name ∈ reportName) (item : String) :
    Discreet record early ready (fileStep (host.create (name item))) :=
  .fileStep (heard.create _) (reports.create name named item)

/-- A report is written to a file of its own, if reports are wanted. -/
theorem write_discreet (reports : Reporting host reportName early ready) (heard : host.Heard record)
    {name : String → String} (named : name ∈ reportName) (item text : String) :
    Discreet record early ready (fileStep (host.write (name item) text)) :=
  .fileStep (heard.write _ _) (reports.write name named item text)

theorem summaries (reports : Reporting host reportName early ready) (heard : host.Heard record)
    (summaries : List Summary) :
    Discreet record early ready (reportSummaries host reportName summaries) := by
  induction summaries with
  | nil => exact .pure _
  | cons summary summaries ih =>
      unfold reportSummaries
      apply (reports.sayAll heard summary.text).bind
      intro said
      cases reportName with
      | none => exact ih
      | some name =>
          exact (reports.write_discreet heard rfl _ summary.csv).bind fun _ => ih

theorem usage (reports : Reporting host reportName early ready) (heard : host.Heard record)
    {before after : Usage}
    (sums : ∀ cause, Consumption.between before after = .error cause → early (.panic cause)) :
    Discreet record early ready (reportUsage host reportName before after) := by
  unfold reportUsage
  rcases difference : Consumption.between before after with cause | used
  · exact .throw (sums cause difference)
  · apply (reports.sayAll heard used.text).bind
    intro said
    cases reportName with
    | none => exact .pure _
    | some name =>
        exact reports.write_discreet heard rfl "rusage" used.csv

/-- The timeline changes nothing of the hub but where its lines go. -/
theorem timeline (reports : Reporting host reportName early ready) (heard : host.Heard record)
    (shared : Shared) {world : W} (good : ready world) :
    Tells record (startTimeline host reportName) shared world fun made result after left =>
      made = [] ∧ ready left ∧ (∀ stop, result = .error stop → early stop) ∧
        after.stopped = shared.stopped ∧ Hub.Level shared.hub after.hub ∧
        ∀ {present : List Nat}, Attendance shared.hub present → Attendance after.hub present := by
  cases reportName with
  | none => exact Tells.pure ⟨rfl, good, by simp, rfl, .refl _, id⟩
  | some nameOf =>
      apply (reports.create_discreet heard rfl "timeline" shared world good).bindFrom
      · rintro made stop after left ⟨rfl, rfl, still, allowed⟩
        refine ⟨rfl, still, ?_, rfl, .refl _, id⟩
        rintro _ ⟨⟩
        exact allowed stop rfl
      · rintro made created after left ⟨rfl, rfl, still, _⟩
        apply Tells.modifies
        refine ⟨rfl, still, by simp, rfl, Hub.mirror_level _ _, fun attendance => ?_⟩
        exact attendance.congr rfl rfl rfl

end Reporting

/-- What a run comes to once its workers are done. -/
def outcomeOf (failure : Option Failure) (stopped : Bool) (value : α) : Except Failure α :=
  match failure with
  | some cause => .error cause
  | none => if stopped then .error (.aborted .interrupted) else .ok value

/-- The last line and the reports come before the result, whatever it is. -/
theorem runReports_tells (heard : host.Heard record) {reportName : Option (String → String)}
    (reports : Reporting host reportName early ready)
    {measured : Option Failure × Usage × Usage}
    (sums : ∀ cause, Consumption.between measured.2.1 measured.2.2 = .error cause →
      early (.panic cause))
    {shared : Shared} {world : W} (good : ready world) :
    Tells record (runReports host reportName measured) shared world fun made result after _ =>
      made = [] ∧ after.stopped = shared.stopped ∧
        ((∃ stop, result = .error stop ∧ early stop) ∨
          result =
            (outcomeOf measured.1 shared.stopped after.hub.summaries).mapError .failure) := by
  obtain ⟨failure, before, after⟩ := measured
  let emits := fun (hub : Hub) (clock : Nat) =>
    ((.ok (some (hub.emit clock).1), (hub.emit clock).2) :
      Except Panic (Option Emission) × Hub)
  have emitted : runFrom (withHub host emits) shared world =
      ((.ok (), { shared with hub := (shared.hub.emit shared.clock).2 }),
        (host.publish (shared.hub.emit shared.clock).1 world).2) := runFrom_withHub ..
  apply Tells.bind
  refine Tells.still emitted (heard.publishes _ world) ?_
  apply Tells.reads
  apply (reports.summaries heard _ _ _ (reports.publish _ good)).bindFrom
  · rintro made stop middle left ⟨rfl, rfl, _, allowed⟩
    exact ⟨rfl, rfl, .inl ⟨stop, rfl, allowed stop rfl⟩⟩
  rintro made done middle left ⟨rfl, rfl, good, _⟩
  apply (reports.usage heard sums _ _ good).bindFrom
  · rintro made stop middle left ⟨rfl, rfl, _, allowed⟩
    exact ⟨rfl, rfl, .inl ⟨stop, rfl, allowed stop rfl⟩⟩
  rintro made done middle left ⟨rfl, rfl, _, _⟩
  cases failure with
  | some cause => exact Tells.throw ⟨rfl, rfl, .inr rfl⟩
  | none =>
      apply Tells.reads
      dsimp only
      split
      · next stopped =>
        refine Tells.throw ⟨rfl, rfl, .inr ?_⟩
        rw [outcomeOf, if_pos stopped]
        rfl
      · next running =>
        refine Tells.pure ⟨rfl, rfl, .inr ?_⟩
        rw [outcomeOf, if_neg running]
        rfl

end StoreBench.Run
