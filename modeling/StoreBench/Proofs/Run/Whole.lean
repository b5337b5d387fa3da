import StoreBench.Proofs.Run.Stages
import StoreBench.Proofs.Run.Workers

/-! The whole run.

Whatever order the workers take their turns in, they leave the same behind.  After the turns come
the reports, and then the engine is closed.
-/

namespace StoreBench.Run

open StoreBench.Engine (Answers Call Ordered answers_close answers_open)
open StoreBench.Latency (Hub Recorder Summary)

theorem filterMap_getElem?_range {α : Type} (elements : List α) :
    (List.range elements.length).filterMap (elements[·]?) = elements := by
  induction elements with
  | nil => rfl
  | cons first elements ih =>
      have head : (first :: elements)[0]? = some first := rfl
      rw [List.length_cons, List.range_succ_eq_map, List.filterMap_cons_some head,
        List.filterMap_map]
      exact congrArg (first :: ·) ih

theorem perm_filterMap_getElem? {α : Type} {elements : List α} {order : List Nat}
    (perm : order.Perm (List.range elements.length)) :
    (order.filterMap (elements[·]?)).Perm elements :=
  (perm.filterMap _).trans (.of_eq (filterMap_getElem?_range elements))

theorem forall₂_filterMap_getElem? {α β : Type} {related : α → β → Prop} {left : List α}
    {right : List β} (all : List.Forall₂ related left right) (order : List Nat) :
    List.Forall₂ related (order.filterMap (left[·]?)) (order.filterMap (right[·]?)) := by
  have found (place : Nat) : Option.Rel related left[place]? right[place]? := by
    induction all generalizing place with
    | nil => exact .none
    | cons first _ ih =>
        cases place with
        | zero => exact .some first
        | succ place => exact ih place
  induction order with
  | nil => exact .nil
  | cons place order ih =>
      have both := found place
      rcases here : left[place]? with _ | one
      · rcases there : right[place]? with _ | other
        · rw [List.filterMap_cons_none here, List.filterMap_cons_none there]
          exact ih
        · rw [here, there] at both
          cases both
      · rcases there : right[place]? with _ | other
        · rw [here, there] at both
          cases both
        · rw [here, there] at both
          cases both with
          | some pair =>
              rw [List.filterMap_cons_some here, List.filterMap_cons_some there]
              exact .cons pair ih

variable {W : Type}

namespace Scene

variable {scene : Scene W} {points : Set Nat} {rest : Kind → Nat} {recorders : List Recorder}
  {shared : Shared} {world : W} {prepared : Prepared} {slots : List Slot} {slot : Slot}

/-- How the workers ended: they did their work, or one that failed stopped the run. -/
def Ended (scene : Scene W) (points : Set Nat) (failure : Option Failure) (shared : Shared)
    (world : W) : Prop :=
  match failure with
  | none => scene.Done points shared world
  | some _ => scene.Wrong True shared world

theorem ended_steady (scene : Scene W) (points : Set Nat) (failure : Option Failure) :
    scene.Steady (scene.Ended points failure) := by
  cases failure with
  | none => exact scene.done_steady points
  | some cause => exact scene.wrong_steady True

theorem Open.done (opened : scene.Open points rest recorders shared world) :
    scene.Done points shared world :=
  ⟨opened.holds, opened.charged, fun _ => opened.running⟩

theorem Ended.stop {failure : Option Failure} (ended : scene.Ended points failure shared world)
    (unsure : ¬ scene.sure) :
    scene.Ended points failure { shared with stopped := true } world := by
  cases failure with
  | none => exact ⟨ended.holds, ended.charged, fun sure => absurd sure unsure⟩
  | some cause => exact ⟨ended.1, fun _ => rfl⟩

/-- What the workers report, with the counters before and after. -/
def Measured (scene : Scene W) (points : Set Nat) (ended : Option Failure × Usage × Usage)
    (shared : Shared) (world : W) : Prop :=
  (scene.sure → ended.2.1.Modest ∧ ended.2.2.Modest) ∧ scene.Ended points ended.1 shared world

theorem breaking_goes {α : Type} {failure : Option Failure} {broken : Prop} [Decidable broken]
    {ending : Piece W Shared α} {post : α → Shared → W → Prop}
    (unbroken : scene.sure → ¬ broken)
    (ends : scene.Goes (scene.Ended points failure) ending post) :
    scene.Goes (scene.Ended points failure)
      (if broken then do
        modify fun shared => { shared with stopped := true }
        ending
      else ending) post := by
  split
  · next breaks =>
      exact Ensures.bind (m := fun _ => scene.Ended points failure)
        (Ensures.modify fun _ _ ended => ended.stop fun sure => unbroken sure breaks) fun _ => ends
  · exact ends

theorem needs_perm {left right : List Slot} (same : left.Perm right) :
    scene.needs left = scene.needs right :=
  (same.map _).sum_eq

theorem runThreads_goes (settings : prepared.settings = scene.settings)
    (shape : prepared.shape = scene.shape) (lots : scene.Lots slots) (turns : Turns)
    (unbroken : scene.sure → turns.broken = [])
    (order : turns.order.Perm (List.range slots.length)) :
    scene.Goes (scene.Open ∅ (scene.needs slots) [])
      (runThreads scene.host prepared turns slots)
      (scene.Measured (scene.leaves (turns.order.filterMap (slots[·]?)) ∅)) := by
  unfold runThreads
  rw [settings]
  refine Ensures.bind (enlistAll_goes settings shape lots (List.Subset.refl slots) 0)
    fun workers => ?_
  refine Ensures.learn fun seated => ?_
  refine Ensures.bind ((scene.open_steady _ _ _).lifts scene.measure_reliable) fun before => ?_
  refine Ensures.learn fun servesBefore => ?_
  have count : workers.length = slots.length := seated.length_eq.symm
  have permuted := perm_filterMap_getElem? order
  have turned := forall₂_filterMap_getElem? seated turns.order
  have works := @threadTurns_goes W scene ∅ 0 prepared slots settings lots _
    permuted.subset (fun _ member => by cases member) _ turned
  rw [zero_add, needs_perm permuted] at works
  have recorders : ((turns.order.filterMap (workers[·]?)).map (·.recorder)).Perm
      (workers.map (·.recorder)) :=
    (perm_filterMap_getElem? (count.symm ▸ order)).map _
  refine Ensures.bind (m := scene.Ended (scene.leaves (turns.order.filterMap (slots[·]?)) ∅))
    ((works.before ?_).after ?_) fun failure => ?_
  · intro shared world opened
    exact { opened with booked := fun fine => (opened.booked fine).perm recorders.symm }
  · intro failure shared world ended
    cases failure with
    | none => exact ended.done
    | some cause => exact ended
  have steady := scene.ended_steady (scene.leaves (turns.order.filterMap (slots[·]?)) ∅) failure
  refine Ensures.bind (steady.lifts scene.measure_reliable) fun after => ?_
  refine Ensures.learn fun servesAfter => ?_
  have whole : scene.sure → ¬ turns.broken.any (· < workers.length) = true := by
    intro sure breaks
    rw [unbroken sure] at breaks
    cases breaks
  rcases before with cause | before
  · dsimp only
    refine breaking_goes whole (Ensures.throw fun shared world ended => ?_)
    refine steady.spoils shared world ended fun fine => ?_
    obtain ⟨_, impossible, _⟩ := servesBefore fine.sure
    cases impossible
  · rcases after with cause | after
    · dsimp only
      refine breaking_goes whole (Ensures.throw fun shared world ended => ?_)
      refine steady.spoils shared world ended fun fine => ?_
      obtain ⟨_, impossible, _⟩ := servesAfter fine.sure
      cases impossible
    · dsimp only
      refine breaking_goes whole (Ensures.pure fun _ _ ended => ⟨fun sure => ?_, ended⟩)
      obtain ⟨_, first, modest⟩ := servesBefore sure
      obtain ⟨_, second, modestToo⟩ := servesAfter sure
      cases first
      cases second
      exact ⟨modest, modestToo⟩

theorem runSingle_goes (settings : prepared.settings = scene.settings)
    (shape : prepared.shape = scene.shape) (lots : scene.Lots [slot]) :
    scene.Goes (scene.Open ∅ (scene.needs [slot]) []) (runSingle scene.host prepared slot)
      (scene.Measured (scene.leaves [slot] ∅)) := by
  unfold runSingle
  rw [settings]
  refine Ensures.bind (enlistSlot_goes settings shape lots List.mem_cons_self 0)
    fun worker => ?_
  refine Ensures.learn fun seated => ?_
  refine Ensures.bind ((scene.open_steady _ _ _).lifts scene.measure_reliable) fun before => ?_
  refine Ensures.learn fun servesBefore => ?_
  rcases before with cause | before
  · refine Ensures.bind (m := fun _ => scene.Open ∅ (scene.needs [slot]) [])
      (dismiss_goes.before fun _ _ opened => ⟨seated.settled, opened⟩) fun _ => ?_
    refine Ensures.throw fun shared world opened => opened.holds.spoil fun fine => ?_
    obtain ⟨_, impossible, _⟩ := servesBefore fine.sure
    cases impossible
  · have need : scene.needs [slot] = 0 + scene.settings.passes • scene.need slot := by
      rw [needs, List.map_singleton, List.sum_singleton, zero_add]
    rw [need]
    have works := @fulfil_goes W scene slot [] ∅ 0 0
      (lots.passable List.mem_cons_self fun _ member => by cases member) lots.repeats
      lots.countable
    refine Ensures.bind ((turnOf_ends works).before fun _ _ opened => opened.sit seated)
      fun ended => ?_
    obtain ⟨result, worker⟩ := ended
    have measures {describes : Shared → W → Prop} (steady : scene.Steady describes)
        (failure : Option Failure) (ends : ∀ shared world, describes shared world →
          scene.Ended (scene.leaves [slot] ∅) failure shared world) :
        scene.Goes describes
          (do
            let after ← fileStep (scene.host.measure scene.settings.folder)
            return (failure, before, after))
          (scene.Measured (scene.leaves [slot] ∅)) := by
      refine Ensures.bind (steady.fileStep scene.measure_reliable) fun after => ?_
      refine Ensures.learn fun modest => ?_
      refine Ensures.pure fun shared world holds => ⟨fun sure => ?_, ends shared world holds⟩
      obtain ⟨_, same, modestToo⟩ := servesBefore sure
      cases same
      exact ⟨modestToo, modest sure⟩
    rcases result with (cause | cause) | done
    · refine Ensures.bind ((dismiss_wrong True worker).before fun _ _ wrong =>
        ⟨wrong.1, fun _ => wrong.2 ⟨cause, rfl⟩⟩) fun _ => ?_
      exact measures (scene.wrong_steady True) (some cause) fun _ _ wrong => wrong
    · refine Ensures.bind ((dismiss_wrong False worker).before fun _ _ wrong =>
        ⟨wrong.1, False.elim⟩) fun _ => ?_
      exact Ensures.throw fun _ _ wrong => wrong.1
    · refine Ensures.bind (dismiss_goes.before fun _ _ between => Between.leave between)
        fun _ => ?_
      exact measures (scene.open_steady _ _ _) none fun _ _ opened => opened.done

theorem difference_modest {finish start : Nat} (finishFits : finish < 2 ^ 63)
    (startFits : start < 2 ^ 63) : ∃ change, difference finish start = .ok change := by
  have plain {counter : Nat} (fits : counter < 2 ^ 63) : signed counter = counter := by
    have low : counter % wordLimit = counter := Nat.mod_eq_of_lt (by unfold wordLimit; omega)
    unfold signed
    rw [low]
    exact if_pos (by unfold wordLimit; omega)
  refine ⟨signed finish - signed start, ?_⟩
  unfold difference
  rw [plain finishFits, plain startFits]
  dsimp only
  rw [if_neg]
  simp only [Bool.or_eq_true, decide_eq_true_eq]
  omega

theorem between_modest {before after : Usage} (first : before.Modest) (second : after.Modest) :
    ∃ used, Consumption.between before after = .ok used := by
  obtain ⟨_, blocksRead⟩ := difference_modest second.blocksRead first.blocksRead
  obtain ⟨_, blocksWritten⟩ := difference_modest second.blocksWritten first.blocksWritten
  obtain ⟨_, pageFaults⟩ := difference_modest second.pageFaults first.pageFaults
  obtain ⟨_, userTime⟩ := difference_modest second.userTime first.userTime
  obtain ⟨_, systemTime⟩ := difference_modest second.systemTime first.systemTime
  obtain ⟨_, disk⟩ := difference_modest second.disk first.disk
  obtain ⟨_, memory⟩ := difference_modest second.memory first.memory
  unfold Consumption.between
  rw [blocksRead, blocksWritten, pageFaults, userTime, systemTime, disk, memory]
  exact ⟨_, rfl⟩

/-- The reports that are wanted can be created and written, if that is sure. -/
def Reports (scene : Scene W) (reportName : Option (String → String)) : Prop :=
  ∀ nameOf ∈ reportName, ∀ item, scene.Reliable (scene.host.create (nameOf item)) (fun _ => True) ∧
    ∀ text, scene.Reliable (scene.host.write (nameOf item) text) fun _ => True

section Reports

variable {describes : Shared → W → Prop} {reportName : Option (String → String)}

theorem Steady.summaries (steady : scene.Steady describes) (reports : scene.Reports reportName)
    (summaries : List Summary) :
    scene.Goes describes (reportSummaries scene.host reportName summaries)
      fun _ => describes := by
  induction summaries with
  | nil => exact Ensures.pure fun _ _ holds => holds
  | cons summary summaries ih =>
      unfold reportSummaries
      refine Ensures.bind (steady.prints summary.text) fun _ => ?_
      cases reportName with
      | none => exact ih
      | some nameOf =>
          have writes := (reports nameOf rfl summary.kind.name).2 summary.csv
          exact Ensures.bind (steady.fileStep writes) fun _ => ih.before fun _ _ given => given.2

theorem Steady.usage (steady : scene.Steady describes) (reports : scene.Reports reportName)
    {before after : Usage} (modest : scene.sure → before.Modest ∧ after.Modest) :
    scene.Goes describes (reportUsage scene.host reportName before after) fun _ => describes := by
  unfold reportUsage
  rcases consumed : Consumption.between before after with cause | used
  · refine Ensures.throw fun shared world holds => steady.spoils shared world holds fun fine => ?_
    obtain ⟨first, second⟩ := modest fine.sure
    obtain ⟨used, possible⟩ := between_modest first second
    rw [consumed] at possible
    cases possible
  · refine Ensures.bind (steady.prints used.text) fun _ => ?_
    cases reportName with
    | none => exact Ensures.pure fun _ _ holds => holds
    | some nameOf =>
        have writes := (reports nameOf rfl "rusage").2 used.csv
        exact (steady.fileStep writes).after fun _ _ _ given => given.2

end Reports

/-- The coordinates that a run leaves in the store. -/
def final (scene : Scene W) (slots : List Slot) : Set Nat :=
  { point | scene.settings.selected.keeps = true ∧ ∃ slot ∈ slots, point ∈ scene.region slot }

theorem leaves_eq (closed : scene.settings.selected.Closed) (order : List Slot) :
    scene.leaves order ∅ = scene.final order := by
  rcases keeps : scene.settings.selected.keeps with _ | _
  · have nothing : scene.final order = ∅ := by
      ext point
      simp [final, keeps]
    have same (slot : Slot) : scene.passed slot ∅ = ∅ := by
      rw [passed, throughout_eq closed, keeps]
      simp
    rw [nothing]
    induction order with
    | nil => rfl
    | cons slot order ih =>
        rw [leaves, List.foldl_cons, same]
        exact ih (by ext point; simp [final, keeps])
  · have grows (slot : Slot) (points : Set Nat) :
        scene.passed slot points = points ∪ scene.region slot := by
      rw [passed, throughout_eq closed, keeps, if_pos rfl]
    have all (points : Set Nat) : scene.leaves order points = points ∪ scene.final order := by
      induction order generalizing points with
      | nil =>
          ext point
          simp [leaves, final]
      | cons slot order ih =>
          rw [leaves, List.foldl_cons, grows, ← leaves, ih]
          ext point
          simp [final, keeps, or_assoc]
    rw [all, Set.empty_union]

theorem final_perm {left right : List Slot} (same : left.Perm right) :
    scene.final left = scene.final right := by
  ext point
  simp only [final, Set.mem_ofPred_eq, same.mem_iff]

/-- The run is done, and the summaries tell of samples that were all charged alike. -/
structure Told (scene : Scene W) (points : Set Nat) (summaries : List Summary) (shared : Shared)
    (world : W) : Prop where
  done : scene.Done points shared world
  volumes : ∀ summary ∈ summaries,
    summary.volume = summary.count * scene.settings.bytes summary.kind

theorem runReports_goes {reportName : Option (String → String)} (reports : scene.Reports reportName)
    (measured : Option Failure × Usage × Usage) :
    scene.Goes (scene.Measured points measured) (runReports scene.host reportName measured)
      (scene.Told points) := by
  obtain ⟨failure, before, after⟩ := measured
  refine Ensures.learn fun modest => ?_
  have steady := scene.ended_steady points failure
  have keeps (shared : Shared) (hub : Hub) (level : shared.hub.Level hub) (world : W)
      (ended : scene.Ended points failure shared world) :
      scene.Ended points failure { shared with hub } world := by
    cases failure with
    | none => exact { ended with charged := level.charged ended.charged }
    | some cause => exact ended
  refine Ensures.bind (steady.changes (fun _ _ _ _ => ⟨_, rfl⟩)
    fun shared world ended => keeps shared _ (shared.hub.emit_level _) world ended) fun _ => ?_
  refine Ensures.reads (p := fun found => failure = none →
    found.hub.Charged scene.settings.selected scene.settings.bytes) ?_ fun found charged => ?_
  · intro shared world ended none
    subst none
    exact ended.charged
  refine Ensures.bind (steady.summaries reports _) fun _ => ?_
  refine Ensures.bind (steady.usage reports modest) fun _ => ?_
  cases failure with
  | some cause => exact Ensures.throw fun _ _ wrong => wrong.1
  | none =>
      refine Ensures.reads (p := fun found => scene.sure → found.stopped = false)
        (fun _ _ done => done.running) fun found running => ?_
      dsimp only
      split
      · next stopped =>
        refine Ensures.bind (m := fun _ _ _ => False) (Ensures.throw ?_)
          fun _ _ _ impossible => impossible.elim
        refine fun _ _ done => done.holds.spoil fun fine => ?_
        rw [running fine.sure] at stopped
        cases stopped
      · exact Ensures.pure fun _ _ done => ⟨done, fun _ => (charged rfl).summary⟩

theorem runTurns_goes (settings : prepared.settings = scene.settings)
    (shape : prepared.shape = scene.shape)
    (lots : scene.Lots (prepared.plan.slots scene.settings)) (turns : Turns)
    (unbroken : scene.sure → turns.broken = [])
    (order : turns.order.Perm (List.range (prepared.plan.slots scene.settings).length)) :
    scene.Goes (scene.Open ∅ (scene.needs (prepared.plan.slots scene.settings)) [])
      (runTurns scene.host prepared turns)
      (scene.Measured (scene.final (prepared.plan.slots scene.settings))) := by
  cases single : prepared.plan.single with
  | false =>
      have threads := runThreads_goes settings shape lots turns unbroken order
      rw [leaves_eq lots.closed, final_perm (perm_filterMap_getElem? order)] at threads
      rw [runTurns_threads scene.host single, settings]
      exact threads
  | true =>
      rw [runTurns_single scene.host single, settings]
      rw [Plan.slots_single single] at lots ⊢
      have alone := runSingle_goes settings shape lots
      rw [leaves_eq lots.closed] at alone
      exact alone

theorem startTimeline_goes {reportName : Option (String → String)}
    (reports : scene.Reports reportName) (needs : Kind → Nat) :
    scene.Goes (scene.Open ∅ needs []) (startTimeline scene.host reportName)
      fun _ => scene.Open ∅ needs [] := by
  have steady := scene.open_steady ∅ needs []
  cases reportName with
  | none => exact Ensures.pure fun _ _ opened => opened
  | some nameOf =>
      refine Ensures.bind (steady.fileStep (reports _ rfl "timeline").1) fun _ => ?_
      refine Ensures.modify fun shared world given => ?_
      exact
        { given.2 with
          charged := (shared.hub.mirror_level _).charged given.2.charged
          booked := fun fine => (given.2.booked fine).mirror fine.1 fine.2 _ }

theorem runOpened_goes (settings : prepared.settings = scene.settings)
    (shape : prepared.shape = scene.shape)
    (lots : scene.Lots (prepared.plan.slots scene.settings)) (turns : Turns)
    (unbroken : scene.sure → turns.broken = [])
    (order : turns.order.Perm (List.range (prepared.plan.slots scene.settings).length)) :
    scene.Goes (scene.Open ∅ (scene.needs (prepared.plan.slots scene.settings)) [])
      (runOpened scene.host scene.name prepared turns)
      (scene.Told (scene.final (prepared.plan.slots scene.settings))) := by
  have reports : scene.Reports (reportNames scene.settings scene.name) := by
    intro nameOf member item
    obtain ⟨start, wanted, rfl⟩ := Option.map_eq_some_iff.mp member
    exact ⟨scene.create_reliable wanted item, scene.write_reliable wanted item⟩
  rw [runOpened_eq, runWorkers, settings, scene.optionless]
  refine Ensures.bind ?_ fun measured => runReports_goes reports measured
  refine Ensures.bind (m := fun _ =>
    scene.Open ∅ (scene.needs (prepared.plan.slots scene.settings)) [])
    (Ensures.pure fun _ _ opened => opened) fun _ => ?_
  refine Ensures.bind (startTimeline_goes reports _) fun _ => ?_
  exact runTurns_goes settings shape lots turns unbroken order

theorem demandCall_goes {call : Call} {describes : Shared → W → Prop}
    (keeps : ∀ shared world, describes shared world →
      (scene.host.engine call world).1.reply = .success ∧
        describes (shared.afterAnswer (scene.host.engine call world).1)
          (scene.host.engine call world).2) :
    scene.Goes describes (demandCall scene.host call) fun _ => describes := by
  unfold demandCall
  refine Ensures.bind (m := fun answer shared world => answer.reply = .success ∧
    describes (shared.afterAnswer answer) world) (Ensures.lift ?_) fun answer => ?_
  · exact fun shared world holds => keeps shared world holds
  · refine Ensures.learn fun reply => ?_
    refine Ensures.bind (m := fun _ => describes) (Ensures.modify fun _ _ holds => holds)
      fun _ => ?_
    rw [reply]
    exact Ensures.pure fun _ _ holds => holds

theorem Holds.succeeds (holds : scene.Holds points world) {call : Call}
    (answers : Answers scene.shape scene.settings.valueSize points call (· = .ok .empty) points) :
    (scene.host.engine call world).1.reply = .success ∧
      (scene.host.engine call world).1.interrupted = false ∧
      scene.window.time (scene.host.engine call world).2 =
        scene.window.time world + (scene.host.engine call world).1.took ∧
      scene.Holds points (scene.host.engine call world).2 := by
  obtain ⟨_, reply, rfl, uninterrupted, next⟩ := holds.call answers (by
    intro _ same
    obtain rfl := same
    exact Engine.Entry.missesKey_ok call .empty)
  exact ⟨reply, uninterrupted, next⟩

theorem runAll_goes (settings : prepared.settings = scene.settings)
    (shape : prepared.shape = scene.shape)
    (lots : scene.Lots (prepared.plan.slots scene.settings)) (turns : Turns)
    (unbroken : scene.sure → turns.broken = [])
    (order : turns.order.Perm (List.range (prepared.plan.slots scene.settings).length)) :
    scene.Goes (scene.Open ∅ (scene.needs (prepared.plan.slots scene.settings)) [])
      (runAll scene.host scene.name prepared turns)
      (scene.Told (scene.final (prepared.plan.slots scene.settings))) := by
  unfold runAll
  rw [settings]
  refine Ensures.bind ((scene.open_steady _ _ _).fileStep scene.makeFolders_reliable) fun _ => ?_
  refine Ensures.learn fun _ => ?_
  refine Ensures.bind (demandCall_goes ?_) fun _ => ?_
  · intro shared world opened
    obtain ⟨reply, uninterrupted, time, holds⟩ := opened.holds.succeeds (answers_open _)
    refine ⟨reply, { opened with holds, running := ?_, booked := fun fine => ?_ }⟩
    · simp [Shared.afterAnswer, opened.running, uninterrupted]
    · rw [time]
      exact (opened.booked (fine.before time)).pass (Nat.zero_le _)
  · refine Ensures.bind (attempt_ensures
      (runOpened_goes settings shape lots turns unbroken order) fun _ _ _ spoiled => spoiled)
      fun outcome => ?_
    cases outcome with
    | ok summaries =>
        have closes : scene.Goes
            (scene.Told (scene.final (prepared.plan.slots scene.settings)) summaries)
            (demandCall scene.host .close)
            fun _ => scene.Told (scene.final (prepared.plan.slots scene.settings))
              summaries := by
          refine demandCall_goes fun shared world told => ?_
          obtain ⟨reply, uninterrupted, _, holds⟩ := told.done.holds.succeeds answers_close
          refine ⟨reply, ⟨holds, told.done.charged, fun sure => ?_⟩, told.volumes⟩
          simp [Shared.afterAnswer, told.done.running sure, uninterrupted]
        refine Ensures.bind (attempt_ensures closes fun _ _ _ spoiled => spoiled) fun closing => ?_
        refine Ensures.bindTo (Ensures.pure fun _ _ closed => ⟨rfl, closed⟩) ?_
        cases closing with
        | ok done =>
            exact Ensures.bindTo (Ensures.pure fun _ _ done => ⟨rfl, done⟩)
              (Ensures.pure fun _ _ done => done)
        | error cause =>
            exact Ensures.bind (m := fun _ _ _ => False) (Ensures.throw fun _ _ spoiled => spoiled)
              fun _ _ _ impossible => impossible.elim
    | error cause =>
        have closes : scene.Goes (fun _ world => scene.Spoiled world)
            (demandCall scene.host .close) fun _ _ world => scene.Spoiled world := by
          refine demandCall_goes fun shared world spoiled => ?_
          have answered (engine : Ordered) : (engine.answer .close).1 = .success := rfl
          obtain ⟨reply, _, next⟩ := spoiled.call answered
          exact ⟨reply, next⟩
        refine Ensures.bind (m := fun _ _ world => scene.Spoiled world)
          ((attempt_ensures closes fun _ _ _ spoiled => spoiled).after ?_) fun closing => ?_
        · intro closing shared world ended
          cases closing with
          | ok done => exact ended
          | error cause => exact ended
        · exact Ensures.bind (m := fun _ _ _ => False) (Ensures.throw fun _ _ spoiled => spoiled)
            fun _ _ _ impossible => impossible.elim

end Scene

end StoreBench.Run
