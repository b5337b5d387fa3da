import StoreBench.Proofs.Run.Counting
import StoreBench.Proofs.Run.Shares

/-! The course of a run.

What a run does outside the workers' turns leaves the samples of the hub alone, and once the run is
stopped, it stays so.  A run that ends well was never stopped, and so no worker of it was halted.
-/

namespace StoreBench.Run

open StoreBench.Engine (Answer Call Exchange taken)
open StoreBench.Latency (Emission Hub Summary)

variable {W α β : Type} {host : Host (StateM W)}

/-- The record of the world of a host lists what was said to the engine, and nothing else. -/
structure Host.Heard (host : Host (StateM W)) (record : W → List Exchange) : Prop where
  engine : ∀ call world, record (host.engine call world).2 =
    record world ++ [⟨call, (host.engine call world).1⟩]
  say : ∀ line world, record (host.say line world).2 = record world
  makeFolders : ∀ path world, record (host.makeFolders path world).2 = record world
  create : ∀ path world, record (host.create path world).2 = record world
  append : ∀ path text world, record (host.append path text world).2 = record world
  mirror : ∀ path text world, record (host.mirror path text world).2 = record world
  measure : ∀ path world, record (host.measure path world).2 = record world

theorem Host.Heard.says {record : W → List Exchange} (heard : host.Heard record)
    (lines : List String) (world : W) :
    record ((forIn lines PUnit.unit fun line (_ : PUnit) => do
      host.say line
      pure (.yield PUnit.unit) : StateM W PUnit) world).2 = record world := by
  induction lines generalizing world with
  | nil => rfl
  | cons line lines ih =>
      rw [List.forIn_cons]
      exact (ih _).trans (heard.say line world)

theorem Host.Heard.publishes {record : W → List Exchange} (heard : host.Heard record)
    (emission : Emission) (world : W) : record (host.publish emission world).2 = record world := by
  have lines := heard.says emission.text world
  unfold Host.publish
  rcases mirror : emission.mirror with _ | sink
  · exact lines
  · exact (heard.mirror sink emission.csv _).trans lines

theorem Host.Heard.write {record : W → List Exchange} (heard : host.Heard record)
    (path text : String) (world : W) : record (host.write path text world).2 = record world := by
  have created := heard.create path world
  rw [host.write_eq]
  cases (host.create path world).1 with
  | ok done => exact (heard.append path text _).trans created
  | error cause => exact created

theorem Host.Heard.stage {record : W → List Exchange} (heard : host.Heard record) :
    host.stage.Heard record where
  engine := heard.engine
  publish := heard.publishes

/-- Steps around the workers, whatever panics they end in. -/
def Around (host : Host (StateM W)) (piece : Running (StateM W) α) (shared : Shared)
    (post : List Exchange → Except Failure α → Shared → Prop) : Prop :=
  Yields host.Heard anyhow piece shared post

/-- Steps that say nothing and leave the state of the run alone. -/
def Silent (host : Host (StateM W)) (piece : Running (StateM W) α) : Prop :=
  ∀ shared, Around host piece shared fun made _ after => made = [] ∧ after = shared

namespace Silent

theorem pure (value : α) : Silent host (Pure.pure value) := fun _ => Yields.pure ⟨rfl, rfl⟩

theorem throw (stop : Stop) : Silent host (MonadExcept.throw stop : Running (StateM W) α) := by
  intro shared
  cases stop with
  | failure cause => exact Yields.fails ⟨rfl, rfl⟩
  | panic cause => exact Yields.panics trivial

theorem lift {step : StateM W α} (quiet : ∀ record, host.Heard record → ∀ world,
    record (step world).2 = record world) :
    Silent host (liftM step : Running (StateM W) α) :=
  fun _ => Yields.lift quiet fun _ => ⟨rfl, rfl⟩

theorem bind {piece : Running (StateM W) α} {next : α → Running (StateM W) β}
    (first : Silent host piece) (rest : ∀ value, Silent host (next value)) :
    Silent host (piece >>= next) := by
  intro shared
  apply (first shared).bindFrom
  · rintro made cause after ⟨rfl, rfl⟩
    exact ⟨rfl, rfl⟩
  · rintro made value after ⟨rfl, rfl⟩
    exact rest value after

theorem fileStep {step : StateM W (Except FileError α)} (quiet : ∀ record, host.Heard record →
    ∀ world, record (step world).2 = record world) : Silent host (Run.fileStep step) := by
  unfold Run.fileStep
  apply bind (lift quiet)
  intro result
  cases result with
  | ok value => exact pure value
  | error cause => exact throw _

theorem sayAll (lines : List String) : Silent host (Run.sayAll host lines) := by
  have all : Silent host (forIn lines PUnit.unit fun line (_ : PUnit) => do
      (host.say line : StateM W Unit)
      Pure.pure (.yield PUnit.unit) : Running (StateM W) PUnit) := by
    induction lines with
    | nil => exact pure _
    | cons line lines ih =>
        rw [List.forIn_cons]
        apply bind
        · exact bind (lift fun record heard => heard.say line) fun _ => pure _
        · intro step
          cases step with
          | done value => exact pure value
          | yield value => exact ih
  unfold Run.sayAll
  exact bind all fun _ => pure _

theorem reportSummaries (reportName : Option (String → String)) (summaries : List Summary) :
    Silent host (Run.reportSummaries host reportName summaries) := by
  induction summaries with
  | nil => exact pure _
  | cons summary summaries ih =>
      unfold Run.reportSummaries
      apply bind (sayAll summary.text)
      intro said
      cases reportName with
      | none => exact ih
      | some reportName =>
          exact bind (fileStep fun record heard => heard.write _ _) fun _ => ih

theorem reportUsage (reportName : Option (String → String)) (before after : Usage) :
    Silent host (Run.reportUsage host reportName before after) := by
  unfold Run.reportUsage
  rcases Consumption.between before after with cause | used
  · exact throw _
  · apply bind (sayAll used.text)
    intro said
    cases reportName with
    | none => exact pure _
    | some reportName =>
        exact fileStep fun record heard => heard.write _ _

end Silent

/-- The hub gained the samples that some exchanges show, and the run was not resumed. -/
structure Leads (made : List Exchange) (before after : Shared) : Prop where
  running : after.stopped = false → before.stopped = false
  enabled : ∀ kind, (after.hub.accounts.get kind).enabled = (before.hub.accounts.get kind).enabled
  count : ∀ kind, (before.hub.accounts.get kind).enabled = true →
    (after.hub.accounts.get kind).total.count =
      (before.hub.accounts.get kind).total.count + taken kind made

namespace Leads

variable {made more : List Exchange} {before middle after : Shared}

theorem trans (first : Leads made before middle) (second : Leads more middle after) :
    Leads (made ++ more) before after where
  running := first.running ∘ second.running
  enabled kind := (second.enabled kind).trans (first.enabled kind)
  count kind collected := by
    rw [second.count kind ((first.enabled kind).trans collected), first.count kind collected,
      Engine.taken_append, Nat.add_assoc]

theorem of_level (level : Hub.Level before.hub after.hub)
    (apart : ∀ exchange ∈ made, exchange.aside = true)
    (running : after.stopped = false → before.stopped = false) : Leads made before after where
  running := running
  enabled := level.enabled
  count kind _ := by
    rw [level.total kind, Engine.taken_aside kind apart, Nat.add_zero]

theorem still (level : Hub.Level before.hub after.hub)
    (running : after.stopped = false → before.stopped = false) : Leads [] before after :=
  of_level level (by simp) running

end Leads

section Steps

variable {shared : Shared} {prepared : Prepared}

theorem Around.says {call : Call} {next : Answer → Running (StateM W) α}
    {post : List Exchange → Except Failure α → Shared → Prop}
    (rest : ∀ answer, Around host (next answer) shared fun more => post (⟨call, answer⟩ :: more)) :
    Around host (liftM (host.engine call) >>= next) shared post := by
  intro world
  obtain ⟨more, further, meets⟩ := rest (host.engine call world).1 (host.engine call world).2
  have taken : runFrom (liftM (host.engine call) >>= next) shared world =
      runFrom (next (host.engine call world).1) shared (host.engine call world).2 := rfl
  rw [taken]
  refine ⟨⟨call, (host.engine call world).1⟩ :: more, ?_, ?_⟩
  · intro record heard
    rw [further record heard, heard.engine, List.append_assoc]
    rfl
  · generalize runFrom (next (host.engine call world).1) shared (host.engine call world).2 =
      ended at meets
    have calm (made : List Exchange) : Calm anyhow made := fun _ _ _ _ => ⟨[], trivial⟩
    rcases ended with ⟨⟨(cause | cause) | value, after⟩, left⟩
    · exact ⟨calm _, meets.2⟩
    · exact .inl trivial
    · exact ⟨calm _, meets.2⟩

/-- A call outside the workers. -/
theorem demandCall_around (call : Call)
    (apart : ∀ answer, Exchange.aside ⟨call, answer⟩ = true) :
    Around host (demandCall host call) shared fun made _ after =>
      (∀ exchange ∈ made, exchange.aside = true) ∧ Leads made shared after := by
  unfold demandCall
  apply Around.says
  intro answer
  apply Yields.bind
  apply Yields.modifies
  have outside : ∀ exchange ∈ ([⟨call, answer⟩] : List Exchange), exchange.aside = true := by
    intro exchange member
    obtain rfl := List.mem_singleton.mp member
    exact apart answer
  have leads : Leads [⟨call, answer⟩] shared (shared.afterAnswer answer) :=
    .of_level (.refl _) outside fun running => (Bool.or_eq_false_iff.mp running).1
  cases answer.reply with
  | ok pair => exact Yields.pure ⟨outside, leads⟩
  | error cause => exact Yields.fails ⟨outside, leads⟩
  | panic reason => exact Yields.panics trivial

theorem withHub_around {change : Hub → Nat → Except Panic (Option Emission) × Hub}
    (level : ∀ hub clock, Hub.Level hub (change hub clock).2) :
    Around host (withHub host change) shared fun made _ after =>
      made = [] ∧ Leads made shared after := by
  unfold withHub
  apply Yields.reads
  have level := level shared.hub shared.clock
  generalize change shared.hub shared.clock = changed at level
  obtain ⟨result, hub⟩ := changed
  apply Yields.bind
  apply Yields.set
  rcases result with cause | _ | emission
  · exact Yields.panics trivial
  · exact Yields.pure ⟨rfl, .still level id⟩
  · exact Yields.lift (fun record heard => heard.publishes emission) fun _ =>
      ⟨rfl, .still level id⟩

theorem dismiss_around (worker : Worker) :
    Around host (dismiss host worker) shared fun made _ after =>
      made = [] ∧ Leads made shared after := by
  unfold dismiss
  apply Yields.bind
  apply Yields.modifies
  apply (withHub_around fun hub clock => hub.detach_level worker.recorder.epoch clock).mono
  rintro made outcome after ⟨rfl, leads⟩
  exact ⟨rfl, { leads with }⟩

/-- A worker made for a slot, with pairs of at most so many bytes. -/
structure Seats (bytes : Nat) (slot : Slot) (number : Nat) (worker : Worker) : Prop where
  number : worker.number = number
  kinds : worker.kinds = slot.kinds
  share : worker.share = slot.share
  busy : slot.kinds.isEmpty = false
  paired : ∀ shared, Desk.Paired ⟨shared, worker⟩
  within : ∀ shared, Desk.Within ⟨shared, worker⟩ bytes

theorem Walk.new_pairSize {shape : Keys.Shape} {space start valueSize : Nat} {walk : Keys.Walk}
    (made : Keys.Walk.new shape space start valueSize 0 = .ok walk) :
    walk.pairSize = shape.keyLength + valueSize := by
  unfold Keys.Walk.new at made
  split at made
  · cases made
  split at made
  · cases made
  split at made
  · cases made
  · cases made
    rfl

theorem enlist_seats {settings : Settings} {shape : Keys.Shape} {number : Nat} {slot : Slot}
    {worker : Worker} {after : Shared}
    (enlisted : Worker.enlist settings shape number slot.kinds slot.space slot.start slot.share
      shared = .ok (worker, after)) :
    Seats (shape.keyLength + settings.valueSize) slot number worker ∧ Leads [] shared after := by
  unfold Worker.enlist at enlisted
  cases idle : slot.kinds.isEmpty with
  | true =>
      rw [idle] at enlisted
      cases enlisted
  | false =>
      rw [idle] at enlisted
      rcases first : Keys.Walk.new shape slot.space slot.start settings.valueSize 0 with
        cause | walk
      · rw [first] at enlisted
        cases enlisted
      rw [first] at enlisted
      have bytes := Walk.new_pairSize first
      cases pairing : slot.kinds.meets .pairing with
      | false =>
          rw [pairing] at enlisted
          cases enlisted
          refine ⟨⟨rfl, rfl, rfl, idle, fun _ needs => ?_, fun _ => ⟨bytes.le, by simp⟩⟩,
            .still (Hub.attach_level _) id⟩
          rw [pairing] at needs
          cases needs
      | true =>
          rw [pairing] at enlisted
          rcases second : Keys.Walk.new shape (slot.space + 1) slot.start settings.valueSize 0
            with cause | other
          · rw [second] at enlisted
            cases enlisted
          rw [second] at enlisted
          cases enlisted
          refine ⟨⟨rfl, rfl, rfl, idle, fun _ _ => rfl, fun _ => ⟨bytes.le, ?_⟩⟩,
            .still (Hub.attach_level _) id⟩
          rintro walk ⟨⟩
          exact (Walk.new_pairSize second).le

theorem enlistSlot_around (number : Nat) (slot : Slot) :
    Around host (enlistSlot prepared number slot) shared fun made outcome after =>
      made = [] ∧ ∀ worker, outcome = .ok worker →
        Seats (prepared.shape.keyLength + prepared.settings.valueSize) slot number worker ∧
          Leads [] shared after := by
  unfold enlistSlot
  apply Yields.reads
  rcases enlisted : Worker.enlist prepared.settings prepared.shape number slot.kinds slot.space
    slot.start slot.share shared with stop | ⟨worker, after⟩
  · cases stop with
    | failure cause => exact Yields.fails ⟨rfl, by simp⟩
    | panic cause => exact Yields.panics trivial
  · apply Yields.bind
    apply Yields.set
    apply Yields.pure
    refine ⟨rfl, ?_⟩
    rintro worker ⟨⟩
    exact enlist_seats enlisted

theorem enlistAll_around (number : Nat) (slots : List Slot) :
    Around host (enlistAll prepared number slots) shared fun made outcome after =>
      made = [] ∧ ∀ workers, outcome = .ok workers → Leads [] shared after ∧
        List.Forall₂
          (fun place => Seats (prepared.shape.keyLength + prepared.settings.valueSize) place.1
            place.2) (slots.zipIdx number) workers := by
  induction slots generalizing number shared with
  | nil =>
      apply Yields.pure
      refine ⟨rfl, ?_⟩
      rintro workers ⟨⟩
      exact ⟨.still (.refl _) id, .nil⟩
  | cons slot slots ih =>
      unfold enlistAll
      apply (enlistSlot_around number slot).bindFrom
      · rintro made cause after ⟨rfl, _⟩
        exact ⟨rfl, by simp⟩
      · rintro made worker middle ⟨rfl, seated⟩
        obtain ⟨seats, leads⟩ := seated worker rfl
        apply (ih (number + 1)).bindFrom
        · rintro made cause after ⟨rfl, _⟩
          exact ⟨rfl, by simp⟩
        · rintro made workers after ⟨rfl, others⟩
          obtain ⟨further, seated⟩ := others workers rfl
          apply Yields.pure
          refine ⟨rfl, ?_⟩
          rintro workers ⟨⟩
          exact ⟨leads.trans further, .cons seats seated⟩

variable {settings : Settings} {context : Nat} {worker : Worker}

/-- What a worker did shows in the hub; if it ended well and was not halted, it did all. -/
theorem Fulfilled.leads {r : Reckoning settings} {rounds : List (List Segment)} {verdict : Verdict}
    {made : List Exchange} {ok : Bool} {left : Desk}
    (fulfilled : Fulfilled r context rounds verdict made ok ⟨shared, worker⟩ left) :
    Leads made shared (left.ended ok).shared where
  running still := by
    have both := Bool.or_eq_false_iff.mp still
    by_contra stopped
    rw [Bool.not_eq_false] at stopped
    exact absurd (both.1.symm.trans (fulfilled.worked.stays stopped)) (by simp)
  enabled := fulfilled.worked.enabled
  count kind collected := by
    unfold taken
    split
    · next cursor =>
      subst cursor
      rw [fulfilled.said.records]
      exact fulfilled.worked.count .iterate fun _ => collected
    · next counted =>
      rw [fulfilled.said.begins counted]
      exact fulfilled.worked.count kind fun _ => collected

theorem Fulfilled.stays {r : Reckoning settings} {rounds : List (List Segment)}
    {verdict : Verdict} {made : List Exchange} {ok : Bool} {before left : Desk}
    (fulfilled : Fulfilled r context rounds verdict made ok before left)
    (halted : verdict = .halted) : left.shared.stopped = true := by
  rw [fulfilled.worked.stopped]
  rcases Bool.or_eq_true_iff.mp (fulfilled.halted halted) with before | interrupted
  · rw [before, Bool.true_or]
  · obtain ⟨exchange, member, stops⟩ := List.any_eq_true.mp interrupted
    rw [List.any_eq_true.mpr ⟨exchange, List.dropLast_subset _ member, stops⟩, Bool.or_true]

theorem Fulfilled.completed {r : Reckoning settings} {rounds : List (List Segment)}
    {verdict : Verdict} {made : List Exchange} {left : Desk} (once : settings.continuous = false)
    (fulfilled : Fulfilled r context rounds verdict made true ⟨shared, worker⟩ left)
    (running : left.shared.stopped = false) :
    Completed settings context worker.kinds worker.share made := by
  have whole : verdict = .whole := by
    cases verdict with
    | whole => rfl
    | halted => exact absurd (running.symm.trans (fulfilled.stays rfl)) (by simp)
    | failed => cases fulfilled.failed.mp rfl
  subst whole
  have said := fulfilled.said
  refine ⟨rounds, said, ?_⟩
  cases said with
  | worked opens options work =>
      obtain ⟨length, passes⟩ := work.whole once (Nat.zero_le _)
      rw [Nat.zero_add] at length
      exact ⟨length, passes⟩

/-- The turn of a worker that did not end in a panic shows in the hub. -/
theorem turnOf_around (once : settings.continuous = false) (paired : Desk.Paired ⟨shared, worker⟩) :
    Around host (turnOf host settings context worker) shared fun made outcome after =>
      ∃ result left, outcome = .ok (result, left) ∧
        ((∃ cause, result = .error (.panic cause)) ∨ Leads made shared after) ∧
        (result = .ok () → after.stopped = false →
          Completed settings context worker.kinds worker.share made) := by
  intro world
  obtain ⟨made, heard, meets⟩ :=
    @fulfil_yields _ host.stage _ _ context _ _ (Desk.enduring settings paired) world
  have ran : runFrom (turnOf host settings context worker) shared world =
      ((.ok ((runFrom (fulfil host.stage settings context) ⟨shared, worker⟩ world).1.1,
          (runFrom (fulfil host.stage settings context) ⟨shared, worker⟩ world).1.2.worker),
        (runFrom (fulfil host.stage settings context) ⟨shared, worker⟩ world).1.2.shared),
        (runFrom (fulfil host.stage settings context) ⟨shared, worker⟩ world).2) := rfl
  rw [ran]
  refine ⟨made, fun record hears => heard record hears.stage, fun _ _ _ _ => ⟨[], trivial⟩, _, _, rfl, ?_⟩
  generalize (runFrom (fulfil host.stage settings context) ⟨shared, worker⟩ world).1 =
    ended at meets
  rcases ended with ⟨(cause | cause) | done, after⟩
  · obtain ⟨_, rounds, verdict, left, rfl, fulfilled⟩ := meets
    exact ⟨.inr fulfilled.leads, by simp⟩
  · exact ⟨.inl ⟨cause, rfl⟩, by simp⟩
  · obtain ⟨_, rounds, verdict, left, rfl, fulfilled⟩ := meets
    refine ⟨.inr fulfilled.leads, fun _ running => ?_⟩
    exact fulfilled.completed once (Bool.or_eq_false_iff.mp running).1

end Steps

end StoreBench.Run
