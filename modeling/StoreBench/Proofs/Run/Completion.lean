import StoreBench.Proofs.Run.Course
import StoreBench.Proofs.Run.Outcome
import StoreBench.Proofs.Run.Stages

/-! A run that ends well did all of its work.

The workers take their turns one after the other.  If none failed and the run was not stopped, each
of them made all its passes, and the hub has the samples of all.
-/

namespace StoreBench.Run

open StoreBench.Engine (Costs Exchange taken)
open StoreBench.Latency (Hub Summary)

variable {W : Type} {host : Host (StateM W)} {prepared : Prepared} {shared : Shared}

/-- Workers for these slots made all their passes, one after the other. -/
def Accomplished (settings : Settings) (places : List (Slot × Nat)) (logs : List (List Exchange)) :
    Prop :=
  List.Forall₂ (fun place made => Completed settings place.2 place.1.kinds place.1.share made)
    places logs

theorem threadTurn_around (once : prepared.settings.continuous = false)
    (failure : Option Failure) {worker : Worker} (paired : ∀ shared, Desk.Paired ⟨shared, worker⟩) :
    Around host (threadTurn host prepared failure worker) shared fun made outcome after =>
      outcome = .ok none → after.stopped = false →
        failure = none ∧ Leads made shared after ∧
          Completed prepared.settings worker.number worker.kinds worker.share made := by
  unfold threadTurn
  apply Yields.reads
  apply Yields.bind
  apply Yields.modifies
  apply (turnOf_around once (paired _)).bindFrom
  · rintro made cause after ⟨_, _, impossible, _⟩
    cases impossible
  · rintro made ⟨result, left⟩ middle ⟨_, _, same, told, completed⟩
    cases same
    have retires {current : Shared} (failed : Option Failure)
        (ended : failed = none → current.stopped = false → failure = none ∧
          Leads made { shared with clock := 0 } current ∧
            Completed prepared.settings worker.number worker.kinds worker.share made) :
        Around host (do
            dismiss host left
            modify fun after => { after with clock := shared.clock }
            return failed) current fun more outcome after =>
          outcome = .ok none → after.stopped = false →
            failure = none ∧ Leads (made ++ more) shared after ∧
              Completed prepared.settings worker.number worker.kinds worker.share
                (made ++ more) := by
      apply (dismiss_around left).bindFrom
      · rintro more cause after _ impossible
        cases impossible
      · rintro more done after ⟨rfl, further⟩
        apply Yields.bind
        apply Yields.modifies
        apply Yields.pure
        rintro ⟨⟩ running
        obtain ⟨none, leads, all⟩ := ended rfl (further.running running)
        simp only [List.append_nil]
        refine ⟨none, ?_, all⟩
        have both := leads.trans further
        rw [List.append_nil] at both
        exact { both with }
    rcases result with (cause | cause) | done
    · exact retires _ fun impossible => by cases impossible
    · apply Yields.bind
      apply Yields.modifies
      exact retires (firstFailure failure _) fun impossible => by cases impossible
    · exact retires failure fun none running =>
        ⟨none, told.resolve_left (by simp), completed rfl running⟩

theorem threadTurns_around (once : prepared.settings.continuous = false)
    (failure : Option Failure) {workers : List Worker}
    (paired : ∀ worker ∈ workers, ∀ shared, Desk.Paired ⟨shared, worker⟩) :
    Around host (threadTurns host prepared failure workers) shared fun made outcome after =>
      outcome = .ok none → after.stopped = false →
        failure = none ∧ Leads made shared after ∧ ∃ logs, made = logs.flatten ∧
          List.Forall₂ (fun (worker : Worker) log =>
            Completed prepared.settings worker.number worker.kinds worker.share log) workers
            logs := by
  induction workers generalizing failure shared with
  | nil =>
      apply Yields.pure
      rintro ⟨⟩ _
      exact ⟨rfl, .still (.refl _) id, [], rfl, .nil⟩
  | cons worker workers ih =>
      unfold threadTurns
      apply (threadTurn_around once failure (paired worker List.mem_cons_self)).bindFrom
      · rintro made cause after _ impossible
        cases impossible
      · rintro made failed middle first
        apply (ih failed fun worker member => paired worker (List.mem_cons_of_mem _ member)).mono
        rintro more outcome after others ended running
        obtain ⟨rfl, leads, logs, said, all⟩ := others ended running
        obtain ⟨none, before, completed⟩ := first rfl (leads.running running)
        refine ⟨none, before.trans leads, made :: logs, ?_, .cons completed all⟩
        rw [said, List.flatten_cons]

theorem accomplished_of {settings : Settings} {bytes : Nat} {places : List (Slot × Nat)}
    {workers : List Worker} {logs : List (List Exchange)}
    (seated : List.Forall₂ (fun place => Seats bytes place.1 place.2) places workers)
    (completed : List.Forall₂ (fun (worker : Worker) log =>
      Completed settings worker.number worker.kinds worker.share log) workers logs) :
    Accomplished settings places logs := by
  induction seated generalizing logs with
  | nil =>
      cases completed
      exact .nil
  | cons seats _ ih =>
      cases completed with
      | cons first others =>
          rw [seats.number, seats.kinds, seats.share] at first
          exact .cons first (ih others)

theorem paired_of {bytes : Nat} {places : List (Slot × Nat)} {workers : List Worker}
    (seated : List.Forall₂ (fun place => Seats bytes place.1 place.2) places workers) :
    ∀ worker ∈ workers, ∀ shared, Desk.Paired ⟨shared, worker⟩ := by
  induction seated with
  | nil => simp
  | cons seats _ ih => exact List.forall_mem_cons.mpr ⟨seats.paired, ih⟩

theorem breaking_around {α : Type} {broken : Prop} [Decidable broken]
    {ending : Running (StateM W) α} {post : List Exchange → Except Failure α → Shared → Prop}
    (ends : ∀ current, Leads [] shared current → Around host ending current post) :
    Around host (if broken then do
        modify fun shared => { shared with stopped := true }
        ending
      else ending) shared post := by
  split
  · apply Yields.bind
    apply Yields.modifies
    exact ends _ (.still (.refl _) fun impossible => by cases impossible)
  · exact ends _ (.still (.refl _) id)

theorem runThreads_around (once : prepared.settings.continuous = false) (turns : Turns)
    (slots : List Slot) :
    Around host (runThreads host prepared turns slots) shared fun made outcome after =>
      ∀ before ending, outcome = .ok (none, before, ending) → after.stopped = false →
        Leads made shared after ∧ ∃ logs, made = logs.flatten ∧
          Accomplished prepared.settings (turns.order.filterMap (slots.zipIdx[·]?)) logs := by
  unfold runThreads
  apply (enlistAll_around 0 slots).bindFrom
  · rintro made cause after _ before ending impossible
    cases impossible
  · rintro made workers middle ⟨rfl, enlisted⟩
    obtain ⟨arrives, seated⟩ := enlisted workers rfl
    apply (Silent.lift (fun record heard => heard.measure _) _).bindFrom
    · rintro made cause after _ before ending impossible
      cases impossible
    rintro made before middle ⟨rfl, rfl⟩
    have chosen := forall₂_filterMap_getElem? seated turns.order
    apply (threadTurns_around once none ?_).bindFrom
    · rintro made cause after _ before ending impossible
      cases impossible
    · rintro made failure middle worked
      apply (Silent.lift (fun record heard => heard.measure _) _).bindFrom
      · rintro made cause after _ before ending impossible
        cases impossible
      rintro more ending middle ⟨rfl, rfl⟩
      rcases before with cause | before
      · dsimp only
        exact breaking_around fun current _ => Yields.fails (by simp)
      rcases ending with cause | ending
      · dsimp only
        exact breaking_around fun current _ => Yields.fails (by simp)
      · dsimp only
        refine breaking_around fun current breaks => Yields.pure ?_
        rintro _ _ ⟨⟩ running
        obtain ⟨_, leads, logs, said, completed⟩ := worked rfl (breaks.running running)
        refine ⟨?_, logs, ?_, ?_⟩
        · exact arrives.trans (leads.trans breaks)
        · simpa using said
        · exact accomplished_of chosen completed
    · exact paired_of chosen

theorem runSingle_around (once : prepared.settings.continuous = false) (slot : Slot) :
    Around host (runSingle host prepared slot) shared fun made outcome after =>
      ∀ before ending, outcome = .ok (none, before, ending) → after.stopped = false →
        Leads made shared after ∧ ∃ logs, made = logs.flatten ∧
          Accomplished prepared.settings [(slot, 0)] logs := by
  unfold runSingle
  apply (enlistSlot_around 0 slot).bindFrom
  · rintro made cause after _ before ending impossible
    cases impossible
  rintro made worker middle ⟨rfl, enlisted⟩
  obtain ⟨seats, arrives⟩ := enlisted worker rfl
  apply (Silent.lift (fun record heard => heard.measure _) _).bindFrom
  · rintro made cause after _ before ending impossible
    cases impossible
  rintro made before middle ⟨rfl, rfl⟩
  rcases before with cause | before
  · apply (dismiss_around worker).bindFrom
    · rintro made cause after _ before ending impossible
      cases impossible
    · rintro made done after _
      exact Yields.fails (by simp)
  apply (turnOf_around once (seats.paired _)).bindFrom
  · rintro made cause after ⟨_, _, impossible, _⟩
    cases impossible
  rintro made ⟨result, left⟩ middle ⟨_, _, same, told, completed⟩
  cases same
  apply (dismiss_around left).bindFrom
  · rintro more cause after _ before ending impossible
    cases impossible
  rintro more done middle ⟨rfl, leaves⟩
  rcases result with (cause | cause) | done
  · apply (Silent.fileStep (fun record heard => heard.measure _) _).bindFrom
    · rintro more cause after _ before ending impossible
      cases impossible
    · rintro more ending after _
      exact Yields.pure (by simp)
  · exact Yields.panics trivial
  · apply (Silent.fileStep (fun record heard => heard.measure _) _).bindFrom
    · rintro more cause after _ before ending impossible
      cases impossible
    · rintro more ending after ⟨rfl, rfl⟩
      apply Yields.pure
      rintro _ _ ⟨⟩ running
      simp only [List.append_nil, List.nil_append]
      have leads := arrives.trans ((told.resolve_left (by simp)).trans leaves)
      simp only [List.append_nil, List.nil_append] at leads
      refine ⟨leads, [made], by simp, .cons ?_ .nil⟩
      rw [← seats.kinds, ← seats.share]
      exact completed rfl (leaves.running running)

theorem runReports_around (reportName : Option (String → String))
    (measured : Option Failure × Usage × Usage) :
    Around host (runReports host reportName measured) shared fun made outcome after =>
      made = [] ∧ ∀ summaries, outcome = .ok summaries → measured.1 = none ∧
        after.stopped = false ∧ Leads [] shared after ∧ summaries = after.hub.summaries := by
  obtain ⟨failure, before, after⟩ := measured
  apply (withHub_around fun hub clock => hub.emit_level clock).bindFrom
  · rintro made cause after ⟨rfl, _⟩
    exact ⟨rfl, by simp⟩
  rintro made done middle ⟨rfl, leads⟩
  apply Yields.reads
  apply (Silent.reportSummaries reportName _ _).bindFrom
  · rintro made cause after ⟨rfl, _⟩
    exact ⟨rfl, by simp⟩
  rintro made done middle ⟨rfl, rfl⟩
  apply (Silent.reportUsage reportName before after _).bindFrom
  · rintro made cause after ⟨rfl, _⟩
    exact ⟨rfl, by simp⟩
  rintro made done middle ⟨rfl, rfl⟩
  cases failure with
  | some cause => exact Yields.fails ⟨rfl, by simp⟩
  | none =>
      apply Yields.reads
      dsimp only
      split
      · exact Yields.fails ⟨rfl, by simp⟩
      · next running =>
        apply Yields.pure
        refine ⟨rfl, ?_⟩
        rintro summaries ⟨⟩
        exact ⟨rfl, by simpa using running, leads, rfl⟩

/-- What a run that ended well said, and what is left for its report. -/
def Done (settings : Settings) (places : List (Slot × Nat)) (before : Shared)
    (made : List Exchange) (after : Shared) (summaries : List Summary) : Prop :=
  ∃ opening logs, made = opening ++ logs.flatten ∧
    (∀ exchange ∈ opening, exchange.aside = true) ∧ Accomplished settings places logs ∧
    Leads made before after ∧ summaries = after.hub.summaries

theorem startTimeline_around (reportName : Option (String → String)) :
    Around host (startTimeline host reportName) shared fun made _ after =>
      made = [] ∧ Leads [] shared after := by
  cases reportName with
  | none => exact Yields.pure ⟨rfl, .still (.refl _) id⟩
  | some nameOf =>
      apply (Silent.fileStep (fun record heard => heard.create _) _).bindFrom
      · rintro made cause after ⟨rfl, rfl⟩
        exact ⟨rfl, .still (.refl _) id⟩
      · rintro made created after ⟨rfl, rfl⟩
        exact Yields.modifies ⟨rfl, .still ⟨fun _ => rfl, fun _ => rfl⟩ id⟩

theorem runTurns_around (once : prepared.settings.continuous = false) (turns : Turns)
    (order : turns.order.Perm (List.range (prepared.plan.slots prepared.settings).length)) :
    Around host (runTurns host prepared turns) shared fun made outcome after =>
      ∀ before ending, outcome = .ok (none, before, ending) → after.stopped = false →
        Leads made shared after ∧ ∃ logs, made = logs.flatten ∧ Accomplished prepared.settings
          (turns.order.filterMap ((prepared.plan.slots prepared.settings).zipIdx[·]?)) logs := by
  cases alone : prepared.plan.single with
  | false =>
      rw [runTurns_threads host alone]
      exact runThreads_around once turns _
  | true =>
      rw [runTurns_single host alone]
      rw [Plan.slots_single alone] at order ⊢
      have first : turns.order = [0] := List.perm_singleton.mp order
      rw [first]
      exact runSingle_around once _

theorem applyEngineOptions_around (options : List String) :
    Around host (applyEngineOptions host options) shared fun made _ after =>
      (∀ exchange ∈ made, exchange.aside = true) ∧ Leads made shared after := by
  induction options generalizing shared with
  | nil => exact Yields.pure ⟨by simp, .still (.refl _) id⟩
  | cons option options ih =>
      unfold applyEngineOptions
      apply (demandCall_around (.option option) fun _ => rfl).bindFrom
      · rintro made cause after given
        exact given
      · rintro made done middle ⟨outside, leads⟩
        apply ih.mono
        rintro more outcome after ⟨others, further⟩
        exact ⟨List.forall_mem_append.mpr ⟨outside, others⟩, leads.trans further⟩

theorem runOpened_around (once : prepared.settings.continuous = false) (name : String)
    (turns : Turns)
    (order : turns.order.Perm (List.range (prepared.plan.slots prepared.settings).length)) :
    Around host (runOpened host name prepared turns) shared fun made outcome after =>
      ∀ summaries, outcome = .ok summaries → Done prepared.settings
        (turns.order.filterMap ((prepared.plan.slots prepared.settings).zipIdx[·]?)) shared made
        after summaries := by
  rw [runOpened_eq, runWorkers, bind_assoc]
  apply (applyEngineOptions_around _).bindFrom
  · rintro made cause after _ summaries impossible
    cases impossible
  rintro opening done offered ⟨outside, leads⟩
  rw [bind_assoc]
  apply (startTimeline_around _).bindFrom
  · rintro made cause after _ summaries impossible
    cases impossible
  rintro made started begun ⟨rfl, mirrors⟩
  apply (runTurns_around once turns order).bindFrom
  · rintro made cause after _ summaries impossible
    cases impossible
  rintro made ⟨failure, before, after⟩ worked works
  apply (runReports_around _ _).mono
  rintro more outcome last ⟨rfl, ended⟩ summaries well
  obtain ⟨rfl, running, concludes, told⟩ := ended summaries well
  obtain ⟨earlier, logs, said, all⟩ := works _ _ rfl (concludes.running running)
  refine ⟨opening, logs, by simp [said], outside, all, ?_, told⟩
  exact leads.trans (mirrors.trans (earlier.trans concludes))

theorem runAll_around (once : prepared.settings.continuous = false) (name : String)
    (turns : Turns)
    (order : turns.order.Perm (List.range (prepared.plan.slots prepared.settings).length)) :
    Around host (runAll host name prepared turns) shared fun made outcome _ =>
      ∀ summaries, outcome = .ok summaries → ∃ work closing left, made = work ++ closing ∧
        (∀ exchange ∈ closing, exchange.aside = true) ∧ Done prepared.settings
          (turns.order.filterMap ((prepared.plan.slots prepared.settings).zipIdx[·]?)) shared work
          left summaries := by
  unfold runAll
  apply (Silent.fileStep (fun record heard => heard.makeFolders _) _).bindFrom
  · rintro made cause after _ summaries impossible
    cases impossible
  rintro made created middle ⟨rfl, rfl⟩
  apply (demandCall_around (.openStore _) fun _ => rfl).bindFrom
  · rintro made cause after _ summaries impossible
    cases impossible
  rintro opened done middle ⟨outside, leads⟩
  apply Yields.bind
  apply Yields.attempt
  apply (runOpened_around once name turns order).mono
  intro work outcome after worked
  apply Yields.bind
  apply Yields.attempt
  apply (demandCall_around .close fun _ => rfl).mono
  rintro closing closed last ⟨apart, _⟩
  cases outcome with
  | error cause => exact Yields.fails (by simp)
  | ok summaries =>
      cases closed with
      | error cause => exact Yields.fails (by simp)
      | ok done =>
          apply Yields.pure
          rintro _ ⟨⟩
          obtain ⟨opening, logs, said, offers, all, further, told⟩ := worked summaries rfl
          refine ⟨opened ++ work, closing, after, by simp, apart, opened ++ opening, logs, ?_, ?_,
            all, leads.trans further, told⟩
          · rw [said, List.append_assoc]
          · exact List.forall_mem_append.mpr ⟨outside, offers⟩

/-- The samples of a kind that a report tells of. -/
def reported (summaries : List Summary) (kind : Kind) : Nat :=
  ((summaries.filter (·.kind = kind)).map Summary.count).sum

/-- The samples of a kind that a hub has, if it collects the kind. -/
def collected (hub : Hub) (kind : Kind) : Nat :=
  if (hub.accounts.get kind).enabled then (hub.accounts.get kind).total.count else 0

theorem summary?_cases (hub : Hub) (kind : Kind) :
    (hub.summary? kind = none ∧ collected hub kind = 0) ∨
      ∃ summary, hub.summary? kind = some summary ∧ summary.kind = kind ∧
        summary.count = collected hub kind := by
  unfold Hub.summary? collected
  by_cases enabled : (hub.accounts.get kind).enabled = true
  · by_cases none : (hub.accounts.get kind).total.count = 0
    · simp [enabled, none]
    · simp [enabled, none]
  · simp [enabled]

theorem reported_eq (hub : Hub) (kind : Kind) :
    reported hub.summaries kind = collected hub kind := by
  have listed (kinds : List Kind) : reported (kinds.filterMap hub.summary?) kind =
      kinds.count kind * collected hub kind := by
    induction kinds with
    | nil => simp [reported]
    | cons other kinds ih =>
        rw [List.count_cons, Nat.add_mul, ← ih]
        rcases summary?_cases hub other with ⟨absent, none⟩ | ⟨summary, told, of, count⟩
        · rw [List.filterMap_cons_none absent]
          by_cases same : other = kind
          · simp [← same, none]
          · simp [same]
        · rw [List.filterMap_cons_some told]
          by_cases same : other = kind
          · simp [reported, of, count, same, Nat.add_comm]
          · simp [reported, of, same]
  have once : Kind.all.count kind = 1 := by cases kind <;> rfl
  rw [Hub.summaries, listed, once, Nat.one_mul]

/-- A hub that starts to collect some kinds has no samples of them. -/
theorem enable_fresh (kinds : List Kind) (hub : Hub) (kind : Kind) :
    ((kinds.foldl Hub.enable hub).accounts.get kind).enabled =
      ((hub.accounts.get kind).enabled || decide (kind ∈ kinds)) ∧
    ((hub.accounts.get kind).total = 0 →
      ((kinds.foldl Hub.enable hub).accounts.get kind).total = 0) := by
  induction kinds generalizing hub with
  | nil => simp
  | cons first kinds ih =>
      obtain ⟨enabled, empty⟩ := ih (hub.enable first)
      have step : ((hub.enable first).accounts.get kind).enabled =
          ((hub.accounts.get kind).enabled || decide (kind = first)) ∧
          ((hub.accounts.get kind).total = 0 →
            ((hub.enable first).accounts.get kind).total = 0) := by
        unfold Hub.enable
        by_cases same : kind = first
        · subst same
          split
          · next already => simp [already]
          · simp only [PerKind.get_set_self]
            exact ⟨by simp, fun _ => rfl⟩
        · split
          · simp [same]
          · simp [same, PerKind.get_set_of_ne _ _ (Ne.symm same)]
      rw [List.foldl_cons, enabled, step.1]
      refine ⟨?_, fun none => empty (step.2 none)⟩
      simp [Bool.or_assoc]

/-- The hub of a prepared run collects the selected kinds, and has nothing of any. -/
theorem prepared_enabled {settings : Settings} {clock : Nat} {prepared : Prepared}
    (accepted : prepare settings clock = .ok prepared) {kind : Kind}
    (chosen : settings.selected.contains kind = true) :
    (prepared.shared.hub.accounts.get kind).enabled = true := by
  obtain ⟨_, _, planned, _, interval, fresh⟩ := prepare_eq accepted
  rw [fresh]
  refine (enable_fresh prepared.plan.selected.toList (Hub.new interval clock) kind).1.trans ?_
  rw [← Plan.new_selected planned] at chosen
  simp [(KindSet.mem_toList _ _).mpr chosen]

theorem prepared_total {settings : Settings} {clock : Nat} {prepared : Prepared}
    (accepted : prepare settings clock = .ok prepared) (kind : Kind) :
    (prepared.shared.hub.accounts.get kind).total = 0 := by
  obtain ⟨_, _, _, _, interval, fresh⟩ := prepare_eq accepted
  rw [fresh]
  refine (enable_fresh prepared.plan.selected.toList (Hub.new interval clock) kind).2 ?_
  cases kind <;> rfl

section Sums

variable {settings : Settings} {places : List (Slot × Nat)} {logs : List (List Exchange)}
  {kind : Kind}

theorem Accomplished.taken_eq (all : Accomplished settings places logs)
    (counted : kind ≠ .iterate) (batches : kind = .batch → 0 < settings.batchLength) :
    taken kind logs.flatten = settings.passes *
      (((places.map Prod.fst).filter (·.kinds.contains kind)).map
        fun slot => settings.charge kind slot.share).sum := by
  rw [Engine.taken_flatten]
  induction all with
  | nil => simp
  | @cons place log places logs completed _ ih =>
      rw [List.map_cons, List.sum_cons, ih, List.map_cons]
      cases mine : place.1.kinds.contains kind with
      | true =>
          rw [completed.taken_eq mine counted batches, List.filter_cons, mine, if_pos rfl,
            List.map_cons, List.sum_cons, Nat.mul_add]
      | false =>
          rw [completed.taken_none mine, List.filter_cons, mine, if_neg (by simp), Nat.zero_add]

theorem Accomplished.taken_le (all : Accomplished settings places logs) :
    taken .iterate logs.flatten ≤ settings.passes *
      (((places.map Prod.fst).filter (·.kinds.contains .iterate)).map Slot.share).sum := by
  rw [Engine.taken_flatten]
  induction all with
  | nil => simp
  | @cons place log places logs completed _ ih =>
      rw [List.map_cons, List.sum_cons, List.map_cons]
      cases mine : place.1.kinds.contains .iterate with
      | true =>
          rw [List.filter_cons, mine, if_pos rfl, List.map_cons, List.sum_cons, Nat.mul_add]
          exact Nat.add_le_add (completed.taken_le mine) ih
      | false =>
          rw [completed.taken_none mine, List.filter_cons, mine, if_neg (by simp), Nat.zero_add]
          exact ih

theorem places_slots {slots : List Slot} {order : List Nat}
    (perm : order.Perm (List.range slots.length)) :
    ((order.filterMap (slots.zipIdx[·]?)).map Prod.fst).Perm slots := by
  have same := perm_filterMap_getElem? (by rw [List.length_zipIdx]; exact perm :
    order.Perm (List.range slots.zipIdx.length))
  have mapped := same.map Prod.fst
  rw [List.zipIdx_map_fst] at mapped
  exact mapped

end Sums

/-- A run that ends well did all of its work, whatever its workers are and in whatever order they
take their turns: each worker made all passes of all its kinds, and the report tells of as many
samples as the settings ask for. -/
theorem successful_run_complete {name : String} {settings : Settings} {clock : Nat}
    (accepted : prepare settings clock = .ok prepared) (once : settings.continuous = false)
    {turns : Turns}
    (order : turns.order.Perm (List.range (prepared.plan.slots settings).length)) {world : W}
    {summaries : List Summary}
    (ended : (runFrom (runAll host name prepared turns) prepared.shared world).1.1 =
      .ok summaries) :
    (∀ kind, settings.selected.contains kind = true → kind ≠ .batch → kind ≠ .iterate →
      reported summaries kind = settings.passes * settings.count) ∧
    (settings.selected.contains .batch = true → reported summaries .batch = settings.passes *
      (((prepared.plan.slots settings).filter (·.kinds.contains .batch)).map fun slot =>
        (slot.share + (settings.batchLength - 1)) / settings.batchLength).sum) ∧
    (settings.selected.contains .iterate = true →
      reported summaries .iterate ≤ settings.passes * settings.count) ∧
    ∃ opening logs closing,
      (∀ record, host.Heard record →
        record (runFrom (runAll host name prepared turns) prepared.shared world).2 =
          record world ++ (opening ++ logs.flatten ++ closing)) ∧
      (∀ exchange ∈ opening ++ closing, exchange.aside = true) ∧
      Accomplished settings
        (turns.order.filterMap ((prepared.plan.slots settings).zipIdx[·]?)) logs := by
  obtain ⟨valid, rfl, planned, _, interval, fresh⟩ := prepare_eq accepted
  have batches := (validate_eq valid).2.2
  obtain ⟨made, heard, meets⟩ :=
    (@runAll_around _ host prepared prepared.shared once name turns order) world
  generalize runFrom (runAll host name prepared turns) prepared.shared world = left at *
  obtain ⟨⟨result, after⟩, world⟩ := left
  obtain rfl : result = .ok summaries := ended
  obtain ⟨_, closing, left, rfl, apart, opening, logs, rfl, offers, all, leads, rfl⟩ :=
    meets.2 summaries rfl
  have counts {kind : Kind} (chosen : prepared.settings.selected.contains kind = true) :
      reported left.hub.summaries kind = taken kind logs.flatten := by
    have shown := prepared_enabled accepted chosen
    rw [reported_eq, collected, leads.enabled, shown, if_pos rfl, leads.count kind shown,
      prepared_total accepted, Engine.taken_append, Engine.taken_aside kind offers, Nat.zero_add]
    exact Nat.zero_add _
  have places := places_slots order
  have shares {kind : Kind} (weight : Slot → Nat) :
      (((((turns.order.filterMap ((prepared.plan.slots prepared.settings).zipIdx[·]?)).map
        Prod.fst)).filter (·.kinds.contains kind)).map weight).sum =
      (((prepared.plan.slots prepared.settings).filter (·.kinds.contains kind)).map weight).sum :=
    ((places.filter _).map _).sum_eq
  refine ⟨?_, ?_, ?_, opening, logs, closing, ?_, ?_, all⟩
  · intro kind chosen single counted
    rw [counts chosen, all.taken_eq counted fun batch => absurd batch single, shares]
    simp only [Settings.charge, if_neg single]
    rw [Plan.shares_of planned chosen]
  · intro chosen
    rw [counts chosen, all.taken_eq (by simp) fun _ => batches chosen, shares]
    rfl
  · intro chosen
    rw [counts chosen, ← Plan.shares_of planned chosen, ← shares]
    exact all.taken_le
  · exact heard
  · exact List.forall_mem_append.mpr ⟨offers, apart⟩

/-- The rehearsal succeeds if the second worker goes first. -/
theorem rehearsal_succeeds : ∃ prepared summaries,
    prepareEngine "btreemap" rehearsed 0 = .ok (.ordered .new, prepared) ∧
      prepared.plan = ⟨rehearsed.selected, .empty, rehearsed.selected, 0, 2, 2, 4, 2⟩ ∧
      (runFrom (runAll Sandbox.probed "btreemap" prepared ⟨[1, 0], []⟩) prepared.shared
        (.new (.new (.ordered .new) [] ⟨0, [], 0⟩) .fresh)).1.1 = .ok summaries := by
  obtain ⟨prepared, accepted, plan⟩ := rehearsed_accepted
  have hosts := Sandbox.probed_hosts (by decide : (⟨0, [], 0⟩ : Costs).next.length ≤ 1)
  have lots : (sceneOf hosts accepted rfl rfl (fun sandbox => sandbox.files = .fresh) True
      fun _ => rehearsed_favorable plan).Lots (prepared.plan.slots rehearsed) :=
    sceneOf_lots (.inl (by rw [plan])) (fun _ => by decide) (fun _ => by rw [plan]; decide)
  obtain ⟨summaries, ended⟩ :=
    (rehearsal_fresh accepted plan).succeeds lots rfl rfl (rehearsal_timely _)
  exact ⟨prepared, summaries, accepted, plan, ended⟩

theorem successful_run_complete_rehearsed : ∃ prepared summaries,
    prepare rehearsed 0 = .ok prepared ∧
      (runFrom (runAll Sandbox.probed "btreemap" prepared ⟨[1, 0], []⟩) prepared.shared
        (.new (.new (.ordered .new) [] ⟨0, [], 0⟩) .fresh)).1.1 = .ok summaries ∧
      reported summaries .set = 21 ∧ reported summaries .delete = 21 ∧
      reported summaries .crud = 21 ∧ reported summaries .batch = 12 := by
  obtain ⟨prepared, summaries, accepted, plan, ended⟩ := rehearsal_succeeds
  have ready := (prepareEngine_prepare accepted).2
  obtain ⟨single, batch, _, _⟩ := successful_run_complete ready rfl
    (by rw [plan]; decide : [1, 0].Perm (List.range (prepared.plan.slots rehearsed).length)) ended
  refine ⟨prepared, summaries, ready, ended, single .set rfl (by simp) (by simp),
    single .delete rfl (by simp) (by simp), single .crud rfl (by simp) (by simp), ?_⟩
  rw [batch rfl, plan]
  rfl

end StoreBench.Run
