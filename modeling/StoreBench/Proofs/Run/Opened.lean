import StoreBench.Proofs.Run.Assignment
import StoreBench.Proofs.Run.Completion
import StoreBench.Proofs.Run.Ending
import StoreBench.Proofs.Run.Tenancy

/-! Between the opening of the engine and its closing.

Whatever ends the run early, what is said in between are the options and then the turns of some
workers, each of which has one turn.  No worker leaves its context behind unless it panics, and a
panic has a reason: the engine panicked, or the run is too large for its numbers.
-/

namespace StoreBench.Run

open StoreBench.Engine (Answer Call Exchange)
open StoreBench.Latency (Attendance Hub Summary)

variable {W : Type} {host : Host (StateM W)} {record : W → List Exchange} {prepared : Prepared}
  {shared : Shared} {world : W}

/-- A host whose world is the record; its engine answers by what was said before, and its files take
everything. -/
def Host.scribe (answers : List Exchange → Call → Answer) : Host (StateM (List Exchange)) where
  engine call := fun said => (answers said call, said ++ [⟨call, answers said call⟩])
  say _ := pure ()
  makeFolders _ := pure (.ok ())
  create _ := pure (.ok ())
  append _ _ := pure (.ok ())
  mirror _ _ := pure ()
  measure _ := pure (.ok .zero)

theorem Host.scribe_heard (answers : List Exchange → Call → Answer) :
    (scribe answers).Heard id where
  engine _ _ := rfl
  say _ _ := rfl
  makeFolders _ _ := rfl
  create _ _ := rfl
  append _ _ _ := rfl
  mirror _ _ _ := rfl
  measure _ _ := rfl

theorem runFrom_lift {σ α β : Type} (step : StateM W α) (next : α → Piece W σ β) (state : σ)
    (world : W) :
    runFrom (liftM step >>= next) state world =
      runFrom (next (step world).1) state (step world).2 := rfl

/-- The workers have their turns in the order that is given, by their numbers. -/
theorem numbers_chosen {bytes : Nat} {slots : List Slot} {workers : List Worker}
    (seated : List.Forall₂ (fun place => Seats bytes place.1 place.2) slots.zipIdx workers)
    {order : List Nat} (within : ∀ index ∈ order, index < slots.length) :
    (order.filterMap (workers[·]?)).map Worker.number = order := by
  have places : (order.filterMap (slots.zipIdx[·]?)).map Prod.snd = order := by
    induction order with
    | nil => rfl
    | cons index order ih =>
        have inside := within index List.mem_cons_self
        have found : slots.zipIdx[index]? = some (slots[index], index) := by simp [inside]
        rw [List.filterMap_cons_some found, List.map_cons,
          ih fun other member => within other (List.mem_cons_of_mem _ member)]
  refine Eq.trans ?_ places
  have chosen := forall₂_filterMap_getElem? seated order
  generalize order.filterMap (slots.zipIdx[·]?) = left at chosen
  generalize order.filterMap (workers[·]?) = right at chosen
  induction chosen with
  | nil => rfl
  | cons seats _ ih => rw [List.map_cons, List.map_cons, seats.number, ih]

theorem seats_of {bytes : Nat} {slots : List Slot} {workers : List Worker} {number : Nat}
    (seated : List.Forall₂ (fun place => Seats bytes place.1 place.2) (slots.zipIdx number)
      workers) : ∀ worker ∈ workers, ∃ slot ∈ slots, ∃ number, Seats bytes slot number worker := by
  induction slots generalizing number workers with
  | nil =>
      cases seated
      simp
  | cons slot slots ih =>
      cases seated with
      | cons seats others =>
          refine List.forall_mem_cons.mpr ⟨⟨slot, List.mem_cons_self, number, seats⟩, ?_⟩
          intro worker member
          obtain ⟨other, among, seats⟩ := ih others worker member
          exact ⟨other, List.mem_cons_of_mem _ among, seats⟩

theorem runThreads_cases (heard : host.Heard record) (attendance : Attendance shared.hub [])
    {turns : Turns} {slots : List Slot}
    (order : turns.order.Perm (List.range slots.length)) (world : W) :
    (∃ stop after, runFrom (runThreads host prepared turns slots) shared world =
      ((.error stop, after), world) ∧ ∃ slot ∈ slots, Unmade prepared slot stop) ∨
    ∃ enlisted played after last, enlisted.stopped = shared.stopped ∧
      Hub.Level shared.hub enlisted.hub ∧
      (∀ turn ∈ played, ∃ slot ∈ slots, ∃ number,
        Seats (prepared.shape.keyLength + prepared.settings.valueSize) slot number turn.worker) ∧
      played.map (fun turn : Turn => turn.worker.number) = turns.order ∧
      Relay host prepared.settings record enlisted
        (host.measure prepared.settings.folder world).2 played after last ∧
      runFrom (runThreads host prepared turns slots) shared world =
        ((match (host.measure prepared.settings.folder world).1,
              (host.measure prepared.settings.folder last).1 with
          | .ok before, .ok ending => .ok (played.findSome? Turn.failure?, before, ending)
          | .error cause, _ => .error (.failure (.file cause))
          | _, .error cause => .error (.failure (.file cause)),
          { after with stopped := after.stopped || turns.broken.any (· < slots.length) }),
          (host.measure prepared.settings.folder last).2) := by
  unfold runThreads
  rw [runFrom_bind]
  rcases enlistAll_cases prepared 0 slots attendance world with
    ⟨workers, enlisted, runs, seated, attached, same, level⟩ |
    ⟨stop, after, runs, slot, member, unmade⟩
  · rw [List.append_nil] at attached
    have count : workers.length = slots.length := by
      rw [← seated.length_eq, List.length_zipIdx]
    have chosen : (turns.order.filterMap (workers[·]?)).Perm workers :=
      perm_filterMap_getElem? (count.symm ▸ order)
    obtain ⟨played, after, last, turned, relay, relayed⟩ := threadTurns_relayed heard none
      (paired_of (forall₂_filterMap_getElem? seated turns.order))
      (attached.perm (chosen.symm.map _))
    refine .inr ⟨enlisted, played, after, last, same, level, fun turn member => ?_, ?_, relay, ?_⟩
    · have among : turn.worker ∈ played.map Turn.worker := List.mem_map_of_mem member
      rw [turned] at among
      exact seats_of seated _ (chosen.mem_iff.mp among)
    · rw [← Function.comp_def, ← List.map_map, turned]
      exact numbers_chosen seated fun index member =>
        List.mem_range.mp (order.mem_iff.mp member)
    · rw [runs]
      dsimp only
      rw [runFrom_lift, runFrom_bind, relayed]
      dsimp only
      rw [runFrom_lift, count]
      -- Breaking threads stop the run, whatever the counters are.
      cases turns.broken.any fun number => decide (number < slots.length) with
      | false =>
          rw [if_neg (by simp), Bool.or_false]
          rcases (host.measure prepared.settings.folder world).1 with cause | before
          · rfl
          rcases (host.measure prepared.settings.folder last).1 with cause | ending
          · rfl
          · rfl
      | true =>
          rw [if_pos rfl, Bool.or_true, runFrom_modifies]
          rcases (host.measure prepared.settings.folder world).1 with cause | before
          · rfl
          rcases (host.measure prepared.settings.folder last).1 with cause | ending
          · rfl
          · rfl
  · rw [runs]
    exact .inl ⟨stop, after, rfl, slot, member, unmade⟩

section Enlisting

variable {slot : Slot} {stop : Stop} {clock : Nat}

theorem Walk.new_cramped {shape : Keys.Shape} {space start valueSize : Nat}
    (inside : space < shape.spaces)
    (failed : Keys.Walk.new shape space start valueSize 0 = .error stop) :
    wordLimit / 2 ≤ shape.keySize + valueSize ∧ ∃ cause, stop = .panic cause := by
  unfold Keys.Walk.new at failed
  split at failed
  · omega
  split at failed
  · next large =>
    cases failed
    exact ⟨(Nat.div_le_self ..).trans large, _, rfl⟩
  split at failed
  · next large =>
    cases failed
    exact ⟨large, _, rfl⟩
  · cases failed

theorem Unmade.cramped {settings : Settings} (accepted : prepare settings clock = .ok prepared)
    (member : slot ∈ prepared.plan.slots settings) (unmade : Unmade prepared slot stop) :
    wordLimit / 2 ≤ settings.keySize + settings.valueSize ∧
      ∃ cause, stop = .panic cause ∧ (cause = .overflow ∨ cause = .allocation) := by
  obtain ⟨valid, same, planned, shaped, _⟩ := prepare_eq accepted
  obtain ⟨_, _, keySize, spaces, _⟩ := Keys.Shape.setup_sound shaped
  obtain ⟨busy, inside, pairs⟩ := Plan.slot_fits planned (validate_eq valid).1 member
  have positive := Plan.spaceStep_pos planned
  have walks {space : Nat} (fits : space < prepared.plan.spaces)
      (failed : Keys.Walk.new prepared.shape space slot.start prepared.settings.valueSize 0 =
        .error stop) :
      wordLimit / 2 ≤ settings.keySize + settings.valueSize ∧ ∃ cause, stop = .panic cause := by
    rw [← keySize, ← same]
    exact Walk.new_cramped (spaces ▸ fits) failed
  have reason : wordLimit / 2 ≤ settings.keySize + settings.valueSize ∧
      ∃ cause, stop = .panic cause := by
    rcases id unmade with ⟨idle, _⟩ | ⟨space, rfl | ⟨pairing, rfl⟩, failed⟩
    · rw [busy] at idle
      cases idle
    · exact walks (by omega) failed
    · have two := pairs pairing
      exact walks (by omega) failed
  obtain ⟨large, cause, rfl⟩ := reason
  exact ⟨large, cause, rfl, unmade.panics⟩

end Enlisting

/-- What the sums of a run are reckoned from. -/
def Prepared.reckoning (prepared : Prepared) : Reckoning prepared.settings where
  pairSize := prepared.settings.keySize + prepared.settings.valueSize
  kinds := prepared.settings.selected.toList
  base _ := 0
  tended := True
  idle := (∃ slot ∈ prepared.plan.slots prepared.settings, slot.share = 0) ∧
    (prepared.settings.continuous = true ∨ wordLimit ≤ prepared.settings.passes)

/-- A worker of the run adds no more to its sums than they are reckoned with. -/
theorem Seats.suits {clock number : Nat} {slot : Slot} {worker : Worker}
    (accepted : prepare prepared.settings clock = .ok prepared)
    (member : slot ∈ prepared.plan.slots prepared.settings)
    (seats : Seats (prepared.shape.keyLength + prepared.settings.valueSize) slot number worker) :
    worker.Suits prepared.reckoning where
  paired := seats.paired
  within shared := by
    obtain ⟨_, _, _, shaped, _⟩ := prepare_eq accepted
    obtain ⟨sound, _, keySize, _⟩ := Keys.Shape.setup_sound shaped
    have within := seats.within shared
    rw [sound.keyLength_eq, keySize] at within
    exact within
  listed kind mine := by
    obtain ⟨valid, _, planned, shaped, _⟩ := prepare_eq accepted
    obtain ⟨sound, _, _, _, _, period⟩ := Keys.Shape.setup_sound shaped
    have allotted := Plan.slots_allotted planned (validate_eq valid).1 (period ▸ sound.keys)
      (setup_sectors shaped)
    rw [seats.kinds, KindSet.mem_toList] at mine
    exact (KindSet.mem_toList _ _).mpr (allotted.selected slot member kind mine)
  idle shared workless endless := by
    refine ⟨⟨slot, member, ?_⟩, endless⟩
    rcases workless with none | nothing
    · exact seats.share.symm.trans none
    · have some := seats.busy
      rw [← seats.kinds] at some
      exact absurd nothing (KindSet.toList_ne_nil some)

/-- What can make a run panic: a panic of the engine, sums, pools or passes that are larger than
anything can be, pairs longer than any buffer, or counters too far apart. -/
inductive Thwarts (samples : Usage → Usage → Prop) (prepared : Prepared) (made : List Exchange) :
    Panic → Prop where
  | engine {exchange : Exchange} {reason : String} (member : exchange ∈ made)
      (panics : exchange.answer.reply = .panic reason) :
      Thwarts samples prepared made (.engine reason)
  | strained {cause : Panic} (strain : Strain prepared.reckoning made cause) :
      Thwarts samples prepared made cause
  | unmade {cause : Panic}
      (large : wordLimit / 2 ≤ prepared.settings.keySize + prepared.settings.valueSize)
      (memory : cause = .overflow ∨ cause = .allocation) : Thwarts samples prepared made cause
  | counters {before after : Usage} {cause : Panic} (taken : samples before after)
      (apart : Consumption.between before after = .error cause) :
      Thwarts samples prepared made cause

variable {samples : Usage → Usage → Prop}

namespace Thwarts

variable {made whole : List Exchange} {cause : Panic}

theorem of_excuse (excuse : Excuse (Strain prepared.reckoning) made cause) :
    Thwarts samples prepared made cause := by
  rcases excuse with strain | ⟨exchange, member, reason, panics, rfl⟩
  · exact .strained strain
  · exact .engine member panics

theorem mono (thwarts : Thwarts samples prepared made cause) (among : made <:+: whole) :
    Thwarts samples prepared whole cause := by
  cases thwarts with
  | engine member panics => exact .engine (among.subset member) panics
  | strained strain => exact .strained (strain.mono among)
  | unmade large memory => exact .unmade large memory
  | counters taken apart => exact .counters taken apart

/-- Nothing makes a run panic if the engine does not and all numbers are small. -/
theorem absent (calm : ∀ exchange ∈ made, ∀ reason, exchange.answer.reply ≠ .panic reason)
    (bearable : ¬ Strain prepared.reckoning made cause)
    (small : prepared.settings.keySize + prepared.settings.valueSize < wordLimit / 2)
    (modest : ∀ before after, samples before after → before.Modest ∧ after.Modest) :
    ¬ Thwarts samples prepared made cause := by
  intro thwarts
  cases thwarts with
  | engine member panics => exact calm _ member _ panics
  | strained strain => exact bearable strain
  | unmade large memory => omega
  | counters taken apart =>
      obtain ⟨first, last⟩ := modest _ _ taken
      obtain ⟨used, possible⟩ := Scene.between_modest first last
      rw [possible] at apart
      cases apart

end Thwarts

/-- The engine was offered options, and then some workers had one turn each.  All contexts are
disposed of unless a worker panicked, and every panic has its reason. -/
structure Session {α : Type} (host : Host (StateM W)) (record : W → List Exchange)
    (samples : Usage → Usage → Prop) (prepared : Prepared) (turns : List Turn)
    (made : List Exchange) (result : Except Stop α) : Prop where
  said : ∃ offered, made = offered ++ turns.flatMap Turn.said ∧
    ∀ exchange ∈ offered, ∃ option, exchange.call = .option option
  played : ∀ turn ∈ turns, ∃ shared world desk left,
    turn.Played host prepared.settings record shared world desk left
  distinct : (turns.map fun turn => turn.worker.number).Nodup
  tidy : (∃ turn ∈ turns, ∃ cause, turn.result = .error (.panic cause) ∧
      Thwarts samples prepared made cause) ∨
    ∀ turn ∈ turns, turn.Tidy host prepared.settings record
  reasons : ∀ cause, result = .error (.panic cause) → Thwarts samples prepared made cause

namespace Session

variable {α β : Type} {turns : List Turn} {made more : List Exchange}

theorem rejected {result : Except Stop α}
    (offers : ∀ exchange ∈ made, ∃ option, exchange.call = .option option)
    (reasons : ∀ cause, result = .error (.panic cause) → Thwarts samples prepared made cause) :
    Session host record samples prepared [] made result where
  said := ⟨made, by simp, offers⟩
  played := by simp
  distinct := .nil
  tidy := .inr (by simp)
  reasons := reasons

theorem offer {result : Except Stop α}
    (session : Session host record samples prepared turns more result)
    (offers : ∀ exchange ∈ made, ∃ option, exchange.call = .option option) :
    Session host record samples prepared turns (made ++ more) result where
  said := by
    obtain ⟨offered, rfl, others⟩ := session.said
    exact ⟨made ++ offered, (List.append_assoc ..).symm,
      List.forall_mem_append.mpr ⟨offers, others⟩⟩
  played := session.played
  distinct := session.distinct
  tidy := by
    rcases session.tidy with ⟨turn, member, cause, panics, thwarts⟩ | tidy
    · exact .inl ⟨turn, member, cause, panics, thwarts.mono (List.suffix_append made more).isInfix⟩
    · exact .inr tidy
  reasons cause panics :=
    (session.reasons cause panics).mono (List.suffix_append made more).isInfix

theorem heard {result : Except Stop α}
    (session : Session host record samples prepared turns made result) {turn : Turn}
    (member : turn ∈ turns) : turn.said <:+: made := by
  obtain ⟨offered, rfl, _⟩ := session.said
  have among : turn.said <:+: turns.flatMap Turn.said :=
    List.infix_of_mem_flatten (List.mem_map_of_mem member)
  exact among.trans (List.suffix_append ..).isInfix

end Session

theorem Unmade.session {α : Type} {clock : Nat} {slot : Slot} {stop : Stop}
    (accepted : prepare prepared.settings clock = .ok prepared)
    (member : slot ∈ prepared.plan.slots prepared.settings) (unmade : Unmade prepared slot stop) :
    Session host record samples prepared [] [] (.error stop : Except Stop α) := by
  refine .rejected (by simp) ?_
  rintro cause ⟨⟩
  obtain ⟨large, _, ⟨⟩, memory⟩ := unmade.cramped accepted member
  exact .unmade large memory

/-- The only turn of a run. -/
theorem Turn.Played.session {turn : Turn} {desk : Desk} {left : W} (heard : host.Heard record)
    (played : turn.Played host prepared.settings record shared world desk left)
    (suits : turn.worker.Suits prepared.reckoning) (tolled : shared.Tolled prepared.reckoning []) :
    Session host record samples prepared [turn] turn.said turn.result := by
  have meets := played.meets heard suits tolled
  have session
      (tidy : (∃ cause, turn.result = .error (.panic cause) ∧
          Thwarts samples prepared turn.said cause) ∨ Tenancy turn.worker.number turn.said)
      (reasons : ∀ cause, turn.result = .error (.panic cause) →
        Thwarts samples prepared turn.said cause) :
      Session host record samples prepared [turn] turn.said turn.result :=
    { said := ⟨[], by simp, by simp⟩
      played := List.forall_mem_singleton.mpr ⟨_, _, _, _, played⟩
      distinct := List.nodup_singleton _
      tidy := by
        rcases tidy with panics | tenancy
        · exact .inl ⟨turn, List.mem_singleton_self turn, panics⟩
        · exact .inr (List.forall_mem_singleton.mpr
            ⟨⟨_, _, _, _, played⟩, played.own heard, tenancy⟩)
      reasons }
  rcases ended : turn.result with (cause | cause) | done
  · rw [ended] at meets session
    exact session (.inr meets.2.1) (by simp)
  · rw [ended] at meets session
    refine session (.inl ⟨cause, rfl, .of_excuse meets⟩) ?_
    rintro _ ⟨⟩
    exact .of_excuse meets
  · rw [ended] at meets session
    exact session (.inr meets.2.1) (by simp)

/-- The result of a call outside the workers, by its reply. -/
def replied : Engine.Reply → Except Stop Unit
  | .ok _ => .ok ()
  | .error cause => .error (.failure (.engine cause))
  | .panic reason => .error (.panic (.engine reason))

theorem runFrom_demandCall (host : Host (StateM W)) (call : Call) (shared : Shared) (world : W) :
    runFrom (demandCall host call) shared world =
      ((replied (host.engine call world).1.reply,
        shared.answered [⟨call, (host.engine call world).1⟩]), (host.engine call world).2) := by
  unfold demandCall
  rw [runFrom_lift, runFrom_modifies]
  rcases (host.engine call world).1.reply with pair | cause | reason
  · rfl
  · rfl
  · rfl

theorem replied_panics {reply : Engine.Reply} {cause : Panic}
    (panicked : replied reply = .error (.panic cause)) :
    ∃ reason, reply = .panic reason ∧ cause = .engine reason := by
  cases reply with
  | ok pair => cases panicked
  | error error => cases panicked
  | panic reason =>
      cases panicked
      exact ⟨reason, rfl, rfl⟩

theorem applyEngineOptions_tells (heard : host.Heard record) (options : List String) :
    Tells record (applyEngineOptions host options) shared world fun made result after _ =>
      after = shared.answered made ∧
      (∀ exchange ∈ made, ∃ option, exchange.call = .option option) ∧
      ∀ cause, result = .error (.panic cause) →
        ∃ exchange ∈ made, ∃ reason,
          exchange.answer.reply = .panic reason ∧ cause = .engine reason := by
  induction options generalizing shared world with
  | nil => exact Tells.pure ⟨rfl, by simp, by simp⟩
  | cons option options ih =>
      unfold applyEngineOptions
      apply Tells.bind
      refine Tells.known (runFrom_demandCall ..) (heard.engine _ _) ?_
      have offers : ∀ exchange ∈ [(⟨.option option, (host.engine (.option option) world).1⟩ :
          Exchange)], ∃ option, exchange.call = .option option :=
        List.forall_mem_singleton.mpr ⟨option, rfl⟩
      rcases replies : replied (host.engine (.option option) world).1.reply with stop | done
      · refine ⟨rfl, offers, ?_⟩
        rintro cause ⟨⟩
        exact ⟨_, List.mem_singleton_self _, replied_panics replies⟩
      · apply ih.mono
        rintro more result after _ ⟨rfl, others, panics⟩
        refine ⟨(Shared.answered_append ..).symm, List.forall_mem_append.mpr ⟨offers, others⟩, ?_⟩
        intro cause same
        obtain ⟨exchange, member, panicked⟩ := panics cause same
        exact ⟨exchange, List.mem_append_right _ member, panicked⟩

/-- Files may refuse anything; only counters that are too far apart make a report panic. -/
theorem Reporting.any (host : Host (StateM W)) (samples : Usage → Usage → Prop)
    (prepared : Prepared) (reportName : Option (String → String)) :
    Reporting host reportName (fun stop => ∀ cause, stop = .panic cause →
      Thwarts samples prepared [] cause) fun _ => True where
  say _ _ _ := trivial
  mirror _ _ _ _ := trivial
  create _ _ _ _ _ := ⟨trivial, by simp⟩
  write _ _ _ _ _ _ := ⟨trivial, by simp⟩

section Stages

variable {samples : Usage → Usage → Prop} {clock : Nat} {turns : Turns}

end Stages

end StoreBench.Run
