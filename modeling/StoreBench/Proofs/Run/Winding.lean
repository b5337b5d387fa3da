import StoreBench.Proofs.Run.Relay

/-! Winding down.

Once the run is stopped, by a worker that failed or by an interrupt, no worker starts a kind any
more; a kind that is at work then is finished.
-/

namespace StoreBench.Run

open StoreBench.Engine (Exchange)

variable {W : Type} {settings : Settings} {turn : Turn} {turns others : List Turn}
  {made more : List Exchange}

/-- After an interrupt, the worker finishes the kind that it is at, and no other call of a bracket
follows. -/
def WindsDown (settings : Settings) (turns : List Turn) (made : List Exchange) : Prop :=
  ∀ before exchange after, made = before ++ exchange :: after → exchange.interrupted = true →
    ∃ finish rest, after = finish ++ rest ∧ (∀ later ∈ rest, later.aside = true) ∧
      (exchange.aside = true ∧ finish = [] ∨
        ∃ turn ∈ turns, ∃ kind brackets earlier begun,
          KindRun settings turn.worker.number kind turn.worker.share brackets true ∧
            before = earlier ++ begun ∧ brackets.flatten = begun ++ exchange :: finish)

namespace WindsDown

theorem mono (winds : WindsDown settings turns made) (among : ∀ turn ∈ turns, turn ∈ others) :
    WindsDown settings others made := by
  intro before exchange after same interrupt
  obtain ⟨finish, rest, cut, apart, within⟩ := winds before exchange after same interrupt
  refine ⟨finish, rest, cut, apart, within.imp_right ?_⟩
  rintro ⟨turn, member, run⟩
  exact ⟨turn, among turn member, run⟩

theorem aside (turns : List Turn) (apart : ∀ exchange ∈ made, exchange.aside = true) :
    WindsDown settings turns made := by
  rintro before exchange after rfl _
  obtain ⟨_, apart⟩ := List.forall_mem_append.mp apart
  obtain ⟨mine, apart⟩ := List.forall_mem_cons.mp apart
  exact ⟨[], after, rfl, apart, .inl ⟨mine, rfl⟩⟩

theorem kind {kind : Kind} {brackets : List (List Exchange)} (member : turn ∈ turns)
    (run : KindRun settings turn.worker.number kind turn.worker.share brackets true) :
    WindsDown settings turns brackets.flatten := by
  intro before exchange after same _
  exact ⟨after, [], (List.append_nil _).symm, by simp,
    .inr ⟨turn, member, kind, brackets, [], before, run, rfl, same⟩⟩

/-- What follows an interrupt may only be aside. -/
theorem append (first : WindsDown settings turns made) (second : WindsDown settings turns more)
    (quiet : made.any Exchange.interrupted = true → ∀ exchange ∈ more, exchange.aside = true) :
    WindsDown settings turns (made ++ more) := by
  intro before exchange after same interrupt
  have later {between : List Exchange} (split : more = between ++ exchange :: after) :
      ∃ finish rest, after = finish ++ rest ∧ (∀ later ∈ rest, later.aside = true) ∧
        (exchange.aside = true ∧ finish = [] ∨ ∃ turn ∈ turns, ∃ kind brackets earlier begun,
          KindRun settings turn.worker.number kind turn.worker.share brackets true ∧
            made ++ between = earlier ++ begun ∧
            brackets.flatten = begun ++ exchange :: finish) := by
    obtain ⟨finish, rest, cut, apart, within⟩ := second between exchange after split interrupt
    refine ⟨finish, rest, cut, apart, within.imp_right ?_⟩
    rintro ⟨turn, member, kind, brackets, earlier, begun, run, rfl, whole⟩
    exact ⟨turn, member, kind, brackets, made ++ earlier, begun, run,
      (List.append_assoc ..).symm, whole⟩
  rcases List.append_eq_append_iff.mp same with ⟨between, rfl, split⟩ | ⟨between, rfl, split⟩
  · exact later split
  · cases between with
    | nil =>
        rw [List.append_nil] at later
        have ends := @later [] split.symm
        rwa [List.append_nil] at ends
    | cons head between =>
        obtain ⟨rfl, rfl⟩ := List.cons.inj split
        obtain ⟨finish, rest, rfl, apart, within⟩ := first before exchange between rfl interrupt
        have others := quiet (by simp [interrupt])
        exact ⟨finish, rest ++ more, List.append_assoc ..,
          List.forall_mem_append.mpr ⟨apart, others⟩, within⟩

end WindsDown

theorem Sweeps.windsDown {stopped whole : Bool} {sweeps : List (List Exchange)}
    (sweeping : Sweeps settings turn.worker.number turn.worker.share stopped sweeps whole)
    (all : whole = true) (member : turn ∈ turns) : WindsDown settings turns sweeps.flatten := by
  induction sweeping with
  | rest stopped => exact .aside turns (by simp)
  | broken made => cases all
  | step run others ih =>
      refine (WindsDown.kind member run).append (ih all) fun interrupt => ?_
      rw [interrupt] at others
      rw [others.eq_nil]
      simp

namespace Turn

theorem failure?_eq_none (turn : Turn) : turn.failure? = none ↔ turn.result = .ok () := by
  unfold failure?
  rcases turn.result with (cause | cause) | done
  · simp
  · simp
  · simp

namespace Played

variable {host : Host (StateM W)} {record : W → List Exchange} {shared : Shared} {world left : W}
  {desk : Desk}

theorem voiced (heard : host.Heard record)
    (played : turn.Played host settings record shared world desk left) :
    Voiced settings turn.worker.number ⟨shared, turn.worker⟩ turn.said (turn.result = .ok ()) desk ∧
      ∀ cause, turn.result = .error (.failure cause) → desk.shared.stopped = true := by
  obtain ⟨made, said, told⟩ := @fulfil_tells _ settings turn.worker.number host.stage record
    ⟨shared, turn.worker⟩ world heard.stage played.paired
  rw [played.ran] at said told
  obtain rfl := List.append_cancel_left (said.symm.trans played.heard)
  exact told

/-- A worker that finds the run stopped makes no call of a bracket. -/
theorem quiet (heard : host.Heard record)
    (played : turn.Played host settings record shared world desk left)
    (stopped : shared.stopped = true) : ∀ exchange ∈ turn.said, exchange.aside = true := by
  obtain ⟨opening, sweeps, closing, whole, said, apart, sweeping, _⟩ :=
    (played.voiced heard).1.spoken
  rw [stopped, Bool.true_or] at sweeping
  rw [said, sweeping.eq_nil]
  exact apart

theorem windsDown (heard : host.Heard record)
    (played : turn.Played host settings record shared world desk left)
    (sound : turn.failure? = none) (member : turn ∈ turns) :
    WindsDown settings turns turn.said := by
  obtain ⟨opening, sweeps, closing, whole, said, apart, sweeping, well⟩ :=
    (played.voiced heard).1.spoken
  obtain ⟨before, behind⟩ := List.forall_mem_append.mp apart
  have all := well (turn.failure?_eq_none.mp sound)
  rw [said]
  refine (WindsDown.aside turns before).append
    ((sweeping.windsDown all member).append (.aside turns behind) fun _ => behind) ?_
  intro interrupt
  rw [interrupt, Bool.or_true] at sweeping
  rw [sweeping.eq_nil]
  exact behind

/-- A turn stops the run by an interrupt or by failing, and no turn takes that back. -/
theorem stops (heard : host.Heard record)
    (played : turn.Played host settings record shared world desk left) :
    (desk.shared.stopped || turn.panicked) = (shared.stopped ||
      turn.said.any Exchange.interrupted || turn.failure?.isSome) := by
  obtain ⟨voiced, fails⟩ := played.voiced heard
  unfold panicked failure?
  rcases ended : turn.result with (cause | cause) | done
  · simp [fails cause ended]
  · simp
  · simp [voiced.stopped ended]

theorem leaves_stopped (heard : host.Heard record)
    (played : turn.Played host settings record { shared with clock := 0 } world desk left)
    {current : Shared} {next : W}
    (leaves : runFrom (dismiss host desk.worker)
      { desk.shared with stopped := desk.shared.stopped || turn.panicked } left =
        ((.ok (), current), next)) :
    current.stopped = (shared.stopped || turn.said.any Exchange.interrupted ||
      turn.failure?.isSome) := by
  have kept := dismiss_stopped host desk.worker
    { desk.shared with stopped := desk.shared.stopped || turn.panicked } left
  have stopped := played.stops heard
  rw [leaves] at kept
  exact kept.trans stopped

end Played

end Turn

namespace Relay

variable {host : Host (StateM W)} {record : W → List Exchange} {shared after : Shared}
  {world last : W}

theorem stops (heard : host.Heard record)
    (relay : Relay host settings record shared world turns after last) :
    after.stopped = (shared.stopped || (turns.flatMap Turn.said).any Exchange.interrupted ||
      turns.any (·.failure?.isSome)) := by
  induction relay with
  | done shared world => simp
  | @turn shared current after world middle left last turn turns desk played leaves rest ih =>
      rw [ih, played.leaves_stopped heard leaves, List.flatMap_cons, List.any_append, List.any_cons]
      simp only [Bool.or_assoc, Bool.or_left_comm]

theorem quiet (heard : host.Heard record)
    (relay : Relay host settings record shared world turns after last)
    (stopped : shared.stopped = true) :
    ∀ turn ∈ turns, ∀ exchange ∈ turn.said, exchange.aside = true := by
  induction relay with
  | done shared world => simp
  | @turn shared current after world middle left last turn turns desk played leaves rest ih =>
      refine List.forall_mem_cons.mpr ⟨played.quiet heard stopped, ih ?_⟩
      rw [played.leaves_stopped heard leaves, stopped, Bool.true_or, Bool.true_or]

/-- The turns after some others are a relay of their own. -/
theorem split {first second : List Turn}
    (relay : Relay host settings record shared world (first ++ second) after last) :
    ∃ middle left, Relay host settings record shared world first middle left ∧
      Relay host settings record middle left second after last := by
  induction first generalizing shared world with
  | nil => exact ⟨shared, world, .done shared world, relay⟩
  | cons turn first ih =>
      cases relay with
      | turn played leaves rest =>
          obtain ⟨middle, left, begun, ends⟩ := ih rest
          exact ⟨middle, left, .turn played leaves begun, ends⟩

/-- No worker makes a call of a bracket after one that failed. -/
theorem quiet_after (heard : host.Heard record) {earlier later : List Turn} {cause : Failure}
    (relay : Relay host settings record shared world (earlier ++ turn :: later) after last)
    (fails : turn.failure? = some cause) :
    ∀ next ∈ later, ∀ exchange ∈ next.said, exchange.aside = true := by
  rw [List.append_cons] at relay
  obtain ⟨middle, left, begun, ends⟩ := relay.split
  refine ends.quiet heard ?_
  rw [begun.stops heard]
  simp [fails]

theorem windsDown (heard : host.Heard record)
    (relay : Relay host settings record shared world turns after last)
    (sound : ∀ turn ∈ turns, turn.failure? = none) :
    WindsDown settings turns (turns.flatMap Turn.said) := by
  induction relay with
  | done shared world => exact .aside _ (by simp)
  | @turn shared current after world middle left last turn turns desk played leaves rest ih =>
      obtain ⟨well, others⟩ := List.forall_mem_cons.mp sound
      refine (played.windsDown heard well List.mem_cons_self).append
        ((ih others).mono fun turn => List.mem_cons_of_mem _) fun interrupt => ?_
      have quiet := rest.quiet heard ((played.leaves_stopped heard leaves).trans (by
        rw [interrupt, Bool.or_true, Bool.true_or]))
      intro exchange member
      obtain ⟨next, among, said⟩ := List.mem_flatMap.mp member
      exact quiet next among exchange said

end Relay

end StoreBench.Run
