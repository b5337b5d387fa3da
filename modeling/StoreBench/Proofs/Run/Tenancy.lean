import StoreBench.Proofs.Run.Relay

/-! The contexts of the workers.

A worker calls on its own context only, and by the end of its turn it has disposed of it.  Where it
does not, the engine panicked, or the sums of the run, which all turns add to, are larger than
anything can be.
-/

namespace StoreBench.Run

open StoreBench.Engine (Answer Call Exchange)
open StoreBench.Latency (Hub)

variable {W : Type} {settings : Settings} {context : Nat}

/-- The call is made on a context between its making and its end. -/
def Inside (context : Nat) (call : Call) : Prop :=
  call.context? = some context ∧ call ≠ .newContext context ∧ call ≠ .dispose context

/-- A context that was made is disposed of once, by the last call on it. -/
inductive Tenancy (context : Nat) : List Exchange → Prop where
  | refused {opened : Answer} {cause : EngineError} (refuses : opened.reply = .error cause) :
      Tenancy context [⟨.newContext context, opened⟩]
  | held {opened disposed : Answer} {pair : Pair} {said : List Exchange}
      (opens : opened.reply = .ok pair)
      (inside : ∀ exchange ∈ said, Inside context exchange.call) :
      Tenancy context
        (⟨.newContext context, opened⟩ :: (said ++ [⟨.dispose context, disposed⟩]))

theorem Tenancy.disposes {made : List Exchange} {other : Nat} {answer : Answer} {pair : Pair}
    (tenancy : Tenancy context made) (member : ⟨.newContext other, answer⟩ ∈ made)
    (opens : answer.reply = .ok pair) : .dispose context ∈ made.map Exchange.call := by
  cases tenancy with
  | refused refuses =>
      cases List.mem_singleton.mp member
      rw [opens] at refuses
      cases refuses
  | held opens inside => simp

theorem Scripted.inside {fine : Exchange → Bool} {options : List String}
    {offered : List Exchange} {whole : Bool}
    (scripted : Scripted fine (options.map (Call.contextOption context)) offered whole) :
    ∀ exchange ∈ offered, Inside context exchange.call := by
  intro exchange member
  have among := scripted.calls_prefix.subset (List.mem_map_of_mem member)
  obtain ⟨option, _, same⟩ := List.mem_map.mp among
  rw [← same]
  exact ⟨rfl, by simp, by simp⟩

theorem Segment.Flat.inside {segment : Segment} (flat : segment.Flat context) :
    ∀ exchange ∈ segment.made, Inside context exchange.call := by
  obtain ⟨begun, steps, closing, same, inner, ends⟩ := flat
  rw [same]
  refine List.forall_mem_cons.mpr ⟨⟨rfl, by simp, by simp⟩, List.forall_mem_append.mpr ⟨?_, ?_⟩⟩
  · intro exchange member
    obtain ⟨step, pair, same⟩ := inner exchange member
    rw [same]
    exact ⟨rfl, by simp, by simp⟩
  · rcases ends with rfl | ⟨ended, rfl⟩
    · simp
    · exact List.forall_mem_singleton.mpr ⟨rfl, by simp, by simp⟩

theorem Conversation.tenancy {kinds : List Kind} {share : Nat} {rounds : List (List Segment)}
    {made : List Exchange} {verdict : Verdict}
    (said : Conversation settings context kinds share rounds made verdict) :
    Tenancy context made := by
  cases said with
  | refused refuses => exact .refused refuses
  | rejected opens options => exact .held opens options.inside
  | worked opens options work =>
      rw [← List.append_assoc]
      refine .held opens (List.forall_mem_append.mpr ⟨options.inside, ?_⟩)
      intro exchange member
      obtain ⟨segment, among, within⟩ := List.mem_flatMap.mp member
      obtain ⟨_, _, _, _, bracket⟩ := work.smooth.bracket segment among
      exact bracket.flat.inside exchange within

section Sums

variable {r : Reckoning settings} {said : List Exchange} {shared after : Shared} {worker : Worker}

/-- The hub has no larger sums than what was said can have. -/
def Shared.Tolled (r : Reckoning settings) (said : List Exchange) (shared : Shared) : Prop :=
  ∀ kind, (shared.hub.accounts.get kind).enabled = true →
    (shared.hub.accounts.get kind).total ≤ r.base kind + r.toll kind said

theorem Shared.Tolled.level (tolled : shared.Tolled r said)
    (level : Hub.Level shared.hub after.hub) : after.Tolled r said := by
  intro kind collected
  rw [level.total]
  exact tolled kind ((level.enabled kind).symm.trans collected)

/-- The kinds, the pairs and the passes of the worker are among those reckoned with. -/
structure Worker.Suits (r : Reckoning settings) (worker : Worker) : Prop where
  paired : ∀ shared, Desk.Paired ⟨shared, worker⟩
  within : ∀ shared, Desk.Within ⟨shared, worker⟩ r.pairSize
  listed : ∀ kind ∈ worker.kinds.toList, kind ∈ r.kinds
  idle : ∀ shared, Desk.Workless ⟨shared, worker⟩ →
    settings.continuous = true ∨ wordLimit ≤ settings.passes → r.idle

theorem Worker.Suits.enduring (suits : worker.Suits r) (tended : Desk.Tended ⟨shared, worker⟩)
    (tolled : shared.Tolled r said) : Enduring r said 0 ⟨shared, worker⟩ where
  afforded := ⟨suits.paired shared, suits.within shared, fun _ => tended, tolled⟩
  listed := suits.listed
  idle := suits.idle shared
  spoken := .inr (Nat.zero_le _)
  wanted := .inr (Nat.zero_le _)

variable {host : Host (StateM W)} {record : W → List Exchange} {turn : Turn} {world left : W}
  {desk : Desk}

namespace Turn

/-- A worker had its turn in some state of a run.  It called on its own context only and left none
behind. -/
structure Tidy (host : Host (StateM W)) (settings : Settings) (record : W → List Exchange)
    (turn : Turn) : Prop where
  played : ∃ shared world desk left, turn.Played host settings record shared world desk left
  own : ∀ exchange ∈ turn.said, exchange.call.context? = some turn.worker.number
  tenancy : Tenancy turn.worker.number turn.said

theorem Played.own (heard : host.Heard record)
    (played : turn.Played host settings record shared world desk left) :
    ∀ exchange ∈ turn.said, exchange.call.context? = some turn.worker.number := by
  obtain ⟨made, said, own⟩ := @Played.keeps _ _ _ _ _ _ _ _ _ played
    (fun now => ∃ made, record now.2 = record world ++ made ∧
      ∀ exchange ∈ made, exchange.call.context? = some turn.worker.number)
    (fun _ _ effect => effect.own heard.stage) ⟨[], by simp, by simp⟩
  rw [List.append_cancel_left (played.heard.symm.trans said)]
  exact own

theorem Played.meets (heard : host.Heard record)
    (played : turn.Played host settings record shared world desk left)
    (suits : turn.worker.Suits r) (tolled : shared.Tolled r said) :
    Meets (since (Strain r) said) (fun made _ after => Tenancy turn.worker.number made ∧
      after.shared.Tolled r (said ++ made)) turn.said (turn.result, desk) := by
  have enduring := suits.enduring played.tended tolled
  obtain ⟨made, told, meets⟩ :=
    @fulfil_yields _ host.stage _ _ turn.worker.number _ _ enduring world
  have heard := told record heard.stage
  rw [played.ran] at heard meets
  obtain rfl := List.append_cancel_left (heard.symm.trans played.heard)
  have goes {rounds : List (List Segment)} {verdict : Verdict} {ok : Bool} {middle : Desk}
      (fulfilled : Fulfilled r turn.worker.number rounds verdict turn.said ok
        ⟨shared, turn.worker⟩ middle) : Tenancy turn.worker.number turn.said ∧
        (middle.ended ok).shared.Tolled r (said ++ turn.said) :=
    ⟨fulfilled.said.tenancy, (fulfilled.worked.afforded enduring.afforded).totals⟩
  generalize turn.result = result at meets ⊢
  rcases result with (cause | cause) | done
  · obtain ⟨calm, _, _, _, rfl, fulfilled⟩ := meets
    exact ⟨calm, goes fulfilled⟩
  · exact meets
  · obtain ⟨calm, _, _, _, rfl, fulfilled⟩ := meets
    exact ⟨calm, goes fulfilled⟩

end Turn

theorem dismiss_level (host : Host (StateM W)) (worker : Worker) (shared : Shared) (world : W) :
    Hub.Level shared.hub (runFrom (dismiss host worker) shared world).1.2.hub := by
  rw [runFrom_dismiss, runFrom_withHub]
  exact shared.hub.detach_level worker.recorder.epoch shared.clock

/-- Every context is disposed of in its turn, unless a worker panics; then this has an excuse. -/
theorem Relay.tidy (heard : host.Heard record) {turns : List Turn} {last : W}
    (relay : Relay host settings record shared world turns after last)
    (suits : ∀ turn ∈ turns, turn.worker.Suits r) (tolled : shared.Tolled r said) :
    (∃ turn ∈ turns, ∃ cause, turn.result = .error (.panic cause) ∧
        Excuse (since (Strain r) said) (turns.flatMap Turn.said) cause) ∨
      ∀ turn ∈ turns, turn.Tidy host settings record := by
  induction relay generalizing said with
  | done shared world => exact .inr (by simp)
  | @turn shared current after world middle left last turn turns desk played leaves rest ih =>
      obtain ⟨first, others⟩ := List.forall_mem_cons.mp suits
      have meets := played.meets heard first tolled
      have level := dismiss_level host desk.worker
        { desk.shared with stopped := desk.shared.stopped || turn.panicked } middle
      rw [leaves] at level
      have goes (tenancy : Tenancy turn.worker.number turn.said)
          (charged : desk.shared.Tolled r (said ++ turn.said)) :
          (∃ each ∈ turn :: turns, ∃ cause, each.result = .error (.panic cause) ∧
              Excuse (since (Strain r) said) ((turn :: turns).flatMap Turn.said) cause) ∨
            ∀ each ∈ turn :: turns, each.Tidy host settings record := by
        rcases ih others (charged.level level) with ⟨later, member, cause, panics, excuse⟩ | tidy
        · refine .inl ⟨later, List.mem_cons_of_mem _ member, cause, panics,
            excuse.mono (List.subset_append_right _ _) fun strain => ?_⟩
          rwa [← since_append] at strain
        · refine .inr (List.forall_mem_cons.mpr ⟨⟨⟨_, _, _, _, played⟩, played.own heard, ?_⟩, tidy⟩)
          exact tenancy
      rcases ended : turn.result with (cause | cause) | done
      · rw [ended] at meets
        exact goes meets.2.1 meets.2.2
      · rw [ended] at meets
        refine .inl ⟨turn, List.mem_cons_self, cause, ended,
          Excuse.mono meets (List.subset_append_left _ _) fun strain => ?_⟩
        exact strain.mono ((List.prefix_append_right_inj said).mpr (List.prefix_append _ _)).isInfix
      · rw [ended] at meets
        exact goes meets.2.1 meets.2.2

end Sums

end StoreBench.Run
