import Mathlib.Data.List.Basic
import StoreBench.Proofs.Latency.Epochs

/-! The distance between the lines of the timeline.

Only a fold compares the clock with the interval; a departure that completes the epoch does not.
It may do without, because somebody is counted only once the interval has elapsed, and the clock
does not run back.
-/

namespace StoreBench.Latency

namespace Hub

variable {hub next : Hub} {emission : Option Emission} {now : Nat}

/-- What an operation that reads the clock at `now` and causes no line does to the instants and
the count. -/
structure Waits (hub : Hub) (now : Nat) (next : Hub) : Prop where
  start : next.start = hub.start
  interval : next.interval = hub.interval
  checkpoint : next.checkpoint = hub.checkpoint
  counted : next.counted ≤ hub.counted ∨ hub.interval ≤ now - hub.checkpoint

theorem Waits.refl (hub : Hub) (now : Nat) : hub.Waits now hub :=
  ⟨rfl, rfl, rfl, .inl (Nat.le_refl _)⟩

/-- An operation that reads the clock at `now` causes a line only if somebody is counted, before
it or by it. -/
inductive Ticks (hub : Hub) (now : Nat) : Option Emission → Hub → Prop where
  | silent {next : Hub} (waits : hub.Waits now next) : Ticks hub now none next
  | line {mid : Hub} (waits : hub.Waits now mid) (somebody : 0 < mid.counted) :
      Ticks hub now (some (mid.emit now).1) (mid.emit now).2

theorem tryLine_early (early : now - hub.checkpoint < hub.interval) :
    hub.tryLine now = (.ok .early, hub) := by
  simp only [tryLine, early, if_true]

theorem fold_early (kind : Kind) (source : Account) (epoch : Nat)
    (early : now - hub.checkpoint < hub.interval) :
    emission? (hub.fold kind source epoch now).1 = none ∧
      (hub.fold kind source epoch now).2.1 = epoch ∧
      ∃ accounts, (hub.fold kind source epoch now).2.2 = { hub with accounts } := by
  unfold fold
  dsimp only
  split
  · exact ⟨rfl, rfl, hub.accounts, rfl⟩
  rcases (hub.accounts.get kind).fold source with ⟨panic | _, account⟩
  · exact ⟨rfl, rfl, _, rfl⟩
  dsimp only
  split
  · exact ⟨rfl, rfl, _, rfl⟩
  · have waits : Hub.tryLine { hub with accounts := hub.accounts.set kind account } now =
        (.ok .early, { hub with accounts := hub.accounts.set kind account }) := tryLine_early early
    rw [waits]
    exact ⟨rfl, rfl, _, rfl⟩

theorem fold_ticks (hub : Hub) (kind : Kind) (source : Account) (epoch now : Nat) :
    hub.Ticks now (emission? (hub.fold kind source epoch now).1)
      (hub.fold kind source epoch now).2.2 := by
  by_cases early : now - hub.checkpoint < hub.interval
  · obtain ⟨silent, _, accounts, kept⟩ := fold_early kind source epoch early
    rw [silent, kept]
    exact .silent ⟨rfl, rfl, rfl, .inl (Nat.le_refl _)⟩
  have elapsed := Nat.not_lt.mp early
  have folded := hub.fold_folded kind source epoch now
  generalize (hub.fold kind source epoch now).1 = result at folded ⊢
  generalize (hub.fold kind source epoch now).2.1 = told at folded
  generalize (hub.fold kind source epoch now).2.2 = after at folded ⊢
  cases folded with
  | dropped idle => exact .silent (.refl hub now)
  | completed enabled pending folded due elapsed complete =>
      exact .line ⟨rfl, rfl, rfl, .inr elapsed⟩ (Nat.succ_pos _)
  | _ => exact .silent ⟨rfl, rfl, rfl, .inr elapsed⟩

theorem detach_ticks (hub : Hub) (epoch now : Nat) :
    hub.Ticks now (emission? (hub.detach epoch now).1) (hub.detach epoch now).2 := by
  unfold detach
  split
  · exact .silent (.refl hub now)
  dsimp only
  have fewer : hub.Waits now
      (if epoch = hub.epoch + 1 then { hub with counted := hub.counted - 1 } else hub) := by
    split
    · exact ⟨rfl, rfl, rfl, .inl (Nat.sub_le _ _)⟩
    · exact .refl hub now
  generalize (if epoch = hub.epoch + 1 then { hub with counted := hub.counted - 1 } else hub) =
    left at fewer ⊢
  split
  · exact .silent fewer
  have gone : hub.Waits now { left with attached := left.attached - 1 } :=
    ⟨fewer.start, fewer.interval, fewer.checkpoint, fewer.counted⟩
  split
  next due =>
    simp only [Bool.and_eq_true, decide_eq_true_eq] at due
    exact .line gone due.1
  next => exact .silent gone

end Hub

namespace Recorder

variable (recorder : Recorder) (hub : Hub)

/-- A step of a recorder that changes nothing but accounts. -/
structure Idles (result : Except Panic (Option Emission)) (told : Recorder) (next : Hub) :
    Prop where
  silent : emission? result = none
  epoch : told.epoch = recorder.epoch
  hub : ∃ accounts, next = { hub with accounts }

theorem foldInto_ticks (kind : Kind) (now : Nat) :
    hub.Ticks now (emission? (recorder.foldInto hub kind now).1)
      (recorder.foldInto hub kind now).2.2 := by
  have ticks := hub.fold_ticks kind recorder.account recorder.epoch now
  unfold foldInto
  generalize hub.fold kind recorder.account recorder.epoch now = result at ticks ⊢
  obtain ⟨_ | _, epoch, after⟩ := result
  · exact ticks
  · exact ticks

theorem add_ticks (start now volume : Nat) :
    hub.Ticks now (emission? (recorder.add hub start now volume).1)
      (recorder.add hub start now volume).2.2 := by
  unfold add
  split
  · exact .silent (.refl hub now)
  dsimp only
  split
  · exact .silent (.refl hub now)
  split
  · exact .silent (.refl hub now)
  · exact foldInto_ticks _ hub _ now

theorem merge_ticks (now : Nat) :
    hub.Ticks now (emission? (recorder.merge hub now).1) (recorder.merge hub now).2.2 := by
  unfold merge
  split
  · exact .silent (.refl hub now)
  split
  · exact recorder.foldInto_ticks hub _ now
  · exact .silent (.refl hub now)

variable {now : Nat} (early : now - hub.checkpoint < hub.interval)

include early

theorem foldInto_early (kind : Kind) :
    recorder.Idles hub (recorder.foldInto hub kind now).1 (recorder.foldInto hub kind now).2.1
      (recorder.foldInto hub kind now).2.2 := by
  have folded := Hub.fold_early kind recorder.account recorder.epoch early
  unfold foldInto
  generalize hub.fold kind recorder.account recorder.epoch now = result at folded ⊢
  obtain ⟨_ | _, epoch, after⟩ := result
  · exact ⟨rfl, folded.2.1, folded.2.2⟩
  · exact ⟨folded.1, folded.2.1, folded.2.2⟩

theorem add_early (start volume : Nat) :
    recorder.Idles hub (recorder.add hub start now volume).1
      (recorder.add hub start now volume).2.1 (recorder.add hub start now volume).2.2 := by
  unfold add
  split
  · exact ⟨rfl, rfl, hub.accounts, rfl⟩
  next account recorded =>
    dsimp only
    split
    · exact ⟨rfl, rfl, hub.accounts, rfl⟩
    split
    · exact ⟨rfl, rfl, hub.accounts, rfl⟩
    next kind _ _ =>
      have folded := foldInto_early { recorder with account } hub early kind
      exact ⟨folded.silent, folded.epoch, folded.hub⟩

theorem merge_early :
    recorder.Idles hub (recorder.merge hub now).1 (recorder.merge hub now).2.1
      (recorder.merge hub now).2.2 := by
  unfold merge
  split
  · exact ⟨rfl, rfl, hub.accounts, rfl⟩
  split
  · exact recorder.foldInto_early hub early _
  · exact ⟨rfl, rfl, hub.accounts, rfl⟩

end Recorder

namespace Action

/-- When an action is made, if it reads the clock. -/
def instant? : Action → Option Nat
  | .checkpoint now | .finish now | .attach now | .reset _ _ now | .add _ _ now _ | .merge _ now
  | .drop _ now => some now
  | .enable _ | .mirror _ | .summarize _ | .count _ => none

def forces : Action → Bool
  | .finish _ => true
  | _ => false

/-- A sample or a merge, which are the actions that may fold. -/
def folds : Action → Bool
  | .add .. | .merge .. => true
  | _ => false

def asks : Action → Bool
  | .checkpoint _ => true
  | _ => false

end Action

/-- At the instant `last`, the hub's instants are not ahead of the clock, and somebody is counted
only if the interval has elapsed. -/
structure Hub.Punctual (hub : Hub) (interval start last : Nat) : Prop where
  created : hub.start = start
  period : hub.interval = interval
  begun : start ≤ hub.checkpoint
  reached : hub.checkpoint ≤ last
  elapsed : 0 < hub.counted → hub.checkpoint + interval ≤ last

namespace Hub

variable {hub next : Hub} {emission : Option Emission} {interval start last now : Nat}

theorem new_punctual (interval start : Nat) : (Hub.new interval start).Punctual interval start start
    where
  created := rfl
  period := rfl
  begun := Nat.le_refl start
  reached := Nat.le_refl start
  elapsed nobody := absurd nobody (Nat.lt_irrefl 0)

namespace Punctual

theorem waits (punctual : hub.Punctual interval start last) (later : last ≤ now)
    (waits : hub.Waits now next) : next.Punctual interval start now where
  created := waits.start.trans punctual.created
  period := waits.interval.trans punctual.period
  begun := by rw [waits.checkpoint]; exact punctual.begun
  reached := by rw [waits.checkpoint]; exact Nat.le_trans punctual.reached later
  elapsed somebody := by
    have reached := punctual.reached
    rw [waits.checkpoint]
    rcases waits.counted with fewer | elapsed
    · exact Nat.le_trans (punctual.elapsed (Nat.lt_of_lt_of_le somebody fewer)) later
    · rw [punctual.period] at elapsed
      omega

theorem emit (punctual : hub.Punctual interval start now) :
    (hub.emit now).2.Punctual interval start now where
  created := punctual.created
  period := punctual.period
  begun := Nat.le_trans punctual.begun punctual.reached
  reached := Nat.le_refl now
  elapsed nobody := absurd nobody (Nat.lt_irrefl 0)

end Punctual

/-- The line that leaves `next` behind tells when it was emitted, and how long after `checkpoint`. -/
structure Dates (next : Hub) (start checkpoint now : Nat) (emission : Emission) : Prop where
  opened : next.checkpoint = now
  time : start + emission.line.time = now
  wall : checkpoint + emission.line.wall = now

theorem Punctual.dates (punctual : hub.Punctual interval start now) :
    (hub.emit now).2.Dates start hub.checkpoint now (hub.emit now).1 where
  opened := rfl
  time := by
    change start + (now - hub.start) = now
    rw [punctual.created]
    exact Nat.add_sub_cancel' (Nat.le_trans punctual.begun punctual.reached)
  wall := Nat.add_sub_cancel' punctual.reached

theorem Ticks.dates (ticks : hub.Ticks now emission next)
    (punctual : hub.Punctual interval start last) (later : last ≤ now) :
    next.Punctual interval start now ∧ (emission = none → next.checkpoint = hub.checkpoint) ∧
      ∀ given ∈ emission,
        hub.checkpoint + interval ≤ now ∧ next.Dates start hub.checkpoint now given := by
  cases ticks with
  | silent waits =>
      exact ⟨punctual.waits later waits, fun _ => waits.checkpoint, nofun⟩
  | line waits somebody =>
      have mid := punctual.waits later waits
      have elapsed := mid.elapsed somebody
      have dates := mid.dates
      rw [waits.checkpoint] at elapsed dates
      refine ⟨mid.emit, nofun, ?_⟩
      rintro given ⟨rfl⟩
      exact ⟨elapsed, dates⟩

end Hub

/-- A line of the timeline, with when it was emitted and whether it was forced. -/
structure Mark where
  instant : Nat
  forced : Bool
  line : Line

/-- Every line that is not forced is at least `interval` after the line before it, and the first
one after `last`.  The lines tell the time since `start` and since the line before. -/
inductive Spaced (interval start : Nat) : Nat → List Mark → Prop where
  | nil {last : Nat} : Spaced interval start last []
  | cons {last : Nat} {mark : Mark} {marks : List Mark}
      (apart : mark.forced = false → last + interval ≤ mark.instant)
      (time : start + mark.line.time = mark.instant)
      (wall : last + mark.line.wall = mark.instant)
      (rest : Spaced interval start mark.instant marks) :
      Spaced interval start last (mark :: marks)

/-- When the last of some lines was emitted, or `last` if there is none. -/
def latest (last : Nat) (marks : List Mark) : Nat :=
  marks.foldl (fun _ mark => mark.instant) last

namespace Ensemble

variable {ensemble : Ensemble} {action : Action} {actions : List Action} {now last : Nat}

def mark? (ensemble : Ensemble) (action : Action) : Option Mark :=
  (lineIn (ensemble.step action).1).map fun emission =>
    ⟨action.instant?.getD 0, action.forces, emission.line⟩

/-- The lines that some actions cause, in the order in which they come. -/
def marks (ensemble : Ensemble) : List Action → List Mark
  | [] => []
  | action :: actions =>
    (ensemble.mark? action).toList ++ (ensemble.step action).2.marks actions

theorem atPlace_ticks (ensemble : Ensemble) (place : Nat)
    {operation : Recorder → Hub → Except Panic (Option Emission) × Recorder × Hub}
    (ticks : ∀ recorder, ensemble.hub.Ticks now (emission? (operation recorder ensemble.hub).1)
      (operation recorder ensemble.hub).2.2) :
    ensemble.hub.Ticks now (lineIn (ensemble.atPlace place operation).1)
      (ensemble.atPlace place operation).2.hub := by
  rcases found : ensemble.recorders[place]? with _ | recorder
  · rw [atPlace_of_none found]
    exact .silent (.refl _ now)
  · rw [atPlace_of_some found, lineIn_map]
    exact ticks recorder

theorem step_ticks (unforced : action.forces = false) (unasked : action.asks = false)
    (instant : ∀ read ∈ action.instant?, read = now) :
    ensemble.hub.Ticks now (lineIn (ensemble.step action).1) (ensemble.step action).2.hub := by
  cases action with
  | checkpoint read => cases unasked
  | finish read => cases unforced
  | enable kind =>
      refine .silent ?_
      change ensemble.hub.Waits now (ensemble.hub.enable kind)
      unfold Hub.enable
      split
      · exact .refl _ now
      · exact ⟨rfl, rfl, rfl, .inl (Nat.le_refl _)⟩
  | mirror writer => exact .silent ⟨rfl, rfl, rfl, .inl (Nat.le_refl _)⟩
  | summarize kind => exact .silent (.refl _ now)
  | count place => exact .silent (.refl _ now)
  | attach read => exact .silent ⟨rfl, rfl, rfl, .inl (Nat.le_refl _)⟩
  | reset place kind read => exact ensemble.atPlace_ticks place fun _ => .silent (.refl _ now)
  | add place start read volume =>
      obtain rfl : read = now := instant read rfl
      exact ensemble.atPlace_ticks place fun recorder =>
        recorder.add_ticks ensemble.hub start read volume
  | merge place read =>
      obtain rfl : read = now := instant read rfl
      exact ensemble.atPlace_ticks place fun recorder => recorder.merge_ticks ensemble.hub read
  | drop place read =>
      obtain rfl : read = now := instant read rfl
      unfold step
      dsimp only
      split
      · exact .silent (.refl _ read)
      · dsimp only
        rw [lineIn_map]
        exact ensemble.hub.detach_ticks _ read

theorem instant_of_line {emission : Emission}
    (emits : lineIn (ensemble.step action).1 = some emission) :
    ∃ now, action.instant? = some now := by
  cases action with
  | enable kind => cases emits
  | mirror writer => cases emits
  | summarize kind => cases emits
  | count place => cases emits
  | _ => exact ⟨_, rfl⟩

theorem step_dates {interval start : Nat}
    (punctual : ensemble.hub.Punctual interval start last) (later : last ≤ now)
    (unasked : action.asks = false) (instant : ∀ read ∈ action.instant?, read = now) :
    (ensemble.step action).2.hub.Punctual interval start now ∧
      (lineIn (ensemble.step action).1 = none →
        (ensemble.step action).2.hub.checkpoint = ensemble.hub.checkpoint) ∧
      ∀ given ∈ lineIn (ensemble.step action).1,
        (action.forces = false → ensemble.hub.checkpoint + interval ≤ now) ∧
          (ensemble.step action).2.hub.Dates start ensemble.hub.checkpoint now given := by
  cases forces : action.forces with
  | false =>
      obtain ⟨kept, silent, lines⟩ := (step_ticks forces unasked instant).dates punctual later
      exact ⟨kept, silent, fun given emits => ⟨fun _ => (lines given emits).1, (lines given emits).2⟩⟩
  | true =>
      cases action with
      | finish read =>
          obtain rfl : read = now := instant read rfl
          have ready := punctual.waits later (.refl _ read)
          refine ⟨ready.emit, nofun, ?_⟩
          rintro given ⟨rfl⟩
          exact ⟨nofun, ready.dates⟩
      | _ => cases forces

theorem marks_spaced {interval start : Nat}
    (punctual : ensemble.hub.Punctual interval start last)
    (unasked : ∀ action ∈ actions, action.asks = false)
    (clock : (last :: actions.filterMap Action.instant?).Pairwise (· ≤ ·)) :
    Spaced interval start ensemble.hub.checkpoint (ensemble.marks actions) ∧
      (ensemble.run actions).hub.interval = interval ∧
      (ensemble.run actions).hub.checkpoint =
        latest ensemble.hub.checkpoint (ensemble.marks actions) := by
  induction actions generalizing ensemble last with
  | nil => exact ⟨.nil, punctual.period, rfl⟩
  | cons action actions ih =>
      have unasked_here := unasked action List.mem_cons_self
      have unasked_later : ∀ other ∈ actions, other.asks = false := fun other member =>
        unasked other (List.mem_cons_of_mem action member)
      -- an action that reads no clock is as good as made at the last instant
      obtain ⟨now, later, instant, clock_later⟩ : ∃ now, last ≤ now ∧
          (∀ read ∈ action.instant?, read = now) ∧
          (now :: actions.filterMap Action.instant?).Pairwise (· ≤ ·) := by
        cases reads : action.instant? with
        | none =>
            rw [List.filterMap_cons_none reads] at clock
            exact ⟨last, Nat.le_refl last, nofun, clock⟩
        | some now =>
            rw [List.filterMap_cons_some reads, List.pairwise_cons] at clock
            exact ⟨now, clock.1 now List.mem_cons_self, by rintro read ⟨rfl⟩; rfl, clock.2⟩
      obtain ⟨kept, silent, lines⟩ := step_dates punctual later unasked_here instant
      obtain ⟨spaced, period, reached⟩ := ih kept unasked_later clock_later
      simp only [marks, run, mark?]
      cases emits : lineIn (ensemble.step action).1 with
      | none =>
          rw [silent emits] at spaced reached
          exact ⟨spaced, period, reached⟩
      | some emission =>
          obtain ⟨apart, dates⟩ := lines emission emits
          obtain ⟨read, reads⟩ := instant_of_line emits
          obtain rfl : read = now := instant read reads
          rw [dates.opened] at spaced reached
          rw [reads]
          exact ⟨.cons apart dates.time dates.wall spaced, period, reached⟩

/-- The action counts nobody and opens no epoch. -/
structure Untouched (ensemble : Ensemble) (action : Action) : Prop where
  silent : lineIn (ensemble.step action).1 = none
  epochs : (ensemble.step action).2.epochs = ensemble.epochs
  hub : ∃ accounts, (ensemble.step action).2.hub = { ensemble.hub with accounts }

theorem atPlace_untouched (place : Nat)
    (operation : Recorder → Hub → Except Panic (Option Emission) × Recorder × Hub)
    (idles : ∀ recorder : Recorder, recorder.Idles ensemble.hub (operation recorder ensemble.hub).1
      (operation recorder ensemble.hub).2.1 (operation recorder ensemble.hub).2.2)
    (performs : ensemble.step action = ensemble.atPlace place operation) :
    ensemble.Untouched action := by
  rcases found : ensemble.recorders[place]? with _ | recorder
  · rw [atPlace_of_none found] at performs
    exact ⟨by rw [performs]; rfl, by rw [performs], ⟨ensemble.hub.accounts, by rw [performs]⟩⟩
  · rw [atPlace_of_some found] at performs
    obtain ⟨before, after, around, replaced, _⟩ := exists_around found
    have idle := idles recorder
    refine ⟨?_, ?_, ?_⟩
    · rw [performs, lineIn_map]
      exact idle.silent
    · rw [performs, epochs, epochs, replaced, around, List.map_append, List.map_append,
        List.map_cons, List.map_cons, idle.epoch]
    · rw [performs]
      exact idle.hub

theorem folds_untouched (folds : action.folds = true) (instant : action.instant? = some now)
    (early : now - ensemble.hub.checkpoint < ensemble.hub.interval) :
    ensemble.Untouched action := by
  cases action with
  | add place start read volume =>
      cases instant
      exact atPlace_untouched place
        (fun recorder hub => recorder.add hub start now volume)
        (fun recorder => recorder.add_early ensemble.hub early start volume) rfl
  | merge place read =>
      cases instant
      exact atPlace_untouched place (fun recorder hub => recorder.merge hub now)
        (fun recorder => recorder.merge_early ensemble.hub early) rfl
  | _ => cases folds

/-- The timeline of a history, and what a sample or a merge does after it. -/
structure Paced (interval start : Nat) (actions : List Action) : Prop where
  spaced : Spaced interval start start ((Ensemble.new interval start).marks actions)
  early : ∀ action now, action.folds = true → action.instant? = some now →
    now - latest start ((Ensemble.new interval start).marks actions) < interval →
    ((Ensemble.new interval start).run actions).Untouched action

/-- As long as the clock does not run back and nobody but the recorders asks for lines, a line that
is not forced comes at least the interval after the line before it, or after the hub's creation,
also if a departure causes it.  A fold that comes sooner leaves the epoch, the count and the
instant of the last line as they are. -/
theorem timeline_paced (interval start : Nat) (actions : List Action)
    (unasked : ∀ action ∈ actions, action.asks = false)
    (clock : (start :: actions.filterMap Action.instant?).Pairwise (· ≤ ·)) :
    Paced interval start actions := by
  have punctual : (Ensemble.new interval start).hub.Punctual interval start start :=
    Hub.new_punctual interval start
  obtain ⟨spaced, period, reached⟩ := marks_spaced punctual unasked clock
  refine ⟨spaced, ?_⟩
  intro action now folds instant early
  refine folds_untouched folds instant ?_
  rw [reached, period]
  exact early

theorem timeline_paced_departures :
    ((∀ action ∈ departures, action.asks = false) ∧
      (0 :: departures.filterMap Action.instant?).Pairwise (· ≤ ·)) ∧
      ((new 3 0).marks departures).map (fun mark => (mark.instant, mark.forced)) =
        [(6, false), (10, false), (13, true)] ∧
      Paced 3 0 departures :=
  ⟨⟨by decide, by decide⟩, by decide +kernel, timeline_paced 3 0 departures (by decide) (by decide)⟩

end Ensemble

end StoreBench.Latency
