import Mathlib.Data.List.Basic
import StoreBench.Latency.Recorder
import StoreBench.Latency.Summary

/-! A hub together with the recorders attached to it.

Workers take turns at one hub, so a history of the books is a list of actions, each of which runs
to its end before the next begins.  An action that panics keeps what it did before, and the
history goes on.  A recorder is named by its place among those still attached.
-/

namespace StoreBench.Latency

/-- An operation on a hub or on one of its recorders, with the instants it reads. -/
inductive Action where
  | enable (kind : Kind)
  | mirror (writer : Writer)
  | summarize (kind : Kind)
  | checkpoint (now : Nat)
  | finish (now : Nat)
  | attach (now : Nat)
  | count (place : Nat)
  | reset (place : Nat) (kind : Kind) (now : Nat)
  | add (place start now volume : Nat)
  | merge (place now : Nat)
  | drop (place now : Nat)
  deriving DecidableEq

/-- What an action returns. -/
inductive Answer where
  | done
  | outcome (checkpoint : Checkpoint)
  | line (emission : Option Emission)
  | samples (count : Nat)
  | summary (summary : Option Summary)

def Answer.emission? : Answer → Option Emission
  | .outcome (.emitted emission) => some emission
  | .line emission => emission
  | _ => none

structure Ensemble where
  hub : Hub
  recorders : List Recorder

namespace Ensemble

def new (interval now : Nat) : Ensemble :=
  ⟨Hub.new interval now, []⟩

/-- Lets the recorder at a place operate on the hub. -/
def atPlace (ensemble : Ensemble) (place : Nat)
    (operation : Recorder → Hub → Except Panic (Option Emission) × Recorder × Hub) :
    Except Panic Answer × Ensemble :=
  match ensemble.recorders[place]? with
  | none => (.ok .done, ensemble)
  | some recorder =>
    let (result, recorder, hub) := operation recorder ensemble.hub
    (result.map .line, ⟨hub, ensemble.recorders.set place recorder⟩)

theorem atPlace_of_some {ensemble : Ensemble} {place : Nat} {recorder : Recorder}
    (found : ensemble.recorders[place]? = some recorder)
    (operation : Recorder → Hub → Except Panic (Option Emission) × Recorder × Hub) :
    ensemble.atPlace place operation =
      ((operation recorder ensemble.hub).1.map .line,
        ⟨(operation recorder ensemble.hub).2.2,
          ensemble.recorders.set place (operation recorder ensemble.hub).2.1⟩) := by
  simp only [atPlace, found]

theorem atPlace_of_none {ensemble : Ensemble} {place : Nat}
    (missing : ensemble.recorders[place]? = none)
    (operation : Recorder → Hub → Except Panic (Option Emission) × Recorder × Hub) :
    ensemble.atPlace place operation = (.ok .done, ensemble) := by
  simp only [atPlace, missing]

def step (ensemble : Ensemble) : Action → Except Panic Answer × Ensemble
  | .enable kind => (.ok .done, { ensemble with hub := ensemble.hub.enable kind })
  | .mirror writer => (.ok .done, { ensemble with hub := ensemble.hub.mirror writer })
  | .summarize kind => (.ok (.summary (ensemble.hub.summary? kind)), ensemble)
  | .checkpoint now =>
    let (result, hub) := ensemble.hub.tryLine now
    (result.map .outcome, { ensemble with hub })
  | .finish now =>
    let (emission, hub) := ensemble.hub.emit now
    (.ok (.line (some emission)), { ensemble with hub })
  | .attach now =>
    let (recorder, hub) := Recorder.new ensemble.hub now
    (.ok .done, ⟨hub, ensemble.recorders ++ [recorder]⟩)
  | .count place =>
    (.ok (.samples ((ensemble.recorders[place]?.map Recorder.count).getD 0)), ensemble)
  | .reset place kind now =>
    ensemble.atPlace place fun recorder hub => (.ok none, recorder.reset kind now, hub)
  | .add place start now volume =>
    ensemble.atPlace place fun recorder hub => recorder.add hub start now volume
  | .merge place now => ensemble.atPlace place fun recorder hub => recorder.merge hub now
  | .drop place now =>
    match ensemble.recorders[place]? with
    | none => (.ok .done, ensemble)
    | some recorder =>
      let (result, hub) := recorder.drop ensemble.hub now
      (result.map .line, ⟨hub, ensemble.recorders.eraseIdx place⟩)

def run (ensemble : Ensemble) : List Action → Ensemble
  | [] => ensemble
  | action :: actions => (ensemble.step action).2.run actions

/-- Every action of the history is made in a state in which `rule` allows it. -/
def Follows (rule : Ensemble → Action → Prop) (ensemble : Ensemble) : List Action → Prop
  | [] => True
  | action :: actions => rule ensemble action ∧ (ensemble.step action).2.Follows rule actions

instance decidableFollows {rule : Ensemble → Action → Prop}
    [∀ ensemble action, Decidable (rule ensemble action)] :
    (ensemble : Ensemble) → (actions : List Action) → Decidable (ensemble.Follows rule actions)
  | _, [] => .isTrue trivial
  | ensemble, action :: actions =>
    have : Decidable ((ensemble.step action).2.Follows rule actions) := decidableFollows _ actions
    inferInstanceAs (Decidable (_ ∧ _))

theorem follows_of_forall {rule : Ensemble → Action → Prop}
    (always : ∀ ensemble action, rule ensemble action) (ensemble : Ensemble)
    (actions : List Action) : ensemble.Follows rule actions := by
  induction actions generalizing ensemble with
  | nil => exact trivial
  | cons action actions ih => exact ⟨always ensemble action, ih _⟩

theorem run_induction {rule : Ensemble → Action → Prop} (property : Ensemble → Prop)
    (kept : ∀ ensemble action, property ensemble → rule ensemble action →
      property (ensemble.step action).2)
    {ensemble : Ensemble} {actions : List Action} (holds : property ensemble)
    (follows : ensemble.Follows rule actions) : property (ensemble.run actions) := by
  induction actions generalizing ensemble with
  | nil => exact holds
  | cons action actions ih =>
      obtain ⟨allowed, rest⟩ := follows
      exact ih (kept ensemble action holds allowed) rest

end Ensemble

/-- The element at a place stands between those before and those after it, and changing or
removing it leaves both parts alone. -/
theorem exists_around {α : Type} {items : List α} {place : Nat} {item : α}
    (found : items[place]? = some item) :
    ∃ before after, items = before ++ item :: after ∧
      (∀ other, items.set place other = before ++ other :: after) ∧
      items.eraseIdx place = before ++ after := by
  obtain ⟨inside, rfl⟩ := List.getElem?_eq_some_iff.mp found
  refine ⟨items.take place, items.drop (place + 1), ?_, ?_, ?_⟩
  · rw [List.getElem_cons_drop, List.take_append_drop]
  · intro other
    rw [List.set_eq_take_append_cons_drop, if_pos inside]
  · rw [List.eraseIdx_eq_take_drop_succ]

namespace Hub

/-- What a fold can do to the hub, by its result and the epoch it tells the worker. -/
inductive Folded (hub : Hub) (kind : Kind) (source : Account) (epoch now : Nat) :
    Except Panic (Option Emission) → Nat → Hub → Prop where
  | dropped (idle : (hub.accounts.get kind).enabled = false ∨ source.pending = false) :
      Folded hub kind source epoch now (.ok none) epoch hub
  | overflowed {panic : Panic} {account : Account}
      (enabled : (hub.accounts.get kind).enabled = true)
      (failed : (hub.accounts.get kind).fold source = (.error panic, account)) :
      Folded hub kind source epoch now (.error panic) epoch
        { hub with accounts := hub.accounts.set kind account }
  | kept {account : Account} (enabled : (hub.accounts.get kind).enabled = true)
      (pending : source.pending = true)
      (folded : (hub.accounts.get kind).fold source = (.ok (), account))
      (uncounted : epoch ≠ hub.epoch ∨ now - hub.checkpoint < hub.interval) :
      Folded hub kind source epoch now (.ok none) epoch
        { hub with accounts := hub.accounts.set kind account }
  | counted {account : Account} (enabled : (hub.accounts.get kind).enabled = true)
      (pending : source.pending = true)
      (folded : (hub.accounts.get kind).fold source = (.ok (), account))
      (due : epoch = hub.epoch) (elapsed : hub.interval ≤ now - hub.checkpoint)
      (waiting : hub.counted + 1 < hub.attached) :
      Folded hub kind source epoch now (.ok none) (epoch + 1)
        { hub with accounts := hub.accounts.set kind account, counted := hub.counted + 1 }
  | completed {account : Account} (enabled : (hub.accounts.get kind).enabled = true)
      (pending : source.pending = true)
      (folded : (hub.accounts.get kind).fold source = (.ok (), account))
      (due : epoch = hub.epoch) (elapsed : hub.interval ≤ now - hub.checkpoint)
      (complete : hub.counted + 1 = hub.attached) :
      Folded hub kind source epoch now
        (.ok (some (emit { hub with
          accounts := hub.accounts.set kind account, counted := hub.counted + 1 } now).1))
        (epoch + 1)
        (emit { hub with
          accounts := hub.accounts.set kind account, counted := hub.counted + 1 } now).2
  | overcounted {account : Account} (enabled : (hub.accounts.get kind).enabled = true)
      (pending : source.pending = true)
      (folded : (hub.accounts.get kind).fold source = (.ok (), account))
      (due : epoch = hub.epoch)
      (crowded : hub.attached < hub.counted + 1) :
      Folded hub kind source epoch now (.error .overcounted) epoch
        { hub with accounts := hub.accounts.set kind account, counted := hub.counted + 1 }

theorem fold_folded (hub : Hub) (kind : Kind) (source : Account) (epoch now : Nat) :
    Folded hub kind source epoch now (hub.fold kind source epoch now).1
      (hub.fold kind source epoch now).2.1 (hub.fold kind source epoch now).2.2 := by
  unfold Hub.fold
  by_cases idle : (hub.accounts.get kind).enabled = false ∨ source.pending = false
  · have dropped : (!(hub.accounts.get kind).enabled || !source.pending) = true := by
      rcases idle with disabled | quiet
      · simp [disabled]
      · simp [quiet]
    simp only [dropped, if_true]
    exact .dropped idle
  · obtain ⟨enabled, pending⟩ := not_or.mp idle
    rw [Bool.not_eq_false] at enabled pending
    simp only [enabled, pending, Bool.not_true, Bool.or_self, Bool.false_eq_true, if_false]
    rcases folded : (hub.accounts.get kind).fold source with ⟨_ | _, account⟩
    · exact .overflowed enabled folded
    · by_cases due : epoch = hub.epoch
      · simp only [due, ne_eq, not_true_eq_false, if_false, tryLine]
        by_cases elapsed : now - hub.checkpoint < hub.interval
        · simp only [elapsed, if_true]
          exact .kept enabled pending folded (.inr elapsed)
        · simp only [elapsed, if_false]
          rcases Nat.lt_trichotomy hub.attached (hub.counted + 1) with crowded | complete | waiting
          · simp only [crowded, if_true]
            exact .overcounted enabled pending folded rfl crowded
          · have fits : ¬ hub.attached < hub.counted + 1 := by omega
            have full : ¬ hub.counted + 1 < hub.attached := by omega
            simp only [fits, full, if_false]
            exact .completed enabled pending folded rfl (Nat.not_lt.mp elapsed) complete.symm
          · simp only [Nat.not_lt.mpr (Nat.le_of_lt waiting), waiting, if_false, if_true]
            exact .counted enabled pending folded rfl (Nat.not_lt.mp elapsed) waiting
      · simp only [ne_eq, due, not_false_eq_true, if_true]
        exact .kept enabled pending folded (.inl due)

end Hub

end StoreBench.Latency
