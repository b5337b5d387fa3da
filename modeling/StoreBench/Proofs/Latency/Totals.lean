import StoreBench.Proofs.Latency.Posting
import StoreBench.Proofs.Latency.Ledger

/-! The totals of a hub while a recorder works.

A sample that is recorded is owed to the hub until it is folded.  What the hub has of a kind and
what the recorder still owes it grow together by the samples recorded, however often the recorder
folds on the way and whoever else is attached.
-/

namespace StoreBench.Latency

theorem Tally.grow_ok {tally more after : Tally} (grown : tally.grow more = (.ok (), after)) :
    after = tally + more := by
  simp only [Tally.grow] at grown
  split at grown
  · cases grown
  split at grown
  · cases grown
  split at grown
  · cases grown
  split at grown
  · cases grown
  · exact (Prod.mk.inj grown).2.symm

namespace Account

theorem record_ok {account after : Account} {sample : Sample}
    (recorded : account.record sample.start sample.now sample.volume = (.ok (), after)) :
    after = account.recorded sample := by
  simp only [record] at recorded
  rcases grown : account.total.grow (.ofSample (sample.now - sample.start) sample.volume)
    with ⟨_ | _, total⟩
  · rw [grown] at recorded
    cases recorded
  · rw [grown] at recorded
    cases recorded
    rw [Tally.grow_ok grown]
    rfl

theorem fold_ok {account source after : Account} (folded : account.fold source = (.ok (), after)) :
    after = account.folded source := by
  simp only [fold] at folded
  rcases grown : account.total.grow source.unflushed with ⟨_ | _, total⟩
  · rw [grown] at folded
    cases folded
  · rw [grown] at folded
    cases folded
    rw [Tally.grow_ok grown]
    rfl

@[simp] theorem unflushed_roll (account : Account) : account.roll.unflushed = 0 :=
  congrArg Content.tally (loose_roll account)

@[simp] theorem pending_roll (account : Account) : account.roll.pending = false := by
  simp [pending, roll]

/-- No sum has lost what was flushed from it, and without a sample to flush none has grown. -/
structure Faithful (account : Account) : Prop where
  split : account.Split
  idle : account.pending = false → account.unflushed = 0

theorem faithful_new : new.Faithful := ⟨split_new, fun _ => rfl⟩

theorem faithful_roll (account : Account) : account.roll.Faithful :=
  ⟨split_roll account, fun _ => unflushed_roll account⟩

theorem Split.faithful_recorded {account : Account} (split : account.Split) (sample : Sample) :
    (account.recorded sample).Faithful where
  split := split.split_recorded sample
  idle settled := by
    rw [split.pending_recorded sample] at settled
    cases settled

end Account

namespace Hub

theorem emit_total (hub : Hub) (now : Nat) (kind : Kind) :
    ((hub.emit now).2.accounts.get kind).total = (hub.accounts.get kind).total := by
  rcases hub.emit_turned now kind with same | turned
  · rw [same]
  · rw [turned]
    rfl

theorem emit_enabled (hub : Hub) (now : Nat) (kind : Kind) :
    ((hub.emit now).2.accounts.get kind).enabled = (hub.accounts.get kind).enabled := by
  rcases hub.emit_turned now kind with same | turned
  · rw [same]
  · rw [turned]
    rfl

/-- A hub that collects the same kinds, and has as much of each. -/
structure Level (hub next : Hub) : Prop where
  enabled : ∀ kind, (next.accounts.get kind).enabled = (hub.accounts.get kind).enabled
  total : ∀ kind, (next.accounts.get kind).total = (hub.accounts.get kind).total

theorem Level.refl (hub : Hub) : Level hub hub := ⟨fun _ => rfl, fun _ => rfl⟩

theorem Level.trans {hub middle next : Hub} (first : Level hub middle) (second : Level middle next) :
    Level hub next where
  enabled kind := (second.enabled kind).trans (first.enabled kind)
  total kind := (second.total kind).trans (first.total kind)

theorem emit_level (hub : Hub) (now : Nat) : Level hub (hub.emit now).2 :=
  ⟨hub.emit_enabled now, hub.emit_total now⟩

theorem attach_level (hub : Hub) : Level hub hub.attach.2 :=
  ⟨fun _ => rfl, fun _ => rfl⟩

theorem detach_level (hub : Hub) (epoch now : Nat) : Level hub (hub.detach epoch now).2 where
  enabled kind := by
    rcases hub.detach_turned epoch now kind with same | turned
    · rw [same]
    · rw [turned]
      rfl
  total kind := by
    rcases hub.detach_turned epoch now kind with same | turned
    · rw [same]
    · rw [turned]
      rfl

end Hub

namespace Recorder

variable {hub next : Hub} {recorder told : Recorder}

/-- The recorder and the hub took on samples with these sums, all of the recorder's kind. -/
structure Carries (hub : Hub) (recorder : Recorder) (gain : Tally) (next : Hub)
    (told : Recorder) : Prop where
  kind : told.kind = recorder.kind
  enabled : ∀ kind, (next.accounts.get kind).enabled = (hub.accounts.get kind).enabled
  others : ∀ kind, recorder.kind ≠ some kind →
    (next.accounts.get kind).total = (hub.accounts.get kind).total
  faithful : recorder.account.Faithful → told.account.Faithful
  account : told.account.total = recorder.account.total + gain
  owed : ∀ kind, recorder.kind = some kind → (hub.accounts.get kind).enabled = true →
    recorder.account.Split →
    (next.accounts.get kind).total + told.account.unflushed =
      (hub.accounts.get kind).total + recorder.account.unflushed + gain

/-- A fold that succeeds takes everything over, or the kind is not collected. -/
theorem fold_took {kind : Kind} {source : Account} {epoch now told : Nat}
    {emission : Option Emission}
    (folded : hub.Folded kind source epoch now (.ok emission) told next) :
    (∀ other, (next.accounts.get other).enabled = (hub.accounts.get other).enabled) ∧
      (∀ other, other ≠ kind →
        (next.accounts.get other).total = (hub.accounts.get other).total) ∧
      ((hub.accounts.get kind).enabled = true → source.pending = true →
        (next.accounts.get kind).total = (hub.accounts.get kind).total + source.unflushed) := by
  have replaced (next : Hub) (same : next.accounts =
      hub.accounts.set kind ((hub.accounts.get kind).folded source)) :
      (∀ other, (next.accounts.get other).enabled = (hub.accounts.get other).enabled) ∧
        (∀ other, other ≠ kind →
          (next.accounts.get other).total = (hub.accounts.get other).total) ∧
        (next.accounts.get kind).total = (hub.accounts.get kind).total + source.unflushed := by
    rw [same]
    refine ⟨fun other => ?_, fun other different => ?_, ?_⟩
    · by_cases equal : kind = other
      · subst equal
        rw [PerKind.get_set_self]
        rfl
      · rw [PerKind.get_set_of_ne _ _ equal]
    · rw [PerKind.get_set_of_ne _ _ (Ne.symm different)]
    · rw [PerKind.get_set_self]
      rfl
  cases folded with
  | dropped idle =>
      refine ⟨fun _ => rfl, fun _ _ => rfl, fun enabled pending => ?_⟩
      rcases idle with disabled | quiet
      · rw [enabled] at disabled
        cases disabled
      · rw [pending] at quiet
        cases quiet
  | kept enabled pending folded uncounted =>
      obtain rfl := Account.fold_ok folded
      obtain ⟨kinds, others, taken⟩ := replaced { hub with
        accounts := hub.accounts.set kind ((hub.accounts.get kind).folded source) } rfl
      exact ⟨kinds, others, fun _ _ => taken⟩
  | counted enabled pending folded due elapsed waiting =>
      obtain rfl := Account.fold_ok folded
      obtain ⟨kinds, others, taken⟩ := replaced { hub with
        accounts := hub.accounts.set kind ((hub.accounts.get kind).folded source)
        counted := hub.counted + 1 } rfl
      exact ⟨kinds, others, fun _ _ => taken⟩
  | completed enabled pending folded due elapsed complete =>
      obtain rfl := Account.fold_ok folded
      obtain ⟨kinds, others, taken⟩ := replaced { hub with
        accounts := hub.accounts.set kind ((hub.accounts.get kind).folded source)
        counted := hub.counted + 1 } rfl
      refine ⟨fun other => ?_, fun other different => ?_, fun _ _ => ?_⟩
      · rw [Hub.emit_enabled, kinds]
      · rw [Hub.emit_total, others other different]
      · rw [Hub.emit_total, taken]

theorem foldInto_carries {kind : Kind} {now : Nat} {emission : Option Emission}
    (of : recorder.kind = some kind) (pending : recorder.account.pending = true)
    (folds : (recorder.foldInto hub kind now).1 = .ok emission) :
    Carries hub recorder 0 (recorder.foldInto hub kind now).2.2
      (recorder.foldInto hub kind now).2.1 := by
  have outcome := hub.fold_folded kind recorder.account recorder.epoch now
  unfold foldInto at folds ⊢
  generalize hub.fold kind recorder.account recorder.epoch now = folded at folds outcome
  obtain ⟨result | result, epoch, after⟩ := folded
  · cases folds
  · obtain ⟨enabled, others, taken⟩ := fold_took outcome
    refine
      { kind := rfl
        enabled := enabled
        others := fun other different => others other fun same => different (same ▸ of)
        faithful := fun _ => Account.faithful_roll _
        account := (add_zero _).symm
        owed := ?_ }
    intro other same collected _
    obtain rfl := Option.some.inj (of.symm.trans same)
    dsimp only
    rw [taken collected pending, Account.unflushed_roll]

theorem add_carries {sample : Sample} {emission : Option Emission}
    (split : recorder.account.Split)
    (adds : (recorder.add hub sample.start sample.now sample.volume).1 = .ok emission) :
    Carries hub recorder (.ofSample sample.latency sample.volume)
      (recorder.add hub sample.start sample.now sample.volume).2.2
      (recorder.add hub sample.start sample.now sample.volume).2.1 := by
  unfold add at adds ⊢
  rcases entered : recorder.account.record sample.start sample.now sample.volume
    with ⟨_ | _, account⟩
  · rw [entered] at adds
    cases adds
  · rw [entered] at adds
    obtain rfl := Account.record_ok entered
    have held (kind : Option Kind) (same : recorder.kind = kind) :
        Carries hub recorder (.ofSample sample.latency sample.volume) hub
          { recorder with kind, account := recorder.account.recorded sample } :=
      { kind := same.symm
        enabled := fun _ => rfl
        others := fun _ _ => rfl
        faithful := fun _ => split.faithful_recorded sample
        account := rfl
        owed := fun kind _ _ _ => by
          dsimp only
          rw [split.recorded, add_assoc] }
    rcases chosen : recorder.kind with _ | kind
    · exact held none chosen
    · rw [chosen] at adds
      dsimp only at adds ⊢
      split at adds
      · next early =>
        rw [if_pos early]
        exact held (some kind) chosen
      · next due =>
        rw [if_neg due]
        have carries := @foldInto_carries hub
          { recorder with kind := some kind, account := recorder.account.recorded sample } kind
          sample.now emission rfl (split.pending_recorded sample) adds
        exact
          { kind := carries.kind.trans chosen.symm
            enabled := carries.enabled
            others := fun other different => carries.others other (chosen ▸ different)
            faithful := fun _ => carries.faithful (split.faithful_recorded sample)
            account := carries.account.trans (add_zero _)
            owed := fun other same collected _ => by
              rw [carries.owed other (chosen ▸ same) collected (split.split_recorded sample),
                split.recorded, add_zero, add_assoc] }

/-- A merge that succeeds leaves nothing to be folded. -/
theorem merge_carries {now : Nat} {emission : Option Emission}
    (merges : (recorder.merge hub now).1 = .ok emission) :
    Carries hub recorder 0 (recorder.merge hub now).2.2 (recorder.merge hub now).2.1 := by
  have held : Carries hub recorder 0 hub recorder :=
    { kind := rfl
      enabled := fun _ => rfl
      others := fun _ _ => rfl
      faithful := id
      account := (add_zero _).symm
      owed := fun _ _ _ _ => (add_zero _).symm }
  unfold merge at merges ⊢
  rcases chosen : recorder.kind with _ | kind
  · exact held
  · rw [chosen] at merges
    dsimp only at merges ⊢
    split at merges
    · next pending =>
      rw [if_pos pending]
      exact foldInto_carries chosen pending merges
    · next settled =>
      rw [if_neg settled]
      exact held

theorem foldInto_error {kind : Kind} {now : Nat} {panic : Panic}
    (fails : (recorder.foldInto hub kind now).1 = .error panic) :
    panic = .overflow ∨ panic = .overcounted := by
  have outcome := hub.fold_folded kind recorder.account recorder.epoch now
  unfold foldInto at fails
  generalize hub.fold kind recorder.account recorder.epoch now = folded at fails outcome
  obtain ⟨result | result, epoch, after⟩ := folded
  · obtain rfl := Except.error.inj fails
    cases outcome with
    | overflowed _ failed => exact .inl (Account.fold_error failed)
    | overcounted enabled pending folded due crowded => exact .inr rfl
  · cases fails

theorem add_error {start now volume : Nat} {panic : Panic}
    (fails : (recorder.add hub start now volume).1 = .error panic) :
    panic = .overflow ∨ panic = .overcounted := by
  unfold add at fails
  rcases entered : recorder.account.record start now volume with ⟨cause | _, account⟩
  · rw [entered] at fails
    obtain rfl := Except.error.inj fails
    exact .inl (Account.record_error entered)
  · rw [entered] at fails
    rcases chosen : recorder.kind with _ | kind
    · rw [chosen] at fails
      cases fails
    · rw [chosen] at fails
      dsimp only at fails
      split at fails
      · cases fails
      · exact foldInto_error fails

theorem merge_error {now : Nat} {panic : Panic}
    (fails : (recorder.merge hub now).1 = .error panic) :
    panic = .overflow ∨ panic = .overcounted := by
  unfold merge at fails
  rcases chosen : recorder.kind with _ | kind
  · rw [chosen] at fails
    cases fails
  · rw [chosen] at fails
    dsimp only at fails
    split at fails
    · exact foldInto_error fails
    · cases fails

/-- A fold overflows only if a sum of the hub does. -/
theorem foldInto_overflow {kind : Kind} {now : Nat}
    (fails : (recorder.foldInto hub kind now).1 = .error .overflow) :
    (hub.accounts.get kind).enabled = true ∧
      ¬ ((hub.accounts.get kind).total + recorder.account.unflushed).Fits := by
  have outcome := hub.fold_folded kind recorder.account recorder.epoch now
  unfold foldInto at fails
  generalize hub.fold kind recorder.account recorder.epoch now = folded at fails outcome
  obtain ⟨result | result, epoch, after⟩ := folded
  · obtain rfl := Except.error.inj fails
    cases outcome with
    | overflowed enabled failed =>
        refine ⟨enabled, fun fits => ?_⟩
        rw [Account.fold_of_fits fits] at failed
        cases failed
  · cases fails

/-- The sums of the recorder or, of a kind that is collected, those of the hub leave their type
with these samples. -/
def Outgrows (hub : Hub) (recorder : Recorder) (gain : Tally) : Prop :=
  ¬ (recorder.account.total + gain).Fits ∨
    ∃ kind, recorder.kind = some kind ∧ (hub.accounts.get kind).enabled = true ∧
      ¬ ((hub.accounts.get kind).total + recorder.account.unflushed + gain).Fits

theorem add_overflow {sample : Sample} (split : recorder.account.Split)
    (fails : (recorder.add hub sample.start sample.now sample.volume).1 = .error .overflow) :
    Outgrows hub recorder (.ofSample sample.latency sample.volume) := by
  by_cases fits : (recorder.account.total + .ofSample sample.latency sample.volume).Fits
  · unfold add at fails
    rw [Account.record_of_fits fits] at fails
    rcases chosen : recorder.kind with _ | kind
    · rw [chosen] at fails
      cases fails
    · rw [chosen] at fails
      dsimp only at fails
      split at fails
      · cases fails
      · obtain ⟨enabled, outgrown⟩ := foldInto_overflow fails
        dsimp only at outgrown
        rw [split.recorded, ← add_assoc] at outgrown
        exact .inr ⟨kind, chosen, enabled, outgrown⟩
  · exact .inl fits

theorem merge_overflow {now : Nat} (fails : (recorder.merge hub now).1 = .error .overflow) :
    Outgrows hub recorder 0 := by
  unfold merge at fails
  rcases chosen : recorder.kind with _ | kind
  · rw [chosen] at fails
    cases fails
  · rw [chosen] at fails
    dsimp only at fails
    split at fails
    · obtain ⟨enabled, outgrown⟩ := foldInto_overflow fails
      rw [← add_zero (_ + _)] at outgrown
      exact .inr ⟨kind, chosen, enabled, outgrown⟩
    · cases fails

end Recorder

end StoreBench.Latency
