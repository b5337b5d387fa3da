import StoreBench.Latency.Summary
import StoreBench.Proofs.Latency.Totals

/-! The volumes of samples that are charged alike.

If every sample of a kind is charged the same bytes, the volume of the kind is those bytes as often
as there are samples.  While a recorder works this holds of what the hub has together with what the
recorder still owes it.
-/

namespace StoreBench.Latency

/-- Each sample was charged these bytes. -/
def Tally.Charged (bytes : Nat) (tally : Tally) : Prop :=
  tally.volume = tally.count * bytes

namespace Tally

variable {bytes : Nat} {tally more : Tally}

theorem charged_zero (bytes : Nat) : Charged bytes 0 :=
  (Nat.zero_mul bytes).symm

theorem charged_ofSample (latency bytes : Nat) : Charged bytes (.ofSample latency bytes) :=
  (Nat.one_mul bytes).symm

theorem Charged.add (charged : tally.Charged bytes) (also : more.Charged bytes) :
    (tally + more).Charged bytes := by
  unfold Charged at *
  rw [volume_add, count_add, charged, also, Nat.add_mul]

end Tally

/-- A hub that collects these kinds, and has samples of these bytes. -/
structure Hub.Charged (kinds : KindSet) (bytes : Kind → Nat) (hub : Hub) : Prop where
  enabled : ∀ kind, kinds.contains kind = true → (hub.accounts.get kind).enabled = true
  total : ∀ kind, (hub.accounts.get kind).total.Charged (bytes kind)

/-- The same while a recorder owes the hub samples of its kind. -/
structure Recorder.Charged (kinds : KindSet) (bytes : Kind → Nat) (recorder : Recorder)
    (hub : Hub) : Prop where
  enabled : ∀ kind, kinds.contains kind = true → (hub.accounts.get kind).enabled = true
  faithful : recorder.account.Faithful
  others : ∀ kind, recorder.kind ≠ some kind → (hub.accounts.get kind).total.Charged (bytes kind)
  own : ∀ kind, recorder.kind = some kind →
    ((hub.accounts.get kind).total + recorder.account.unflushed).Charged (bytes kind)

variable {kinds : KindSet} {bytes : Kind → Nat} {hub next : Hub} {recorder told : Recorder}

namespace Hub

theorem Level.charged (level : Level hub next) (charged : hub.Charged kinds bytes) :
    next.Charged kinds bytes where
  enabled kind member := (level.enabled kind).trans (charged.enabled kind member)
  total kind := by
    rw [level.total]
    exact charged.total kind

theorem mirror_level (hub : Hub) (writer : Writer) : Level hub (hub.mirror writer) :=
  ⟨fun _ => rfl, fun _ => rfl⟩

theorem total_new (bytes : Kind → Nat) (interval now : Nat) (kind : Kind) :
    ((Hub.new interval now).accounts.get kind).total.Charged (bytes kind) := by
  rw [new, PerKind.get_replicate]
  exact Tally.charged_zero _

/-- A kind that begins to be collected has no samples. -/
theorem total_enable (fresh : ∀ kind, (hub.accounts.get kind).total.Charged (bytes kind))
    (listed : List Kind) (kind : Kind) :
    ((listed.foldl enable hub).accounts.get kind).total.Charged (bytes kind) := by
  induction listed generalizing hub with
  | nil => exact fresh kind
  | cons first listed ih =>
      refine ih fun other => ?_
      unfold enable
      split
      · exact fresh other
      · by_cases same : first = other
        · subst same
          rw [PerKind.get_set_self]
          exact Tally.charged_zero _
        · rw [PerKind.get_set_of_ne _ _ same]
          exact fresh other

theorem Charged.sit (charged : hub.Charged kinds bytes) (faithful : recorder.account.Faithful)
    (settled : recorder.account.pending = false) : recorder.Charged kinds bytes hub where
  enabled := charged.enabled
  faithful := faithful
  others kind _ := charged.total kind
  own kind _ := by
    rw [faithful.idle settled, add_zero]
    exact charged.total kind

theorem Charged.summary (charged : hub.Charged kinds bytes) {summary : Summary}
    (member : summary ∈ hub.summaries) : summary.volume = summary.count * bytes summary.kind := by
  obtain ⟨kind, _, told⟩ := List.mem_filterMap.mp member
  unfold summary? at told
  dsimp only at told
  split at told
  · cases told
  · obtain rfl := Option.some.inj told
    exact charged.total kind

end Hub

namespace Recorder

/-- With nothing pending, the hub has all of it. -/
theorem Charged.leave (charged : recorder.Charged kinds bytes hub)
    (settled : recorder.account.pending = false) : hub.Charged kinds bytes where
  enabled := charged.enabled
  total kind := by
    by_cases own : recorder.kind = some kind
    · have whole := charged.own kind own
      rw [charged.faithful.idle settled, add_zero] at whole
      exact whole
    · exact charged.others kind own

theorem Charged.reset (charged : recorder.Charged kinds bytes hub)
    (settled : recorder.account.pending = false) (kind : Kind) (now : Nat) :
    (recorder.reset kind now).Charged kinds bytes hub :=
  (charged.leave settled).sit Account.faithful_new rfl

theorem Charged.carries {kind : Kind} {gain : Tally} (charged : recorder.Charged kinds bytes hub)
    (of : recorder.kind = some kind) (collected : kinds.contains kind = true)
    (carries : Carries hub recorder gain next told) (gained : gain.Charged (bytes kind)) :
    told.Charged kinds bytes next where
  enabled other member := (carries.enabled other).trans (charged.enabled other member)
  faithful := carries.faithful charged.faithful
  others other different := by
    rw [carries.kind] at different
    rw [carries.others other different]
    exact charged.others other different
  own other same := by
    rw [carries.kind] at same
    obtain rfl := Option.some.inj (of.symm.trans same)
    rw [carries.owed kind of (charged.enabled kind collected) charged.faithful.split]
    exact (charged.own kind of).add gained

theorem Charged.add {kind : Kind} {start now : Nat} {emission : Option Emission}
    (charged : recorder.Charged kinds bytes hub) (of : recorder.kind = some kind)
    (collected : kinds.contains kind = true)
    (adds : (recorder.add hub start now (bytes kind)).1 = .ok emission) :
    (recorder.add hub start now (bytes kind)).2.1.Charged kinds bytes
      (recorder.add hub start now (bytes kind)).2.2 :=
  charged.carries of collected
    (@add_carries hub recorder ⟨start, now, bytes kind⟩ emission charged.faithful.split adds)
    (Tally.charged_ofSample _ _)

theorem Charged.merge {kind : Kind} {now : Nat} {emission : Option Emission}
    (charged : recorder.Charged kinds bytes hub) (of : recorder.kind = some kind)
    (collected : kinds.contains kind = true)
    (merges : (recorder.merge hub now).1 = .ok emission) :
    (recorder.merge hub now).2.1.Charged kinds bytes (recorder.merge hub now).2.2 :=
  charged.carries of collected (merge_carries merges) (Tally.charged_zero _)

end Recorder

end StoreBench.Latency
