import Mathlib.Algebra.BigOperators.Ring.List
import Mathlib.Tactic.Ring
import StoreBench.Proofs.Run.Completion

/-! The volumes that a report tells of.

Every sample of a kind is charged the same bytes: a get what it found, which are the sizes that the
settings give, and a batch its full length even where the last batch of a slot is shorter.  So the
volumes of a fresh run follow from its settings as the counts do.
-/

namespace StoreBench.Run

open StoreBench.Engine (BuiltIn Costs taken)
open StoreBench.Latency (Hub Summary)

variable {W : Type} {host : Host (StateM W)} {window : Window W} {settings : Settings}
  {clock : Nat} {engine : BuiltIn} {prepared : Prepared} {summaries : List Summary}

def reportedVolume (summaries : List Summary) (kind : Kind) : Nat :=
  ((summaries.filter (·.kind = kind)).map Summary.volume).sum

theorem reportedVolume_eq
    (charged : ∀ summary ∈ summaries,
      summary.volume = summary.count * settings.bytes summary.kind) (kind : Kind) :
    reportedVolume summaries kind = reported summaries kind * settings.bytes kind := by
  unfold reportedVolume reported
  rw [← List.sum_map_mul_right]
  refine congrArg List.sum (List.map_congr_left fun summary member => ?_)
  obtain ⟨listed, of⟩ := List.mem_filter.mp member
  rw [charged summary listed, of_decide_eq_true of]

/-- What each kind moved, if it is selected: the bytes of its samples as often as there are
samples. -/
structure Volumes (settings : Settings) (slots : List Slot) (summaries : List Summary) :
    Prop where
  set : settings.selected.contains .set = true → reportedVolume summaries .set =
    settings.passes * settings.count * (settings.keySize + settings.valueSize)
  get : settings.selected.contains .get = true → reportedVolume summaries .get =
    settings.passes * settings.count * (settings.keySize + settings.valueSize)
  delete : settings.selected.contains .delete = true → reportedVolume summaries .delete =
    settings.passes * settings.count * settings.keySize
  crud : settings.selected.contains .crud = true → reportedVolume summaries .crud =
    settings.passes * settings.count *
      (3 * (settings.keySize + settings.valueSize) + settings.keySize)
  batch : settings.selected.contains .batch = true → reportedVolume summaries .batch =
    settings.passes * settings.batchLength *
      (3 * (settings.keySize + settings.valueSize) + settings.keySize) *
      (slots.map fun slot =>
        (slot.share + (settings.batchLength - 1)) / settings.batchLength).sum
  iterate : reportedVolume summaries .iterate =
    (settings.keySize + settings.valueSize) * reported summaries .iterate

theorem reported_of_ended {name : String} (accepted : prepare settings clock = .ok prepared)
    (once : settings.continuous = false) {turns : Turns}
    (order : turns.order.Perm (List.range (prepared.plan.slots settings).length)) {world : W}
    (ended : (runFrom (runAll host name prepared turns) prepared.shared world).1.1 =
      .ok summaries) {kind : Kind} (chosen : settings.selected.contains kind = true)
    (counted : kind ≠ .iterate) :
    reported summaries kind = settings.passes *
      (((prepared.plan.slots settings).filter (·.kinds.contains kind)).map
        fun slot => settings.charge kind slot.share).sum := by
  obtain ⟨valid, rfl, planned, _⟩ := prepare_eq accepted
  obtain ⟨made, _, meets⟩ :=
    (@runAll_around _ host prepared prepared.shared once name turns order) world
  generalize runFrom (runAll host name prepared turns) prepared.shared world = left at *
  obtain ⟨⟨result, after⟩, world⟩ := left
  obtain rfl : result = .ok summaries := ended
  obtain ⟨_, closing, left, rfl, _, opening, logs, rfl, offers, all, leads, rfl⟩ :=
    meets.2 summaries rfl
  have enabled := prepared_enabled accepted chosen
  have none : (prepared.shared.hub.accounts.get kind).total.count = 0 := by
    rw [prepared_total accepted]
    rfl
  have places := places_slots order
  calc reported left.hub.summaries kind
      = taken kind logs.flatten := by
        rw [reported_eq, collected, leads.enabled, enabled, if_pos rfl, leads.count kind enabled,
          none, Engine.taken_append, Engine.taken_aside kind offers, Nat.zero_add, Nat.zero_add]
    _ = _ := all.taken_eq counted fun batch => (validate_eq valid).2.2 (batch ▸ chosen)
    _ = _ := congrArg _ ((places.filter _).map _).sum_eq

theorem filter_slots (planned : Plan.new settings = .ok prepared.plan)
    (category : prepared.plan.readers = 0 ∨ prepared.plan.writers = 0) {kind : Kind}
    (chosen : settings.selected.contains kind = true) :
    (prepared.plan.slots settings).filter (·.kinds.contains kind) =
      prepared.plan.slots settings := by
  refine List.filter_eq_self.mpr fun slot member => ?_
  rw [(Plan.slot_of_mem planned category member).1]
  exact chosen

theorem volumes_of_charged (planned : Plan.new settings = .ok prepared.plan)
    (category : prepared.plan.readers = 0 ∨ prepared.plan.writers = 0)
    (charged : ∀ summary ∈ summaries,
      summary.volume = summary.count * settings.bytes summary.kind)
    (counts : ∀ kind, settings.selected.contains kind = true → kind ≠ .iterate →
      reported summaries kind = settings.passes *
        (((prepared.plan.slots settings).filter (·.kinds.contains kind)).map
          fun slot => settings.charge kind slot.share).sum) :
    Volumes settings (prepared.plan.slots settings) summaries := by
  have single {kind : Kind} (chosen : settings.selected.contains kind = true)
      (counted : kind ≠ .iterate) (plain : kind ≠ .batch) :
      reportedVolume summaries kind = settings.passes * settings.count * settings.bytes kind := by
    rw [reportedVolume_eq charged, counts kind chosen counted, ← Plan.shares_of planned chosen]
    simp only [Settings.charge, if_neg plain]
  refine
    { set := fun chosen => single chosen (by decide) (by decide)
      get := fun chosen => single chosen (by decide) (by decide)
      delete := fun chosen => single chosen (by decide) (by decide)
      crud := fun chosen => single chosen (by decide) (by decide)
      batch := fun chosen => ?_
      iterate := ?_ }
  · rw [reportedVolume_eq charged, counts _ chosen (by decide),
      filter_slots planned category chosen]
    simp only [Settings.charge, if_pos, batchesFor, Settings.bytes]
    ring
  · rw [reportedVolume_eq charged, Nat.mul_comm]
    rfl

/-- The bytes that a fresh run of one category of workers reports follow from its settings, whatever
the order of the workers.  With files, memory and time enough it does report. -/
theorem fresh_volumes_determined (hosts : Hosts host window)
    (accepted : prepareEngine "btreemap" settings clock = .ok (engine, prepared))
    (optionless : settings.engineOptions = []) (bounded : settings.continuous = false)
    (category : prepared.plan.readers = 0 ∨ prepared.plan.writers = 0)
    (closed : settings.selected.Closed)
    (around : settings.selected.contains .delete = true →
      ∀ slot ∈ prepared.plan.slots settings, slot.share ≤ settings.keys)
    {turns : Turns} {world after : W} {result : Except Stop (List Summary)}
    (run : FreshRun host window engine prepared turns world result after) :
    (∀ summaries, result = .ok summaries →
      Volumes settings (prepared.plan.slots settings) summaries) ∧
    (∀ ready, Favorable host settings "btreemap" (prepared.plan.slots settings) ready →
      ready world → turns.broken = [] → window.time after < wordLimit →
      ∃ summaries, result = .ok summaries) := by
  obtain ⟨_, _, same, planned, _⟩ := prepareEngine_eq accepted
  refine ⟨fun summaries ends => ?_, fun ready favorable available unbroken timely => ?_⟩
  · subst ends
    have lots : (sceneOf hosts accepted optionless bounded (fun _ => True) False False.elim).Lots
        (prepared.plan.slots settings) := sceneOf_lots category closed around
    obtain ⟨_, told⟩ := run.goes lots False.elim False.elim
    refine volumes_of_charged planned category told.volumes fun kind chosen counted => ?_
    obtain ⟨shared, taken⟩ := run.ends
    exact reported_of_ended (prepareEngine_prepare accepted).2 bounded (same ▸ run.order)
      (congrArg (·.1.1) taken) chosen counted
  · have lots : (sceneOf hosts accepted optionless bounded ready True fun _ => favorable).Lots
        (prepared.plan.slots settings) := sceneOf_lots category closed around
    exact run.succeeds lots available unbroken timely

theorem fresh_volumes_determined_rehearsed : ∃ prepared summaries,
    prepareEngine "btreemap" rehearsed 0 = .ok (.ordered .new, prepared) ∧
      (runFrom (runAll Sandbox.probed "btreemap" prepared ⟨[1, 0], []⟩) prepared.shared
        (.new (.new (.ordered .new) [] ⟨0, [], 0⟩) .fresh)).1.1 = .ok summaries ∧
      reportedVolume summaries .set = 21 * 48 ∧ reportedVolume summaries .get = 21 * 48 ∧
      reportedVolume summaries .delete = 21 * 16 ∧
      reportedVolume summaries .crud = 21 * 160 ∧
      reportedVolume summaries .batch = 24 * 160 := by
  obtain ⟨prepared, accepted, plan⟩ := rehearsed_accepted
  obtain ⟨volumes, succeeds⟩ := fresh_volumes_determined
    (Sandbox.probed_hosts (by decide : (⟨0, [], 0⟩ : Costs).next.length ≤ 1)) accepted rfl rfl
    (.inl (by rw [plan])) (fun _ => by decide) (fun _ => by rw [plan]; decide)
    (rehearsal_fresh accepted plan)
  obtain ⟨summaries, fine⟩ := succeeds _ (rehearsed_favorable plan) rfl rfl (rehearsal_timely _)
  have told := volumes summaries fine
  refine ⟨prepared, summaries, accepted, fine, told.set rfl, told.get rfl, told.delete rfl,
    told.crud rfl, ?_⟩
  rw [told.batch rfl, plan]
  rfl

end StoreBench.Run
