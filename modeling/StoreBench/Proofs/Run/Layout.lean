import StoreBench.Proofs.KindSets
import StoreBench.Proofs.Run.Passes

/-! The slots of a plan.

With one category of workers, or a single one, every slot runs all selected kinds, in key spaces of
its own.
-/

namespace StoreBench

namespace Run

open StoreBench.Latency (Hub)

namespace Plan

variable {settings : Settings} {plan : Plan}

/-- What readers and what writers run. -/
def categories (settings : Settings) : KindSet × KindSet :=
  if settings.writers = 0 then (settings.selected, .empty)
  else if settings.readers = 0 then (.empty, settings.selected)
  else ((settings.selected.diff .writing).inter .reading, settings.selected.inter .writing)

/-- The plan, however many key spaces it has. -/
def draft (settings : Settings) : Plan :=
  let readers := if (categories settings).1.isEmpty then 0 else settings.readers
  let writers := if (categories settings).2.isEmpty then 0 else settings.writers
  let spaceStep := if settings.selected.meets .pairing then 2 else 1
  { selected := settings.selected
    reading := (categories settings).1
    writing := (categories settings).2
    readers, writers, spaceStep
    spaces := (if 0 < writers then writers else max readers 1) * spaceStep
    sectors := max (max readers writers) 1 }

theorem new_eq_draft (settings : Settings) :
    Plan.new settings =
      if wordLimit ≤ (draft settings).spaces then .error .overflow else .ok (draft settings) :=
  rfl

theorem new_ok_iff :
    Plan.new settings = .ok plan ↔ (draft settings).spaces < wordLimit ∧ draft settings = plan := by
  rw [new_eq_draft]
  split <;> simp_all

theorem new_error_iff {cause : Panic} :
    Plan.new settings = .error cause ↔
      cause = .overflow ∧ wordLimit ≤ (draft settings).spaces := by
  rw [new_eq_draft]
  split <;> simp_all [eq_comm]

/-- Each of the categories takes what the other one leaves of the selection. -/
theorem contains_categories (settings : Settings) (kind : Kind) :
    (categories settings).1.contains kind =
        (settings.selected.contains kind && !(categories settings).2.contains kind) ∧
      (categories settings).2.contains kind =
        (settings.selected.contains kind && !(categories settings).1.contains kind) := by
  have nothing : KindSet.empty.contains kind = false := by simp [KindSet.contains, KindSet.empty]
  have either := KindSet.reading_or_writing kind
  unfold categories
  by_cases noWriters : settings.writers = 0
  · simp [noWriters, nothing]
  by_cases noReaders : settings.readers = 0
  · simp [noWriters, noReaders, nothing]
  · simp only [if_neg noWriters, if_neg noReaders, KindSet.contains_inter, KindSet.contains_diff]
    revert either
    cases settings.selected.contains kind <;> cases KindSet.writing.contains kind <;>
      cases KindSet.reading.contains kind <;> decide

theorem categories_whole (settings : Settings) :
    ((categories settings).2.isEmpty = true → (categories settings).1 = settings.selected) ∧
      ((categories settings).1.isEmpty = true → (categories settings).2 = settings.selected) := by
  refine ⟨fun none => ?_, fun none => ?_⟩
  · refine KindSet.ext_contains fun kind => ?_
    rw [(contains_categories settings kind).1, KindSet.contains_empty none]
    simp
  · refine KindSet.ext_contains fun kind => ?_
    rw [(contains_categories settings kind).2, KindSet.contains_empty none]
    simp

/-- Without writers there is nothing for them to run, and with writers alone nothing for readers. -/
theorem draft_idle (settings : Settings) :
    ((draft settings).writers = 0 → (categories settings).2.isEmpty = true) ∧
      ((draft settings).readers = 0 → 0 < (draft settings).writers →
        (categories settings).1.isEmpty = true) := by
  unfold draft categories
  by_cases noWriters : settings.writers = 0
  · simp [noWriters, KindSet.isEmpty, KindSet.empty]
  by_cases noReaders : settings.readers = 0
  · simp [noWriters, noReaders, KindSet.isEmpty, KindSet.empty]
  · simp only [if_neg noWriters, if_neg noReaders, ite_eq_left_iff, Bool.not_eq_true]
    constructor
    · intro none
      by_contra filled
      exact noWriters (none (by simpa using filled))
    · intro none _
      by_contra filled
      exact noReaders (none (by simpa using filled))

theorem new_eq (planned : Plan.new settings = .ok plan) :
    plan.selected = settings.selected ∧
      plan.spaceStep = (if settings.selected.meets .pairing then 2 else 1) ∧
      plan.spaces = (if 0 < plan.writers then plan.writers else max plan.readers 1) *
        plan.spaceStep ∧
      (plan.writers = 0 → 0 < plan.readers → plan.reading = settings.selected) ∧
      (plan.readers = 0 → 0 < plan.writers → plan.writing = settings.selected) := by
  obtain ⟨_, rfl⟩ := new_ok_iff.mp planned
  obtain ⟨noWriters, noReaders⟩ := draft_idle settings
  obtain ⟨reads, writes⟩ := categories_whole settings
  exact ⟨rfl, rfl, rfl, fun none _ => reads (noWriters none),
    fun none some => writes (noReaders none some)⟩

/-- With one category, every owner has all kinds and key spaces of its own. -/
theorem slot_of_mem (planned : Plan.new settings = .ok plan)
    (category : plan.readers = 0 ∨ plan.writers = 0) {slot : Slot}
    (member : slot ∈ plan.slots settings) :
    slot.kinds = settings.selected ∧ ∃ owner, slot.space = owner * plan.spaceStep ∧
      (owner + 1) * plan.spaceStep ≤ plan.spaces := by
  obtain ⟨selected, _, spaces, reading, writing⟩ := new_eq planned
  unfold slots at member
  split at member
  · next alone =>
    obtain ⟨noReaders, noWriters⟩ : plan.readers = 0 ∧ plan.writers = 0 := by
      simpa [single] using alone
    obtain rfl := List.mem_singleton.mp member
    refine ⟨selected, 0, (Nat.zero_mul _).symm, ?_⟩
    rw [spaces, noReaders, noWriters]
    simp
  · next several =>
    rcases category with noReaders | noWriters
    · have some : 0 < plan.writers := by
        by_contra none
        exact several (by simp [single, noReaders, Nat.eq_zero_of_not_pos none])
      rw [noReaders, List.range_zero, List.map_nil, List.nil_append] at member
      obtain ⟨index, small, rfl⟩ := List.mem_map.mp member
      have small := List.mem_range.mp small
      refine ⟨writing noReaders some, index, ?_, ?_⟩
      · rw [Plan.slot, if_pos some, Nat.mod_eq_of_lt small]
      · rw [spaces, if_pos some]
        exact Nat.mul_le_mul_right _ small
    · have some : 0 < plan.readers := by
        by_contra none
        exact several (by simp [single, noWriters, Nat.eq_zero_of_not_pos none])
      have none : ¬ 0 < plan.writers := by omega
      rw [noWriters, List.range_zero, List.map_nil, List.append_nil] at member
      obtain ⟨index, small, rfl⟩ := List.mem_map.mp member
      have small := List.mem_range.mp small
      refine ⟨reading noWriters some, index, ?_, ?_⟩
      · rw [Plan.slot, if_neg none, Nat.mod_eq_of_lt small]
      · rw [spaces, if_neg none]
        exact Nat.mul_le_mul_right _ (by omega)

theorem new_categories (planned : Plan.new settings = .ok plan) :
    (0 < plan.readers → plan.reading.isEmpty = false) ∧
      (0 < plan.writers → plan.writing.isEmpty = false) ∧
      ∀ kind, plan.reading.contains kind = true ∨ plan.writing.contains kind = true →
        settings.selected.contains kind = true := by
  obtain ⟨_, rfl⟩ := new_ok_iff.mp planned
  have workers {kinds : KindSet} {wanted : Nat}
      (some : 0 < if kinds.isEmpty = true then 0 else wanted) : kinds.isEmpty = false := by
    split at some
    · cases some
    · next filled => simpa using filled
  refine ⟨workers, workers, fun kind either => ?_⟩
  obtain ⟨reads, writes⟩ := contains_categories settings kind
  rcases either with mine | mine
  · exact (Bool.and_eq_true_iff.mp (reads ▸ mine)).1
  · exact (Bool.and_eq_true_iff.mp (writes ▸ mine)).1

end Plan

variable {settings : Settings} {clock : Nat} {engine : Engine.BuiltIn} {prepared : Prepared}

theorem validate_eq (valid : settings.validate = .ok ()) :
    settings.kinds ≠ [] ∧ 0 < settings.passes ∧
      (settings.selected.contains .batch = true → 0 < settings.batchLength) := by
  unfold Settings.validate at valid
  split at valid
  · cases valid
  next some =>
  split at valid
  · cases valid
  split at valid
  · cases valid
  split at valid
  · cases valid
  next repeats =>
  split at valid
  · cases valid
  split at valid
  · cases valid
  next batches =>
  refine ⟨?_, Nat.pos_of_ne_zero repeats, fun selected => Nat.pos_of_ne_zero fun none => ?_⟩
  · intro none
    exact some (by rw [none]; rfl)
  · exact batches (by rw [selected, none]; rfl)

theorem prepare_eq (accepted : prepare settings clock = .ok prepared) :
    settings.validate = .ok () ∧ prepared.settings = settings ∧
      Plan.new settings = .ok prepared.plan ∧
      Keys.Shape.setup (!settings.binary) settings.keySize prepared.plan.spaces
        prepared.plan.sectors settings.keys settings.seed = .ok prepared.shape ∧
      ∃ interval, prepared.shared =
        .new (prepared.plan.selected.toList.foldl Hub.enable (Hub.new interval clock)) clock := by
  unfold prepare at accepted
  rcases valid : settings.validate with _ | _
  · rw [valid] at accepted
    cases accepted
  rcases planned : Plan.new settings with _ | plan
  · rw [valid, planned] at accepted
    cases accepted
  rw [valid, planned] at accepted
  simp only [Except.mapError, bind, Except.bind] at accepted
  rcases shaped : Keys.Shape.setup (!settings.binary) settings.keySize plan.spaces plan.sectors
      settings.keys settings.seed with _ | shape
  · rw [shaped] at accepted
    cases accepted
  rcases timed : settings.intervalNanoseconds with _ | interval
  · rw [shaped, timed] at accepted
    cases accepted
  rw [shaped, timed] at accepted
  cases accepted
  exact ⟨rfl, rfl, rfl, shaped, interval, rfl⟩

theorem prepareEngine_prepare {name : String}
    (accepted : prepareEngine name settings clock = .ok (engine, prepared)) :
    Engine.create name settings.durability = .ok engine ∧
      prepare settings clock = .ok prepared := by
  unfold prepareEngine at accepted
  rcases valid : settings.validate with _ | _
  · rw [valid] at accepted
    cases accepted
  rcases created : Engine.create name settings.durability with _ | _
  · rw [valid, created] at accepted
    cases accepted
  rcases ready : prepare settings clock with _ | made
  · rw [valid, created, ready] at accepted
    cases accepted
  rw [valid, created, ready] at accepted
  cases accepted
  exact ⟨rfl, rfl⟩

theorem prepareEngine_eq {name : String}
    (accepted : prepareEngine name settings clock = .ok (engine, prepared)) :
    settings.validate = .ok () ∧ Engine.create name settings.durability = .ok engine ∧
      prepared.settings = settings ∧ Plan.new settings = .ok prepared.plan ∧
      Keys.Shape.setup (!settings.binary) settings.keySize prepared.plan.spaces
        prepared.plan.sectors settings.keys settings.seed = .ok prepared.shape ∧
      ∃ interval, prepared.shared =
        .new (prepared.plan.selected.toList.foldl Hub.enable (Hub.new interval clock)) clock := by
  obtain ⟨created, ready⟩ := prepareEngine_prepare accepted
  obtain ⟨valid, rest⟩ := prepare_eq ready
  exact ⟨valid, created, rest⟩

theorem failed_of_map {α : Type} {result : Except Stop α} {stop : Stop}
    (failed : (result.map fun _ => ()) = .error stop) : result = .error stop := by
  cases result with
  | ok value => cases failed
  | error cause =>
      cases failed
      rfl

/-- The worker of a slot of these settings, before its work. -/
def seatedDesk (settings : Settings) (number : Nat) : Option Desk :=
  match prepareEngine "btreemap" settings 0 with
  | .error _ => none
  | .ok (_, prepared) =>
    match (prepared.plan.slots settings)[number]? with
    | none => none
    | some slot =>
      match Worker.enlist settings prepared.shape number slot.kinds slot.space slot.start slot.share
          prepared.shared with
      | .error _ => none
      | .ok (worker, shared) => some ⟨shared, worker⟩

end Run

end StoreBench
