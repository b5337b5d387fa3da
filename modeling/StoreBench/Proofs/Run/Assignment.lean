import StoreBench.Proofs.Keys.Stretches
import StoreBench.Proofs.Run.Preparation
import StoreBench.Proofs.Run.Stages

/-! What the slots of a plan are to each other.

The slots of the readers come first, and a worker by itself stands where the writers do.  A kind is
run by all slots of one category, the slots of a category start in ascending order, and no two slots
change the keys of one space.
-/

namespace StoreBench

variable {kind : Kind}

namespace Run

/-- The key spaces of a worker: one, or two if one of its kinds needs two. -/
def Slot.spaces (slot : Slot) : List Nat :=
  if slot.kinds.meets .pairing then [slot.space, slot.space + 1] else [slot.space]

/-- All of these slots run the kind, and none of the others does. -/
structure RunBy (kind : Kind) (category others : List Slot) : Prop where
  some : category ≠ []
  all : ∀ slot ∈ category, slot.kinds.contains kind = true
  none : ∀ slot ∈ others, slot.kinds.contains kind = false

/-- Slots that start at ascending keys. -/
def Ascending (slots : List Slot) : Prop :=
  slots.Pairwise (·.start < ·.start)

/-- The slots that a plan makes of accepted settings.  A reader walks through the first space of a
writer, and of two slots that change the store neither uses a key space of the other. -/
structure Allotted (settings : Settings) (plan : Plan) (slots : List Slot) : Prop where
  length : slots.length = max plan.workers 1
  assigned (kind : Kind) : settings.selected.contains kind = true →
    RunBy kind (slots.take plan.readers) (slots.drop plan.readers) ∨
      RunBy kind (slots.drop plan.readers) (slots.take plan.readers)
  selected (slot : Slot) (member : slot ∈ slots) (kind : Kind) :
    slot.kinds.contains kind = true → settings.selected.contains kind = true
  shares (kind : Kind) : settings.selected.contains kind = true →
    ((slots.filter (·.kinds.contains kind)).map Slot.share).sum = settings.count
  starts (slot : Slot) (member : slot ∈ slots) : slot.start < settings.keys
  ascending : Ascending (slots.take plan.readers) ∧ Ascending (slots.drop plan.readers)
  inside (slot : Slot) (member : slot ∈ slots) (space : Nat) :
    space ∈ slot.spaces → space < plan.spaces
  aligned (index : Nat) (early : index < plan.readers) : 0 < plan.writers →
    ∃ reader writer, slots[index]? = some reader ∧
      slots[plan.readers + index % plan.writers]? = some writer ∧ reader.space = writer.space
  apart : slots.Pairwise fun slot other => slot.kinds.meets .writing = true →
    other.kinds.meets .writing = true → slot.spaces.Disjoint other.spaces

/-- A worker can be made for every slot, if a pair can be addressed, or else for none. -/
structure Enlists (settings : Settings) (shape : Keys.Shape) (slots : List Slot) : Prop where
  made (slot : Slot) (member : slot ∈ slots) (number : Nat) (shared : Shared) :
    settings.keySize + settings.valueSize < wordLimit / 2 →
      ∃ worker after, Worker.enlist settings shape number slot.kinds slot.space slot.start
        slot.share shared = .ok (worker, after)
  unmade (slot : Slot) (member : slot ∈ slots) (number : Nat) (shared : Shared) :
    wordLimit / 2 ≤ settings.keySize + settings.valueSize →
      ∃ cause, Worker.enlist settings shape number slot.kinds slot.space slot.start slot.share
        shared = .error (.panic cause)

theorem start_lt {index size keys : Nat} (early : index < size) (some : 0 < keys) :
    index * keys / size < keys := by
  rw [Nat.div_lt_iff_lt_mul (by omega), Nat.mul_comm keys]
  exact Nat.mul_lt_mul_of_pos_right early some

theorem start_strictMono {size keys : Nat} (some : 0 < size) (enough : size ≤ keys)
    {index later : Nat} (before : index < later) :
    index * keys / size < later * keys / size := by
  calc index * keys / size
      < index * keys / size + 1 := Nat.lt_succ_self _
    _ = (index * keys + size) / size := (Nat.add_div_right _ some).symm
    _ ≤ (index + 1) * keys / size := by
        refine Nat.div_le_div_right ?_
        rw [Nat.succ_mul]
        omega
    _ ≤ later * keys / size := Nat.div_le_div_right (Nat.mul_le_mul_right _ before)

namespace Plan

variable {settings : Settings} {plan : Plan}

theorem reading_unchanging (planned : Plan.new settings = .ok plan) (some : 0 < plan.writers) :
    plan.reading.meets .writing = false := by
  obtain ⟨_, rfl⟩ := new_ok_iff.mp planned
  by_contra met
  obtain ⟨kind, reads, writes⟩ := KindSet.meets_iff.mp (by simpa using met)
  unfold draft categories at reads some
  by_cases noWriters : settings.writers = 0
  · simp [noWriters] at some
  by_cases noReaders : settings.readers = 0
  · simp [noWriters, noReaders, KindSet.contains, KindSet.empty] at reads
  · simp [noWriters, noReaders, KindSet.contains_inter, KindSet.contains_diff, writes] at reads

/-- The slots of `size` workers that run the same kinds. -/
def category (plan : Plan) (settings : Settings) (kinds : KindSet) (size : Nat) : List Slot :=
  (List.range size).map (plan.slot settings kinds size)

theorem slots_several (several : plan.single = false) :
    plan.slots settings = plan.category settings plan.reading plan.readers ++
      plan.category settings plan.writing plan.writers := by
  rw [slots, several]
  rfl

section Category

variable {kinds : KindSet} {size : Nat} {slot : Slot}

@[simp] theorem length_category : (plan.category settings kinds size).length = size := by
  simp [category]

theorem mem_category : slot ∈ plan.category settings kinds size ↔
    ∃ index < size, plan.slot settings kinds size index = slot := by
  simp [category]

theorem getElem?_category {index : Nat} (early : index < size) :
    (plan.category settings kinds size)[index]? = some (plan.slot settings kinds size index) := by
  simp [category, early]

theorem runBy_category {other : KindSet} {others : Nat} (some : 0 < size)
    (mine : kinds.contains kind = true) (not : 0 < others → other.contains kind = false) :
    RunBy kind (plan.category settings kinds size) (plan.category settings other others) := by
  constructor
  · exact List.ne_nil_of_length_pos (by simpa using some)
  · intro slot member
    obtain ⟨index, _, rfl⟩ := mem_category.mp member
    exact mine
  · intro slot member
    obtain ⟨index, early, rfl⟩ := mem_category.mp member
    exact not (Nat.zero_lt_of_lt early)

theorem ascending_category (enough : size ≤ settings.keys) :
    Ascending (plan.category settings kinds size) := by
  refine List.pairwise_map.mpr (List.pairwise_lt_range.imp_of_mem fun _ early before => ?_)
  have some := Nat.zero_lt_of_lt (List.mem_range.mp early)
  exact start_strictMono some enough before

theorem start_lt_of_mem_category (keys : 0 < settings.keys)
    (member : slot ∈ plan.category settings kinds size) : slot.start < settings.keys := by
  obtain ⟨index, early, rfl⟩ := mem_category.mp member
  exact start_lt early keys

end Category

end Plan

theorem Slot.mem_spaces {slot : Slot} {space step : Nat} (some : 0 < step)
    (paired : slot.kinds.meets .pairing = true → step = 2) (member : space ∈ slot.spaces) :
    slot.space ≤ space ∧ space < slot.space + step := by
  unfold spaces at member
  split at member
  · next pairing =>
    have two := paired pairing
    simp at member
    omega
  · simp at member
    omega

namespace Plan

variable {settings : Settings} {plan : Plan}

theorem spaceStep_pos (planned : Plan.new settings = .ok plan) : 0 < plan.spaceStep := by
  rw [(new_eq planned).2.1]
  split <;> decide

/-- A plan counts two spaces for every owner if one of them may need two. -/
theorem spaceStep_pairing (planned : Plan.new settings = .ok plan) {kinds : KindSet}
    (within : ∀ kind, kinds.contains kind = true → settings.selected.contains kind = true)
    (pairing : kinds.meets .pairing = true) : plan.spaceStep = 2 :=
  (new_eq planned).2.1.trans (if_pos (KindSet.meets_mono within pairing))

theorem slot_fits (planned : Plan.new settings = .ok plan) (some : settings.kinds ≠ [])
    {slot : Slot} (member : slot ∈ plan.slots settings) :
    slot.kinds.isEmpty = false ∧ slot.space + plan.spaceStep ≤ plan.spaces ∧
      (slot.kinds.meets .pairing = true → plan.spaceStep = 2) := by
  obtain ⟨selected, _, spaces, _⟩ := new_eq planned
  obtain ⟨reads, writes, within⟩ := new_categories planned
  cases alone : plan.single with
  | true =>
      rw [slots_single alone, List.mem_singleton] at member
      rw [member, selected]
      refine ⟨Settings.selected_isEmpty some, ?_, spaceStep_pairing planned fun _ => id⟩
      rw [spaces, Nat.zero_add]
      refine Nat.le_mul_of_pos_left _ ?_
      split
      · assumption
      · exact Nat.lt_of_lt_of_le Nat.one_pos (Nat.le_max_right _ _)
  | false =>
      have inside (index : Nat) (some : 0 < plan.readers ∨ 0 < plan.writers) :
          (index % if 0 < plan.writers then plan.writers else plan.readers) * plan.spaceStep +
            plan.spaceStep ≤ plan.spaces := by
        rw [spaces, ← Nat.succ_mul]
        refine Nat.mul_le_mul_right _ ?_
        split
        · next some => exact Nat.mod_lt _ some
        · next none =>
          have small := Nat.mod_lt index (some.resolve_right none)
          omega
      rw [slots_several alone, List.mem_append, mem_category, mem_category] at member
      rcases member with ⟨index, early, rfl⟩ | ⟨index, early, rfl⟩
      · have some := Nat.zero_lt_of_lt early
        exact ⟨reads some, inside index (.inl some),
          spaceStep_pairing planned fun kind mine => within kind (.inl mine)⟩
      · have some := Nat.zero_lt_of_lt early
        exact ⟨writes some, inside index (.inr some),
          spaceStep_pairing planned fun kind mine => within kind (.inr mine)⟩

theorem apart_category {kinds : KindSet} {size : Nat} (planned : Plan.new settings = .ok plan)
    (owners : (if 0 < plan.writers then plan.writers else plan.readers) = size)
    (paired : kinds.meets .pairing = true → plan.spaceStep = 2) :
    (plan.category settings kinds size).Pairwise fun slot other =>
      slot.spaces.Disjoint other.spaces := by
  have some := spaceStep_pos planned
  refine List.pairwise_map.mpr (List.pairwise_lt_range.imp_of_mem ?_)
  intro index later early late before space here there
  have here := Slot.mem_spaces some paired here
  have there := Slot.mem_spaces some paired there
  have own {index : Nat} (early : index ∈ List.range size) :
      (plan.slot settings kinds size index).space = index * plan.spaceStep := by
    simp [slot, owners, Nat.mod_eq_of_lt (List.mem_range.mp early)]
  rw [own early] at here
  rw [own late] at there
  have next := Nat.mul_le_mul_right plan.spaceStep (Nat.succ_le_of_lt before)
  rw [Nat.succ_mul] at next
  omega

theorem slots_apart (planned : Plan.new settings = .ok plan) :
    (plan.slots settings).Pairwise fun slot other => slot.kinds.meets .writing = true →
      other.kinds.meets .writing = true → slot.spaces.Disjoint other.spaces := by
  have within := (new_categories planned).2.2
  have free {slots : List Slot}
      (apart : slots.Pairwise fun slot other => slot.spaces.Disjoint other.spaces) :
      slots.Pairwise fun slot other => slot.kinds.meets .writing = true →
        other.kinds.meets .writing = true → slot.spaces.Disjoint other.spaces :=
    apart.imp fun disjoint _ _ => disjoint
  cases alone : plan.single with
  | true =>
      rw [slots_single alone]
      exact List.pairwise_singleton ..
  | false =>
      rw [slots_several alone]
      rcases Nat.eq_zero_or_pos plan.writers with noWriters | some
      · have nobody : plan.category settings plan.writing plan.writers = [] := by
          simp [category, noWriters]
        rw [nobody, List.append_nil]
        refine free (apart_category planned (by simp [noWriters]) ?_)
        exact spaceStep_pairing planned fun kind mine => within kind (.inl mine)
      · have reader {slot : Slot}
            (member : slot ∈ plan.category settings plan.reading plan.readers) :
            slot.kinds.meets .writing = false := by
          obtain ⟨index, _, rfl⟩ := mem_category.mp member
          exact reading_unchanging planned some
        refine List.pairwise_append.mpr ⟨?_, free ?_, fun slot member _ _ changes => ?_⟩
        · refine List.pairwise_of_forall_mem_list fun slot member _ _ changes => ?_
          rw [reader member] at changes
          cases changes
        · refine apart_category planned (if_pos some) ?_
          exact spaceStep_pairing planned fun kind mine => within kind (.inr mine)
        · rw [reader member] at changes
          cases changes

theorem slots_aligned {index : Nat} (early : index < plan.readers) (some : 0 < plan.writers) :
    ∃ reader writer, (plan.slots settings)[index]? = .some reader ∧
      (plan.slots settings)[plan.readers + index % plan.writers]? = .some writer ∧
      reader.space = writer.space := by
  have several : plan.single = false := by simp [single, Nat.pos_iff_ne_zero.mp some]
  have owner := Nat.mod_lt index some
  rw [slots_several several, List.getElem?_append_left (by simpa using early),
    getElem?_category early, List.getElem?_append_right (by simp), length_category,
    Nat.add_sub_cancel_left, getElem?_category owner]
  exact ⟨_, _, rfl, rfl, by simp [slot, some]⟩

theorem slots_allotted (planned : Plan.new settings = .ok plan) (some : settings.kinds ≠ [])
    (keys : 0 < settings.keys) (enough : plan.sectors ≤ settings.keys) :
    Allotted settings plan (plan.slots settings) := by
  have sectors : plan.sectors = max (max plan.readers plan.writers) 1 := by
    obtain ⟨_, rfl⟩ := new_ok_iff.mp planned
    rfl
  have inside (slot : Slot) (member : slot ∈ plan.slots settings) (space : Nat)
      (used : space ∈ slot.spaces) : space < plan.spaces := by
    obtain ⟨_, fits, paired⟩ := slot_fits planned some member
    have near := Slot.mem_spaces (spaceStep_pos planned) paired used
    omega
  have shares (kind : Kind) := @shares_of settings plan kind planned
  have apart := @slots_apart settings plan planned
  have aligned (index : Nat) (early : index < plan.readers) :=
    @slots_aligned settings plan index early
  cases alone : plan.single with
  | true =>
      obtain ⟨noReaders, noWriters⟩ : plan.readers = 0 ∧ plan.writers = 0 := by
        simpa [single] using alone
      have selected := new_selected planned
      rw [slots_single alone] at *
      constructor
      case length => simp [workers, noReaders, noWriters]
      case assigned =>
        intro kind chosen
        rw [noReaders]
        refine .inr ⟨by simp, ?_, by simp⟩
        simpa [selected] using chosen
      case selected => simp [selected]
      case starts => simpa using keys
      case ascending => simp [noReaders, Ascending]
      all_goals assumption
  | false =>
      have within := (new_categories planned).2.2
      have readers : (plan.slots settings).take plan.readers =
          plan.category settings plan.reading plan.readers := by
        simp [slots_several alone]
      have writers : (plan.slots settings).drop plan.readers =
          plan.category settings plan.writing plan.writers := by
        simp [slots_several alone]
      have either {slot : Slot} (member : slot ∈ plan.slots settings) :
          slot ∈ plan.category settings plan.reading plan.readers ∨
            slot ∈ plan.category settings plan.writing plan.writers := by
        rwa [slots_several alone, List.mem_append] at member
      constructor
      case length =>
        have workers : 0 < plan.workers := by
          by_contra none
          simp_all [single, Plan.workers]
        simp [slots_several alone, Plan.workers] at workers ⊢
        omega
      case assigned =>
        intro kind chosen
        rw [readers, writers]
        rcases one_category planned alone chosen with ⟨some, mine, none⟩ | ⟨some, mine, none⟩
        · exact .inl (runBy_category some mine none)
        · exact .inr (runBy_category some mine none)
      case selected =>
        intro slot member kind mine
        rcases either member with member | member
        · obtain ⟨index, _, rfl⟩ := mem_category.mp member
          exact within kind (.inl mine)
        · obtain ⟨index, _, rfl⟩ := mem_category.mp member
          exact within kind (.inr mine)
      case starts =>
        intro slot member
        exact (either member).elim (start_lt_of_mem_category keys) (start_lt_of_mem_category keys)
      case ascending =>
        rw [readers, writers]
        exact ⟨ascending_category (by omega), ascending_category (by omega)⟩
      all_goals assumption

end Plan

section Enlisting

variable {shape : Keys.Shape} {settings : Settings} {slot : Slot}

theorem enlist_made (number : Nat) (shared : Shared) (busy : slot.kinds.isEmpty = false)
    (inside : ∀ space ∈ slot.spaces, space < shape.spaces)
    (small : shape.keySize + settings.valueSize < wordLimit / 2) :
    ∃ worker after, Worker.enlist settings shape number slot.kinds slot.space slot.start
      slot.share shared = .ok (worker, after) := by
  unfold Slot.spaces at inside
  unfold Worker.enlist
  rw [busy]
  cases pairing : slot.kinds.meets .pairing with
  | false =>
      have first := inside slot.space (by simp [pairing])
      rw [Keys.Walk.new_along first small]
      exact ⟨_, _, rfl⟩
  | true =>
      have first := inside slot.space (by simp [pairing])
      have second := inside (slot.space + 1) (by simp [pairing])
      rw [Keys.Walk.new_along first small, Keys.Walk.new_along second small]
      exact ⟨_, _, rfl⟩

theorem enlist_unmade (number : Nat) (shared : Shared) (busy : slot.kinds.isEmpty = false)
    (inside : slot.space < shape.spaces)
    (large : wordLimit / 2 ≤ shape.keySize + settings.valueSize) :
    ∃ cause, Worker.enlist settings shape number slot.kinds slot.space slot.start slot.share
      shared = .error (.panic cause) := by
  unfold Worker.enlist Keys.Walk.new
  rw [busy, if_neg (Nat.not_le.mpr inside), if_pos large]
  split <;> exact ⟨_, rfl⟩

end Enlisting

theorem setup_sectors {printable : Bool} {keySize spaces sectors period : Nat} {seed : UInt64}
    {shape : Keys.Shape}
    (shaped : Keys.Shape.setup printable keySize spaces sectors period seed = .ok shape) :
    sectors ≤ period := by
  unfold Keys.Shape.setup at shaped
  grind

/-- Whatever settings are accepted, the plan shares out kinds, operations, keys and key spaces, and
a worker can be made for each slot unless its buffer is too large. -/
theorem accepted_slots_allotted {settings : Settings} {clock : Nat} {prepared : Prepared}
    (accepted : prepare settings clock = .ok prepared) :
    Allotted settings prepared.plan (prepared.plan.slots settings) ∧
      Enlists settings prepared.shape (prepared.plan.slots settings) := by
  obtain ⟨valid, _, planned, shaped, _⟩ := prepare_eq accepted
  obtain ⟨sound, _, keySize, spaces, _, period⟩ := Keys.Shape.setup_sound shaped
  have some := (validate_eq valid).1
  have keys : 0 < settings.keys := period ▸ sound.keys
  have allotted := Plan.slots_allotted planned some keys (setup_sectors shaped)
  refine ⟨allotted, ?_, ?_⟩
  · intro slot member number shared small
    refine enlist_made number shared (Plan.slot_fits planned some member).1 ?_ (keySize ▸ small)
    intro space used
    rw [spaces]
    exact allotted.inside slot member space used
  · intro slot member number shared large
    obtain ⟨busy, fits, _⟩ := Plan.slot_fits planned some member
    have step := Plan.spaceStep_pos planned
    exact enlist_unmade number shared busy (by omega) (keySize ▸ large)

/-- Three readers beside two writers, which need two key spaces each. -/
def assorted : Settings :=
  { Settings.default with
    kinds := [.get, .set, .batch]
    keys := 10
    count := 7
    readers := 3
    writers := 2 }

theorem accepted_slots_allotted_assorted : ∃ prepared reads writes,
    prepare assorted 0 = .ok prepared ∧
      prepared.plan.slots assorted =
        [⟨reads, 0, 0, 2⟩, ⟨reads, 2, 3, 2⟩, ⟨reads, 0, 6, 3⟩, ⟨writes, 0, 0, 3⟩,
          ⟨writes, 2, 5, 4⟩] ∧
      Allotted assorted prepared.plan (prepared.plan.slots assorted) ∧
      ∀ slot ∈ prepared.plan.slots assorted, ∃ worker after,
        Worker.enlist assorted prepared.shape 0 slot.kinds slot.space slot.start slot.share
          prepared.shared = .ok (worker, after) := by
  have checked : (match prepare assorted 0 with
      | .error _ => false
      | .ok prepared =>
        decide (prepared.plan.slots assorted =
          [⟨.ofList [.get], 0, 0, 2⟩, ⟨.ofList [.get], 2, 3, 2⟩, ⟨.ofList [.get], 0, 6, 3⟩,
            ⟨.ofList [.set, .batch], 0, 0, 3⟩, ⟨.ofList [.set, .batch], 2, 5, 4⟩])) = true := by
    decide +kernel
  rcases accepted : prepare assorted 0 with cause | prepared
  · rw [accepted] at checked
    cases checked
  · rw [accepted] at checked
    obtain ⟨allotted, enlists⟩ := accepted_slots_allotted accepted
    refine ⟨prepared, _, _, rfl, of_decide_eq_true checked, allotted, fun slot member => ?_⟩
    exact enlists.made slot member 0 prepared.shared (by decide)

/-- Values that fill half of the address space. -/
def bulky : Settings :=
  { Settings.default with valueSize := 0x8000000000000000 }

/-- The length of the values is never checked. -/
theorem accepted_slot_unmade : ∃ prepared slot,
    prepare bulky 0 = .ok prepared ∧ slot ∈ prepared.plan.slots bulky ∧
      slot.space < prepared.plan.spaces ∧ slot.kinds.meets .pairing = false ∧
      Worker.enlist bulky prepared.shape 0 slot.kinds slot.space slot.start slot.share
        prepared.shared = .error (.panic .allocation) := by
  have checked : (match prepare bulky 0 with
      | .error _ => false
      | .ok prepared =>
        let slot : Slot := ⟨prepared.plan.selected, 0, 0, 1000000⟩
        decide (slot ∈ prepared.plan.slots bulky ∧ slot.space < prepared.plan.spaces ∧
          slot.kinds.meets .pairing = false ∧
          (Worker.enlist bulky prepared.shape 0 slot.kinds slot.space slot.start slot.share
            prepared.shared).map (fun _ => ()) = .error (.panic .allocation))) = true := by
    decide +kernel
  rcases accepted : prepare bulky 0 with cause | prepared
  · rw [accepted] at checked
    cases checked
  · rw [accepted] at checked
    obtain ⟨member, inside, alone, failed⟩ := of_decide_eq_true checked
    exact ⟨prepared, _, rfl, member, inside, alone, failed_of_map failed⟩

end Run

end StoreBench
