import Mathlib.Algebra.Order.BigOperators.Group.List
import StoreBench.Proofs.Run.Layout

/-! The shares of a plan.

Every selected kind belongs to one category of workers, and the shares of a category add up to the
number of operations, however many workers there are.
-/

namespace StoreBench.Run

theorem shares_sum (count : Nat) {size : Nat} (some : 0 < size) :
    ((List.range size).map fun index =>
      count / size + if index + 1 = size then count % size else 0).sum = count := by
  obtain ⟨others, rfl⟩ := Nat.exists_eq_add_of_lt some
  rw [Nat.zero_add, List.range_succ, List.map_append, List.sum_append]
  have even : ((List.range others).map fun index => count / (others + 1) +
      if index + 1 = others + 1 then count % (others + 1) else 0).sum =
      others * (count / (others + 1)) := by
    have same := List.sum_eq_card_nsmul ((List.range others).map fun index => count / (others + 1) +
      if index + 1 = others + 1 then count % (others + 1) else 0) (count / (others + 1)) ?_
    · simpa using same
    · intro share member
      obtain ⟨index, small, rfl⟩ := List.mem_map.mp member
      have small := List.mem_range.mp small
      rw [if_neg (by omega), Nat.add_zero]
  have whole := Nat.div_add_mod count (others + 1)
  rw [even]
  simp only [List.map_cons, List.map_nil, List.sum_cons, List.sum_nil, if_true, Nat.add_zero]
  rw [Nat.add_mul, Nat.one_mul] at whole
  omega

namespace Plan

variable {settings : Settings} {plan : Plan} {kind : Kind}

theorem one_category (planned : Plan.new settings = .ok plan) (several : plan.single = false)
    (chosen : settings.selected.contains kind = true) :
    (0 < plan.readers ∧ plan.reading.contains kind = true ∧
        (0 < plan.writers → plan.writing.contains kind = false)) ∨
      (0 < plan.writers ∧ plan.writing.contains kind = true ∧
        (0 < plan.readers → plan.reading.contains kind = false)) := by
  obtain ⟨_, rfl⟩ := new_ok_iff.mp planned
  obtain ⟨reads, writes⟩ := contains_categories settings kind
  obtain ⟨noWriters, noReaders⟩ := draft_idle settings
  rw [chosen, Bool.true_and] at reads writes
  simp only [single, Bool.and_eq_false_iff, decide_eq_false_iff_not] at several
  cases mine : (categories settings).1.contains kind with
  | true =>
      rw [mine] at writes
      refine .inl ⟨Nat.pos_of_ne_zero fun none => ?_, mine, fun _ => writes⟩
      have some := Nat.pos_of_ne_zero (several.resolve_left (not_not.mpr none))
      rw [KindSet.contains_empty (noReaders none some)] at mine
      cases mine
  | false =>
      rw [mine] at writes
      refine .inr ⟨Nat.pos_of_ne_zero fun none => ?_, writes, fun _ => mine⟩
      rw [KindSet.contains_empty (noWriters none)] at writes
      cases writes

theorem new_selected (planned : Plan.new settings = .ok plan) :
    plan.selected = settings.selected := (new_eq planned).1

theorem category_sum (plan : Plan) (settings : Settings) (kinds : KindSet) (size : Nat) :
    ((((List.range size).map (plan.slot settings kinds size)).filter
      (·.kinds.contains kind)).map Slot.share).sum =
        if 0 < size ∧ kinds.contains kind = true then settings.count else 0 := by
  have same (slot : Slot) (member : slot ∈ (List.range size).map (plan.slot settings kinds size)) :
      slot.kinds = kinds := by
    obtain ⟨index, _, rfl⟩ := List.mem_map.mp member
    rfl
  cases mine : kinds.contains kind with
  | true =>
      rw [List.filter_eq_self.mpr fun slot member => by rw [same slot member]; exact mine]
      by_cases some : 0 < size
      · rw [if_pos ⟨some, rfl⟩, List.map_map]
        exact shares_sum settings.count some
      · obtain rfl : size = 0 := by omega
        simp
  | false =>
      rw [List.filter_eq_nil_iff.mpr fun slot member => by simp [same slot member, mine]]
      simp

/-- Whatever the workers are, those that run a selected kind take all of its operations. -/
theorem shares_of (planned : Plan.new settings = .ok plan)
    (chosen : settings.selected.contains kind = true) :
    (((plan.slots settings).filter (·.kinds.contains kind)).map Slot.share).sum =
      settings.count := by
  unfold slots
  cases alone : plan.single with
  | true =>
      have mine : plan.selected.contains kind = true := by
        rw [new_selected planned]
        exact chosen
      simp [mine]
  | false =>
      rw [if_neg (by simp), List.filter_append, List.map_append, List.sum_append, category_sum,
        category_sum]
      rcases one_category planned alone chosen with ⟨some, mine, none⟩ | ⟨some, mine, none⟩
      · rw [if_pos ⟨some, mine⟩, if_neg fun both => by simp [none both.1] at both, Nat.add_zero]
      · rw [if_neg fun both => by simp [none both.1] at both, if_pos ⟨some, mine⟩, Nat.zero_add]

end Plan

end StoreBench.Run
