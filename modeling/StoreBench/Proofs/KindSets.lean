import Mathlib.Data.List.Nodup
import Mathlib.Tactic.IntervalCases
import Mathlib.Tactic.Push
import StoreBench.Kind

/-! Sets of kinds by their elements.

A set is known from the kinds that it contains; every operation on sets says which kinds those are.
The elements are listed in running order, each once.
-/

namespace StoreBench.KindSet

variable {kinds left right : KindSet} {kind : Kind}

theorem contains_inter (left right : KindSet) (kind : Kind) :
    (left.inter right).contains kind = (left.contains kind && right.contains kind) := by
  simp [contains, inter]

theorem contains_diff (left right : KindSet) (kind : Kind) :
    (left.diff right).contains kind = (left.contains kind && !right.contains kind) := by
  simp [contains, diff]

theorem contains_insert (kinds : KindSet) (new kind : Kind) :
    (kinds.insert new).contains kind = (kinds.contains kind || decide (new = kind)) := by
  have places : (kind.index : Nat) = new.index ↔ new = kind :=
    ⟨fun same => Kind.index_injective (Fin.ext same.symm), fun same => by rw [same]⟩
  simp [contains, insert, places]

theorem contains_foldl_insert (listed : List Kind) (kinds : KindSet) (kind : Kind) :
    (listed.foldl insert kinds).contains kind = true ↔
      kinds.contains kind = true ∨ kind ∈ listed := by
  induction listed generalizing kinds with
  | nil => simp
  | cons first listed ih =>
      rw [List.foldl_cons, ih, contains_insert, Bool.or_eq_true, decide_eq_true_eq, List.mem_cons,
        or_assoc, @eq_comm _ first]

theorem contains_ofList (listed : List Kind) (kind : Kind) :
    (ofList listed).contains kind = true ↔ kind ∈ listed := by
  rw [ofList, contains_foldl_insert]
  simp [contains, empty]

theorem ext_contains (same : ∀ kind, left.contains kind = right.contains kind) : left = right := by
  obtain ⟨ours⟩ := left
  obtain ⟨theirs⟩ := right
  congr 1
  refine BitVec.eq_of_getLsbD_eq fun place small => ?_
  have bits (kind : Kind) : ours.getLsbD kind.index = theirs.getLsbD kind.index := same kind
  interval_cases place
  · exact bits .set
  · exact bits .get
  · exact bits .iterate
  · exact bits .delete
  · exact bits .batch
  · exact bits .crud

theorem contains_empty (none : kinds.isEmpty = true) (kind : Kind) :
    kinds.contains kind = false := by
  have bits : kinds.bits = 0 := by simpa [isEmpty] using none
  simp [contains, bits]

theorem not_isEmpty (contains : kinds.contains kind = true) : kinds.isEmpty = false := by
  by_contra empty
  rw [Bool.not_eq_false] at empty
  rw [contains_empty empty] at contains
  cases contains

theorem meets_iff :
    left.meets right = true ↔ ∃ kind, left.contains kind = true ∧ right.contains kind = true := by
  constructor
  · intro met
    by_contra apart
    push Not at apart
    have none : left.inter right = .empty := ext_contains fun kind => by
      have absent := apart kind
      rw [contains_inter]
      cases ours : left.contains kind <;> simp_all [contains, empty]
    rw [meets, none] at met
    cases met
  · rintro ⟨kind, ours, theirs⟩
    have both : (left.inter right).contains kind = true := by
      rw [contains_inter, ours, theirs]
      rfl
    rw [meets, not_isEmpty both]
    rfl

theorem meets_of_contains (ours : left.contains kind = true) (theirs : right.contains kind = true) :
    left.meets right = true :=
  meets_iff.mpr ⟨kind, ours, theirs⟩

theorem meets_mono {some all other : KindSet}
    (within : ∀ kind, some.contains kind = true → all.contains kind = true)
    (met : some.meets other = true) : all.meets other = true := by
  obtain ⟨kind, mine, theirs⟩ := meets_iff.mp met
  exact meets_of_contains (within kind mine) theirs

theorem reading_or_writing (kind : Kind) :
    (writing.contains kind || reading.contains kind) = true := by
  cases kind <;> decide

theorem mem_toList (kinds : KindSet) (kind : Kind) :
    kind ∈ kinds.toList ↔ kinds.contains kind = true := by
  rw [toList, List.mem_filter]
  exact and_iff_right (Kind.mem_all kind)

theorem toList_ne_nil (some : kinds.isEmpty = false) : kinds.toList ≠ [] := by
  intro nothing
  have none : kinds = .empty := ext_contains fun kind => by
    have absent := (mem_toList kinds kind).not.mp (by simp [nothing])
    simpa [contains, empty] using absent
  rw [none] at some
  cases some

theorem nodup_toList (kinds : KindSet) : kinds.toList.Nodup :=
  List.Nodup.filter _ (by decide)

/-- Kinds are listed in the order of their places. -/
theorem ascending_toList (kinds : KindSet) : kinds.toList.Pairwise (·.index < ·.index) :=
  List.Pairwise.filter _ (by decide)

end StoreBench.KindSet
