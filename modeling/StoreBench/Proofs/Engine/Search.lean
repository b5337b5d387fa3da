import Mathlib.Data.List.Nodup
import StoreBench.Engine.Store

/-! The ordered store through its list of pairs.

A store whose list ascends is a search tree: every operation on it is an operation on the list, one
equation for each.
-/

namespace StoreBench.Engine.Store

/-- The keys ascend. -/
def Sorted (store : Store) : Prop :=
  store.toList.Pairwise fun left right => left.key < right.key

theorem sorted_empty : empty.Sorted := List.Pairwise.nil

theorem sorted_node {left right : Store} {pair : Pair} :
    (node left pair right).Sorted ↔ left.Sorted ∧ right.Sorted ∧
      (∀ lower ∈ left.toList, lower.key < pair.key) ∧
      ∀ upper ∈ right.toList, pair.key < upper.key := by
  rw [Sorted, toList, List.pairwise_append, List.pairwise_cons]
  constructor
  · intro given
    obtain ⟨ours, ⟨above, theirs⟩, across⟩ := given
    exact ⟨ours, theirs, fun lower member => across lower member pair List.mem_cons_self, above⟩
  · intro given
    obtain ⟨ours, theirs, below, above⟩ := given
    refine ⟨ours, ⟨above, theirs⟩, ?_⟩
    intro lower member upper upperMember
    rcases List.mem_cons.mp upperMember with rfl | upperMember
    · exact below lower member
    · exact List.lt_trans (below lower member) (above upper upperMember)

theorem filter_all {pairs : List Pair} {property : Pair → Prop} [DecidablePred property]
    (all : ∀ pair ∈ pairs, property pair) : pairs.filter (fun pair => property pair) = pairs :=
  List.filter_eq_self.mpr fun pair member => decide_eq_true (all pair member)

theorem filter_none {pairs : List Pair} {property : Pair → Prop} [DecidablePred property]
    (none : ∀ pair ∈ pairs, ¬ property pair) : pairs.filter (fun pair => property pair) = [] :=
  List.filter_eq_nil_iff.mpr fun pair member => by
    rw [decide_eq_true_eq]
    exact none pair member

variable {store : Store}

theorem find?_eq (sorted : store.Sorted) (key : Bytes) :
    store.find? key = (store.toList.find? (·.key = key)).map (·.value) := by
  induction store with
  | empty => rfl
  | node left pair right ihLeft ihRight =>
      obtain ⟨ours, theirs, below, above⟩ := sorted_node.mp sorted
      rw [find?, toList, List.find?_append]
      have missesLeft (bound : ¬ key < pair.key) : left.toList.find? (·.key = key) = none := by
        rw [List.find?_eq_none]
        intro lower member same
        rw [decide_eq_true_eq] at same
        exact bound (same ▸ below lower member)
      by_cases low : key < pair.key
      · have misses : (pair :: right.toList).find? (·.key = key) = none := by
          rw [List.find?_eq_none]
          intro upper member same
          rw [decide_eq_true_eq] at same
          subst same
          rcases List.mem_cons.mp member with rfl | member
          · exact List.lt_irrefl _ low
          · exact List.lt_asymm low (above upper member)
        rw [if_pos low, ihLeft ours, misses, Option.or_none]
      · rw [if_neg low, missesLeft low, Option.none_or]
        by_cases high : pair.key < key
        · have different : ¬ pair.key = key := fun same => List.lt_irrefl _ (same ▸ high)
          rw [if_pos high, ihRight theirs, List.find?_cons_of_neg (by simpa using different)]
        · have same : pair.key = key := List.le_antisymm low high
          rw [if_neg high, List.find?_cons_of_pos (by simpa using same)]
          rfl

theorem toList_insert (sorted : store.Sorted) (new : Pair) :
    (store.insert new).toList = store.toList.filter (·.key < new.key) ++
      new :: store.toList.filter (new.key < ·.key) := by
  induction store with
  | empty => rfl
  | node left pair right ihLeft ihRight =>
      obtain ⟨ours, theirs, below, above⟩ := sorted_node.mp sorted
      rw [insert, toList, List.filter_append, List.filter_append]
      by_cases low : new.key < pair.key
      · have higher : ∀ upper ∈ pair :: right.toList, new.key < upper.key := by
          intro upper member
          rcases List.mem_cons.mp member with rfl | member
          · exact low
          · exact List.lt_trans low (above upper member)
        rw [if_pos low, toList, ihLeft ours, filter_all higher,
          filter_none fun upper member => List.lt_asymm (higher upper member)]
        simp
      · by_cases high : pair.key < new.key
        · have lower : ∀ other ∈ left.toList, other.key < new.key := fun other member =>
            List.lt_trans (below other member) high
          rw [if_neg low, if_pos high, toList, ihRight theirs, filter_all lower,
            filter_none fun other member => List.lt_asymm (lower other member),
            List.filter_cons_of_pos (by simpa using high),
            List.filter_cons_of_neg (by simpa using low)]
          simp
        · have same : pair.key = new.key := List.le_antisymm low high
          rw [same] at below above
          rw [if_neg low, if_neg high, toList, filter_all below,
            filter_none fun other member => List.lt_asymm (below other member),
            List.filter_cons_of_neg (by simpa using high),
            List.filter_cons_of_neg (by simpa using low), filter_all above,
            filter_none fun other member => List.lt_asymm (above other member)]
          simp

theorem popLeast?_eq_none (none : store.popLeast? = none) : store.toList = [] := by
  cases store with
  | empty => rfl
  | node left pair right =>
      rw [popLeast?] at none
      split at none
      · cases none
      · cases none

theorem toList_popLeast? {least : Pair} {rest : Store}
    (some : store.popLeast? = some (least, rest)) : store.toList = least :: rest.toList := by
  induction store generalizing rest with
  | empty => cases some
  | node left pair right ihLeft _ =>
      rw [popLeast?] at some
      rcases popped : left.popLeast? with _ | ⟨first, remaining⟩
      · rw [popped] at some
        cases some
        rw [toList, popLeast?_eq_none popped, List.nil_append]
      · rw [popped] at some
        cases some
        rw [toList, ihLeft popped, toList, List.cons_append]

theorem toList_join (left right : Store) :
    (left.join right).toList = left.toList ++ right.toList := by
  rw [join]
  rcases popped : right.popLeast? with _ | ⟨least, rest⟩
  · rw [popLeast?_eq_none popped, List.append_nil]
  · rw [toList_popLeast? popped]
    rfl

theorem toList_erase (sorted : store.Sorted) (key : Bytes) :
    (store.erase key).toList = store.toList.filter (·.key ≠ key) := by
  induction store with
  | empty => rfl
  | node left pair right ihLeft ihRight =>
      obtain ⟨ours, theirs, below, above⟩ := sorted_node.mp sorted
      rw [erase, toList, List.filter_append]
      have apart {left right : Bytes} (less : left < right) : left ≠ right := fun same =>
        List.lt_irrefl _ (same ▸ less)
      by_cases low : key < pair.key
      · have others : ∀ upper ∈ pair :: right.toList, upper.key ≠ key := by
          intro upper member
          rcases List.mem_cons.mp member with rfl | member
          · exact (apart low).symm
          · exact (apart (List.lt_trans low (above upper member))).symm
        rw [if_pos low, toList, ihLeft ours, filter_all others]
      · by_cases high : pair.key < key
        · rw [if_neg low, if_pos high, toList, ihRight theirs,
            filter_all fun lower member => apart (List.lt_trans (below lower member) high),
            List.filter_cons_of_pos (by simpa using apart high)]
        · have same : pair.key = key := List.le_antisymm low high
          rw [same] at below above
          rw [if_neg low, if_neg high, toList_join,
            filter_all fun lower member => apart (below lower member),
            List.filter_cons_of_neg (by simpa using same),
            filter_all fun upper member => (apart (above upper member)).symm]

theorem least?_eq (store : Store) : store.least? = store.toList.head? := by
  induction store with
  | empty => rfl
  | node left pair right ihLeft _ =>
      rw [least?, toList, ihLeft, List.head?_append]
      rfl

theorem leastAbove?_eq (sorted : store.Sorted) (key : Bytes) :
    store.leastAbove? key = store.toList.find? (key < ·.key) := by
  induction store with
  | empty => rfl
  | node left pair right ihLeft ihRight =>
      obtain ⟨ours, theirs, below, _⟩ := sorted_node.mp sorted
      rw [leastAbove?, toList, List.find?_append]
      by_cases low : key < pair.key
      · rw [if_pos low, ihLeft ours, List.find?_cons_of_pos (by simpa using low)]
      · have misses : left.toList.find? (key < ·.key) = none := by
          rw [List.find?_eq_none]
          intro lower member less
          rw [decide_eq_true_eq] at less
          exact low (List.lt_trans less (below lower member))
        rw [if_neg low, ihRight theirs, misses, Option.none_or,
          List.find?_cons_of_neg (by simpa using low)]

theorem sorted_insert (sorted : store.Sorted) (new : Pair) : (store.insert new).Sorted := by
  rw [Sorted, toList_insert sorted, List.pairwise_append, List.pairwise_cons]
  refine ⟨sorted.filter _, ⟨?_, sorted.filter _⟩, ?_⟩
  · intro upper member
    simpa using (List.mem_filter.mp member).2
  · intro lower member upper upperMember
    have less : lower.key < new.key := by simpa using (List.mem_filter.mp member).2
    rcases List.mem_cons.mp upperMember with rfl | upperMember
    · exact less
    · have more : new.key < upper.key := by simpa using (List.mem_filter.mp upperMember).2
      exact List.lt_trans less more

theorem sorted_erase (sorted : store.Sorted) (key : Bytes) : (store.erase key).Sorted := by
  rw [Sorted, toList_erase sorted]
  exact sorted.filter _

theorem mem_insert (sorted : store.Sorted) {new pair : Pair} :
    pair ∈ (store.insert new).toList ↔
      pair = new ∨ (pair ∈ store.toList ∧ pair.key ≠ new.key) := by
  have different : pair.key ≠ new.key ↔ pair.key < new.key ∨ new.key < pair.key := by
    constructor
    · intro apart
      by_contra neither
      obtain ⟨notLow, notHigh⟩ := not_or.mp neither
      exact apart (List.le_antisymm notHigh notLow)
    · intro differ same
      rcases differ with less | more
      · exact List.lt_irrefl _ (same ▸ less)
      · exact List.lt_irrefl _ (same ▸ more)
  rw [toList_insert sorted, List.mem_append, List.mem_cons, List.mem_filter, List.mem_filter,
    different, decide_eq_true_eq, decide_eq_true_eq]
  tauto

theorem mem_erase (sorted : store.Sorted) {key : Bytes} {pair : Pair} :
    pair ∈ (store.erase key).toList ↔ pair ∈ store.toList ∧ pair.key ≠ key := by
  rw [toList_erase sorted, List.mem_filter, decide_eq_true_eq]

theorem eq_of_key_eq (sorted : store.Sorted) {left right : Pair} (member : left ∈ store.toList)
    (memberToo : right ∈ store.toList) (same : left.key = right.key) : left = right := by
  have distinct : (store.toList.map (·.key)).Nodup := by
    rw [List.Nodup, List.pairwise_map]
    refine List.Pairwise.imp ?_ sorted
    intro lower upper less equal
    exact List.lt_irrefl _ (equal ▸ less)
  exact List.inj_on_of_nodup_map distinct member memberToo same

/-- What a store holds says in which order it holds it. -/
theorem toList_ext (sorted : store.Sorted) {other : Store} (sortedToo : other.Sorted)
    (same : ∀ pair, pair ∈ store.toList ↔ pair ∈ other.toList) : store.toList = other.toList := by
  have nodup {some : Store} (sorted : some.Sorted) : some.toList.Nodup := by
    refine List.Pairwise.imp ?_ sorted
    intro left right less same
    exact List.lt_irrefl _ (same ▸ less)
  have perm : store.toList.Perm other.toList :=
    (List.perm_ext_iff_of_nodup (nodup sorted) (nodup sortedToo)).mpr same
  refine perm.eq_of_pairwise ?_ sorted sortedToo
  intro left right _ _ less more
  exact absurd less (List.lt_asymm more)

theorem find?_eq_some_iff (sorted : store.Sorted) {key value : Bytes} :
    store.find? key = some value ↔ ⟨key, value⟩ ∈ store.toList := by
  rw [find?_eq sorted, Option.map_eq_some_iff]
  constructor
  · intro given
    obtain ⟨pair, found, rfl⟩ := given
    have same : pair.key = key := by simpa using List.find?_some found
    subst same
    exact List.mem_of_find?_eq_some found
  · intro member
    rcases found : store.toList.find? (·.key = key) with _ | pair
    · have absent := List.find?_eq_none.mp found _ member
      exact absurd (decide_eq_true rfl) absent
    · have same : pair.key = key := by simpa using List.find?_some found
      have equal := eq_of_key_eq sorted (List.mem_of_find?_eq_some found) member same
      exact ⟨pair, found, by rw [equal]⟩

end StoreBench.Engine.Store
