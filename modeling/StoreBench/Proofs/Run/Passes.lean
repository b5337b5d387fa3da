import StoreBench.Proofs.Run.Turn

/-! What a selection of kinds leaves behind.

If keys are only looked up or deleted where they are stored as well, a pass finds every key, and
what it leaves does not depend on how often it is made.
-/

namespace StoreBench

namespace KindSet

/-- The selection leaves the pairs of the first key spaces in the store. -/
def keeps (kinds : KindSet) : Bool :=
  kinds.contains .batch || kinds.contains .crud ||
    (kinds.contains .set && !kinds.contains .delete)

/-- What is looked up or deleted by a pass is stored by it. -/
def Closed (kinds : KindSet) : Prop :=
  kinds.contains .get = true ∨ kinds.contains .delete = true → kinds.contains .set = true

end KindSet

namespace Run

open StoreBench.Latency (Recorder)

variable {W : Type} {scene : Scene W} {slot : Slot} {points region : Set Nat} {kinds : KindSet}

namespace Scene

theorem throughout_cons (chosen : Kind) (later : List Kind) (region points : Set Nat) :
    throughout ((chosen :: later).filter kinds.contains) region points =
      throughout (later.filter kinds.contains) region
        (if kinds.contains chosen = true then chosen.effect region points else points) := by
  rw [List.filter_cons]
  split
  · rfl
  · rfl

theorem throughout_eq (closed : kinds.Closed) :
    throughout kinds.toList region points =
      if kinds.keeps = true then points ∪ region
      else if kinds.contains .delete = true then points \ region else points := by
  have stored := closed
  unfold KindSet.Closed at stored
  unfold KindSet.toList Kind.all
  simp only [throughout_cons, Kind.effect, ite_self]
  unfold KindSet.keeps
  rcases set : kinds.contains .set with _ | _ <;>
    rcases delete : kinds.contains .delete with _ | _ <;>
    rcases batch : kinds.contains .batch with _ | _ <;>
    rcases crud : kinds.contains .crud with _ | _ <;>
    simp_all [throughout, Set.union_assoc]

theorem allAble_cons {chosen : Kind} {later : List Kind} {selected : KindSet}
    (able : selected.contains chosen = true → scene.Able slot points chosen)
    (rest : scene.AllAble slot (later.filter selected.contains)
      (if selected.contains chosen = true then chosen.effect (scene.region slot) points
        else points)) :
    scene.AllAble slot ((chosen :: later).filter selected.contains) points := by
  rw [List.filter_cons]
  split at rest
  · next member =>
    rw [if_pos member]
    exact ⟨able member, rest⟩
  · next absent =>
    rw [if_neg absent]
    exact rest

theorem allAble (closed : scene.settings.selected.Closed)
    (around : scene.settings.selected.contains .delete = true →
      slot.share ≤ scene.shape.period) :
    scene.AllAble slot scene.settings.selected.toList points := by
  have able {chosen : Kind} {held : Set Nat}
      (found : chosen = .get ∨ chosen = .delete → scene.region slot ⊆ held)
      (selected : scene.settings.selected.contains chosen = true) :
      scene.Able slot held chosen :=
    { selected, found, around := fun deletes => around (deletes ▸ selected) }
  unfold KindSet.toList Kind.all
  refine allAble_cons (able (by simp)) ?_
  generalize stored : (if scene.settings.selected.contains .set = true then
    Kind.set.effect (scene.region slot) points else points) = held
  have found (selected : scene.settings.selected.contains .get = true ∨
      scene.settings.selected.contains .delete = true) : scene.region slot ⊆ held := by
    rw [← stored, if_pos (closed selected)]
    exact Set.subset_union_right
  refine allAble_cons (fun selected => able (fun _ => found (.inl selected)) selected) ?_
  simp only [Kind.effect, ite_self]
  refine allAble_cons (able (by simp)) ?_
  simp only [Kind.effect, ite_self]
  refine allAble_cons (fun selected => able (fun _ => found (.inr selected)) selected) ?_
  refine allAble_cons (able (by simp)) ?_
  exact allAble_cons (able (by simp)) trivial

theorem passable (closed : scene.settings.selected.Closed)
    (around : scene.settings.selected.contains .delete = true → slot.share ≤ scene.shape.period)
    (placed : scene.Placed slot points) : scene.Passable slot points where
  placed := placed
  able := allAble closed around
  ableAgain := allAble closed around
  settled := by
    unfold passed
    rw [throughout_eq closed, throughout_eq closed]
    split
    · rw [Set.union_assoc, Set.union_self]
    · split
      · rw [Set.sdiff_sdiff, Set.union_self]
      · rfl

end Scene

end Run

end StoreBench
