import Mathlib.Data.Set.Insert
import StoreBench.Engine.BuiltIn
import StoreBench.Proofs.Engine.Search
import StoreBench.Proofs.Keys.Collisions

/-! What the ordered engine holds, by coordinates.

As long as only generated pairs of age zero come into the store, it holds the pairs of a set of
coordinates.  Keys do not collide, so a step of the engine is a step on that set.
-/

namespace StoreBench.Engine

open StoreBench.Keys (Shape)

/-- The store holds exactly the pairs at some coordinates. -/
structure Stocked (shape : Shape) (valueSize : Nat) (points : Set Nat) (store : Store) :
    Prop where
  sorted : store.Sorted
  mem_iff : ∀ pair, pair ∈ store.toList ↔
    ∃ point ∈ points, pair = shape.pairAt point valueSize 0
  inside : ∀ point ∈ points, point < shape.period * shape.spaces

namespace Stocked

variable {shape : Shape} {valueSize : Nat} {points : Set Nat} {store : Store}

theorem empty (shape : Shape) (valueSize : Nat) : Stocked shape valueSize ∅ .empty where
  sorted := Store.sorted_empty
  mem_iff pair := by simp [Store.toList]
  inside point member := by cases member

/-- The pair at a coordinate takes the place of itself at most. -/
theorem insert (stocked : Stocked shape valueSize points store) (sound : shape.Sound) {point : Nat}
    (small : point < shape.period * shape.spaces) :
    Stocked shape valueSize (insert point points)
      (store.insert (shape.pairAt point valueSize 0)) where
  sorted := Store.sorted_insert stocked.sorted _
  mem_iff pair := by
    rw [Store.mem_insert stocked.sorted, stocked.mem_iff]
    constructor
    · intro given
      rcases given with rfl | ⟨⟨other, member, rfl⟩, _⟩
      · exact ⟨point, Set.mem_insert _ _, rfl⟩
      · exact ⟨other, Set.mem_insert_of_mem _ member, rfl⟩
    · intro given
      obtain ⟨other, member, rfl⟩ := given
      by_cases same : other = point
      · exact .inl (by rw [same])
      · have held := Set.mem_of_mem_insert_of_ne member same
        refine .inr ⟨⟨other, held, rfl⟩, ?_⟩
        intro keys
        exact same (sound.keyAt_injective (stocked.inside other held) small keys)
  inside other member := by
    rcases Set.mem_insert_iff.mp member with rfl | member
    · exact small
    · exact stocked.inside other member

theorem find? (stocked : Stocked shape valueSize points store) {point : Nat}
    (member : point ∈ points) :
    store.find? (shape.keyAt point).1 = some (shape.pairAt point valueSize 0).value :=
  (Store.find?_eq_some_iff stocked.sorted).mpr ((stocked.mem_iff _).mpr ⟨point, member, rfl⟩)

theorem erase (stocked : Stocked shape valueSize points store) (sound : shape.Sound) {point : Nat}
    (small : point < shape.period * shape.spaces) :
    Stocked shape valueSize (points \ {point}) (store.erase (shape.keyAt point).1) where
  sorted := Store.sorted_erase stocked.sorted _
  mem_iff pair := by
    rw [Store.mem_erase stocked.sorted, stocked.mem_iff]
    constructor
    · intro given
      obtain ⟨⟨other, member, rfl⟩, different⟩ := given
      exact ⟨other, ⟨member, fun same => different (by rw [Set.mem_singleton_iff.mp same]; rfl)⟩,
        rfl⟩
    · intro given
      obtain ⟨other, ⟨member, apart⟩, rfl⟩ := given
      refine ⟨⟨other, member, rfl⟩, ?_⟩
      intro keys
      exact apart (sound.keyAt_injective (stocked.inside other member) small keys)
  inside other member := stocked.inside other member.1

/-- Whatever the cursor finds has the size of a pair. -/
theorem volume (stocked : Stocked shape valueSize points store) (sound : shape.Sound) {pair : Pair}
    (member : pair ∈ store.toList) : pair.volume = shape.keySize + valueSize := by
  obtain ⟨point, _, rfl⟩ := (stocked.mem_iff pair).mp member
  exact Shape.volume_pairAt sound point valueSize 0

theorem toList_eq (stocked : Stocked shape valueSize points store) {other : Store}
    (stockedToo : Stocked shape valueSize points other) : store.toList = other.toList :=
  Store.toList_ext stocked.sorted stockedToo.sorted fun pair => by
    rw [stocked.mem_iff, stockedToo.mem_iff]

theorem exists_of_list (sound : shape.Sound) (valueSize : Nat) {listed : List Nat}
    (inside : ∀ point ∈ listed, point < shape.period * shape.spaces) :
    ∃ store, Stocked shape valueSize { point | point ∈ listed } store := by
  induction listed with
  | nil =>
      have nothing : { point : Nat | point ∈ ([] : List Nat) } = ∅ := by
        ext point
        simp
      rw [nothing]
      exact ⟨.empty, empty shape valueSize⟩
  | cons first listed ih =>
      obtain ⟨store, stocked⟩ := ih fun point member => inside point (List.mem_cons_of_mem _ member)
      have more : { point | point ∈ first :: listed } =
          Insert.insert first { point | point ∈ listed } := by
        ext point
        simp
      rw [more]
      exact ⟨_, stocked.insert sound (inside first List.mem_cons_self)⟩

end Stocked

theorem Ordered.answer_ne_panic (engine : Ordered) (call : Call) (reason : String) :
    (engine.answer call).1 ≠ .panic reason := by
  intro panics
  cases call with
  | next context kind pair =>
      cases kind with
      | set => cases panics
      | batch => cases panics
      | crud => cases panics
      | get =>
          rcases found : engine.store.find? pair.key with _ | value <;>
            simp [answer, step, found] at panics
      | delete =>
          rcases found : engine.store.find? pair.key with _ | value <;>
            simp [answer, step, found] at panics
      | iterate =>
          unfold answer step at panics
          dsimp only at panics
          split at panics
          · cases panics
          · cases panics
  | _ => cases panics

/-- The reply that a result stands for. -/
def Reply.ofResult : Except EngineError Pair → Reply
  | .ok pair => .ok pair
  | .error cause => .error cause

/-- On a store of some coordinates, the call is answered with one of the results described, and the
store is left with the coordinates described. -/
def Answers (shape : Shape) (valueSize : Nat) (points : Set Nat) (call : Call)
    (results : Except EngineError Pair → Prop) (left : Set Nat) : Prop :=
  ∀ engine : Ordered, Stocked shape valueSize points engine.store →
    ∃ result, (engine.answer call).1 = .ofResult result ∧ results result ∧
      Stocked shape valueSize left (engine.answer call).2.store

section Answers

variable {shape : Shape} {valueSize : Nat} {points : Set Nat}

/-- Calls that are no steps leave the store alone. -/
theorem answers_begin (context : Nat) (kind : Kind) :
    Answers shape valueSize points (.begin context kind) (· = .ok .empty) points := by
  intro engine stocked
  refine ⟨.ok .empty, rfl, rfl, ?_⟩
  change Stocked shape valueSize points
    (if kind = .iterate then engine.clearCursor context else engine).store
  split
  · exact stocked
  · exact stocked

theorem answers_done (context : Nat) (kind : Kind) :
    Answers shape valueSize points (.done context kind) (· = .ok .empty) points := by
  intro engine stocked
  refine ⟨.ok .empty, rfl, rfl, ?_⟩
  change Stocked shape valueSize points
    (if kind = .iterate then engine.clearCursor context else engine).store
  split
  · exact stocked
  · exact stocked

theorem answers_newContext (context : Nat) :
    Answers shape valueSize points (.newContext context) (· = .ok .empty) points :=
  fun _ stocked => ⟨.ok .empty, rfl, rfl, stocked⟩

theorem answers_dispose (context : Nat) :
    Answers shape valueSize points (.dispose context) (· = .ok .empty) points :=
  fun _ stocked => ⟨.ok .empty, rfl, rfl, stocked⟩

theorem answers_open (folder : String) :
    Answers shape valueSize points (.openStore folder) (· = .ok .empty) points :=
  fun _ stocked => ⟨.ok .empty, rfl, rfl, stocked⟩

theorem answers_close : Answers shape valueSize points .close (· = .ok .empty) points :=
  fun _ stocked => ⟨.ok .empty, rfl, rfl, stocked⟩

theorem answers_set (sound : shape.Sound) (context : Nat) {point : Nat}
    (small : point < shape.period * shape.spaces) :
    Answers shape valueSize points (.next context .set (shape.pairAt point valueSize 0))
      (· = .ok (shape.pairAt point valueSize 0)) (insert point points) :=
  fun _ stocked => ⟨_, rfl, rfl, stocked.insert sound small⟩

theorem answers_delete (sound : shape.Sound) (context : Nat) {point : Nat} {pair : Pair}
    (small : point < shape.period * shape.spaces) (member : point ∈ points)
    (key : pair.key = (shape.keyAt point).1) :
    Answers shape valueSize points (.next context .delete pair) (· = .ok pair)
      (points \ {point}) := by
  intro engine stocked
  have found := stocked.find? member
  rw [← key] at found
  have answered : engine.answer (.next context .delete pair) =
      (.ok pair, { engine with store := engine.store.erase pair.key }) := by
    simp only [Ordered.answer, Ordered.step, found]
  rw [answered, key]
  exact ⟨.ok pair, rfl, rfl, stocked.erase sound small⟩

theorem answers_get (context : Nat) {point : Nat} {pair : Pair} (member : point ∈ points)
    (key : pair.key = (shape.keyAt point).1) :
    Answers shape valueSize points (.next context .get pair)
      (· = .ok (shape.pairAt point valueSize 0)) points := by
  intro engine stocked
  have found := stocked.find? member
  rw [← key] at found
  have answered : engine.answer (.next context .get pair) =
      (.ok ⟨pair.key, (shape.pairAt point valueSize 0).value⟩, engine) := by
    simp only [Ordered.answer, Ordered.step, found]
  rw [answered, key]
  exact ⟨_, rfl, rfl, stocked⟩

/-- A cursor returns a pair of the store, or comes to its end. -/
theorem answers_iterate (sound : shape.Sound) (context : Nat) (pair : Pair) :
    Answers shape valueSize points (.next context .iterate pair)
      (fun result => (∃ found : Pair, result = .ok found ∧
        found.volume = shape.keySize + valueSize) ∨ result = .error .notFound) points := by
  intro engine stocked
  have ended (answered : engine.answer (.next context .iterate pair) = (.error .notFound, engine)) :
      ∃ result, (engine.answer (.next context .iterate pair)).1 = .ofResult result ∧
        ((∃ found : Pair, result = .ok found ∧ found.volume = shape.keySize + valueSize) ∨
          result = .error .notFound) ∧
        Stocked shape valueSize points (engine.answer (.next context .iterate pair)).2.store := by
    rw [answered]
    exact ⟨.error .notFound, rfl, .inr rfl, stocked⟩
  have went {found : Pair} (answered : engine.answer (.next context .iterate pair) =
        (.ok found, engine.setCursor context found.key))
      (member : found ∈ engine.store.toList) :
      ∃ result, (engine.answer (.next context .iterate pair)).1 = .ofResult result ∧
        ((∃ found : Pair, result = .ok found ∧ found.volume = shape.keySize + valueSize) ∨
          result = .error .notFound) ∧
        Stocked shape valueSize points (engine.answer (.next context .iterate pair)).2.store := by
    rw [answered]
    exact ⟨.ok found, rfl, .inl ⟨found, rfl, stocked.volume sound member⟩, stocked⟩
  rcases cursor : engine.cursor? context with _ | key
  · rcases least : engine.store.least? with _ | found
    · exact ended (by simp only [Ordered.answer, Ordered.step, cursor, least])
    · refine @went found (by simp only [Ordered.answer, Ordered.step, cursor, least]) ?_
      rw [Store.least?_eq] at least
      exact List.mem_of_mem_head? least
  · rcases next : engine.store.leastAbove? key with _ | found
    · exact ended (by simp only [Ordered.answer, Ordered.step, cursor, next])
    · refine @went found (by simp only [Ordered.answer, Ordered.step, cursor, next]) ?_
      rw [Store.leastAbove?_eq stocked.sorted] at next
      exact List.mem_of_find?_eq_some next

end Answers

end StoreBench.Engine
