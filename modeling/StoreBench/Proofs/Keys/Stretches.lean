import Mathlib.Data.Set.Lattice
import StoreBench.Keys.Pool
import StoreBench.Proofs.Keys.Collisions

/-! Stretches of a key space.

A worker goes through a part of its key space from a start of its own, and around its end to the
beginning.  The coordinates it meets are a stretch; a stretch of no more than a period meets none
of them twice.
-/

namespace StoreBench.Keys

namespace Shape

/-- The coordinate met after some steps from a start. -/
def spot (shape : Shape) (space start steps : Nat) : Nat :=
  space * shape.period + (start + steps) % shape.period

/-- The coordinates of the first so many steps. -/
def stretch (shape : Shape) (space start length : Nat) : Set Nat :=
  { point | ∃ steps < length, point = shape.spot space start steps }

variable {shape : Shape} {space other start length steps : Nat}

theorem Sound.spot_lt (sound : shape.Sound) (inside : space < shape.spaces) :
    shape.spot space start steps < shape.period * shape.spaces :=
  Sound.point_lt inside (Nat.mod_lt _ sound.keys)

theorem Sound.spot_div (sound : shape.Sound) :
    shape.spot space start steps / shape.period = space := by
  rw [spot, Nat.mul_comm, Nat.mul_add_div sound.keys, Nat.div_eq_of_lt (Nat.mod_lt _ sound.keys),
    Nat.add_zero]

theorem spot_ne {later earlier : Nat} (before : earlier < later) (around : later < shape.period) :
    shape.spot space start later ≠ shape.spot space start earlier := by
  intro same
  have residues : start + earlier ≡ start + later [MOD shape.period] :=
    (Nat.add_left_cancel same).symm
  have apart := Nat.ModEq.add_left_cancel' start residues
  rw [Nat.ModEq, Nat.mod_eq_of_lt around, Nat.mod_eq_of_lt (by omega)] at apart
  omega

theorem stretch_zero : shape.stretch space start 0 = ∅ := by
  ext point
  simp [stretch]

theorem stretch_succ : shape.stretch space start (length + 1) =
    insert (shape.spot space start length) (shape.stretch space start length) := by
  ext point
  simp only [stretch, Set.mem_ofPred_eq, Set.mem_insert_iff, Nat.lt_succ_iff_lt_or_eq]
  constructor
  · intro given
    obtain ⟨steps, early | rfl, same⟩ := given
    · exact .inr ⟨steps, early, same⟩
    · exact .inl same
  · intro given
    rcases given with same | ⟨steps, early, same⟩
    · exact ⟨length, .inr rfl, same⟩
    · exact ⟨steps, .inl early, same⟩

theorem spot_mem (early : steps < length) :
    shape.spot space start steps ∈ shape.stretch space start length :=
  ⟨steps, early, rfl⟩

/-- A stretch that does not come around leaves the coordinates ahead of it alone. -/
theorem spot_notMem (around : length < shape.period) :
    shape.spot space start length ∉ shape.stretch space start length := by
  intro given
  obtain ⟨steps, early, same⟩ := given
  exact spot_ne early around same

theorem Sound.div_of_mem (sound : shape.Sound) {point : Nat}
    (member : point ∈ shape.stretch space start length) : point / shape.period = space := by
  obtain ⟨steps, _, rfl⟩ := member
  exact sound.spot_div

end Shape

theorem Pool.new_ok {walk : Walk} {size : Nat}
    (small : size * (walk.shape.keySize + walk.valueSize) < wordLimit / 2) :
    Pool.new walk size = .ok (Pool.fill ⟨size, []⟩ walk) := by
  rw [Pool.new, if_neg (Nat.not_le.mpr (lt_wordLimit small)), if_neg (Nat.not_le.mpr small)]

namespace Walk

/-- The bytes of a pair. -/
def pairSize (walk : Walk) : Nat :=
  walk.shape.keyLength + walk.valueSize

theorem volume_next (walk : Walk) : walk.next.1.volume = walk.pairSize :=
  walk.shape.volume_pair _ _ _

theorem volume_nextKey_le (walk : Walk) : walk.nextKey.1.volume ≤ walk.pairSize := by
  have key := walk.shape.length_key walk.point
  simp only [nextKey, Pair.volume, List.length_nil, key, pairSize]
  omega

theorem volume_of_mem_take {walk : Walk} {count : Nat} {pair : Pair}
    (member : pair ∈ (walk.take count).1) : pair.volume = walk.pairSize := by
  induction count generalizing walk with
  | zero => cases member
  | succ count ih =>
      rcases List.mem_cons.mp member with rfl | later
      · exact walk.volume_next
      · exact @ih walk.advance later

theorem pairSize_take (walk : Walk) (count : Nat) :
    (walk.take count).2.pairSize = walk.pairSize := by
  induction count generalizing walk with
  | zero => rfl
  | succ count ih => exact ih walk.next.2

/-- A pool that cannot be made would have too many bytes. -/
theorem pool_bytes {walk : Walk} {size : Nat} {cause : Panic}
    (failed : Pool.new walk size = .error cause) :
    (cause = .overflow ∨ cause = .allocation) ∧ wordLimit / 2 ≤ size * walk.pairSize := by
  have larger : size * (walk.shape.keySize + walk.valueSize) ≤ size * walk.pairSize :=
    Nat.mul_le_mul_left size (Nat.add_le_add_right (Nat.le_max_left _ _) _)
  simp only [Pool.new] at failed
  split at failed
  · next huge => exact ⟨.inl (Except.error.inj failed).symm, by omega⟩
  split at failed
  · next large => exact ⟨.inr (Except.error.inj failed).symm, large.trans larger⟩
  · cases failed

/-- The walk through a space, some steps from its start. -/
def along (shape : Shape) (valueSize space start steps : Nat) : Walk :=
  ⟨shape, space, (start + steps) % shape.period, 0, valueSize⟩

variable {shape : Shape} {valueSize space start steps : Nat}

theorem new_along (inside : space < shape.spaces)
    (small : shape.keySize + valueSize < wordLimit / 2) :
    Walk.new shape space start valueSize 0 = .ok (along shape valueSize space start 0) :=
  new_ok inside small

theorem new_along_error (large : ¬ shape.keySize + valueSize < wordLimit / 2) :
    ∃ stop, Walk.new shape space start valueSize 0 = .error stop := by
  unfold Walk.new
  split
  · exact ⟨_, rfl⟩
  · split
    · exact ⟨_, rfl⟩
    · rw [if_pos (Nat.not_lt.mp large)]
      exact ⟨_, rfl⟩

theorem next_along : (along shape valueSize space start steps).next =
    (shape.pairAt (shape.spot space start steps) valueSize 0,
      along shape valueSize space start (steps + 1)) := by
  simp only [next, advance, along, Nat.mod_add_mod, Nat.add_assoc]
  rfl

theorem nextKey_along : (along shape valueSize space start steps).nextKey =
    (⟨(shape.keyAt (shape.spot space start steps)).1, []⟩,
      along shape valueSize space start (steps + 1)) := by
  simp only [nextKey, advance, along, Nat.mod_add_mod, Nat.add_assoc]
  rfl

/-- The pairs of a stretch, from some steps on. -/
def ahead (shape : Shape) (valueSize space start : Nat) : Nat → Nat → List Pair
  | _, 0 => []
  | steps, count + 1 =>
    shape.pairAt (shape.spot space start steps) valueSize 0 ::
      ahead shape valueSize space start (steps + 1) count

theorem take_along (count : Nat) : (along shape valueSize space start steps).take count =
    (ahead shape valueSize space start steps count,
      along shape valueSize space start (steps + count)) := by
  induction count generalizing steps with
  | zero => rfl
  | succ count ih =>
      rw [take, next_along]
      simp only [ih, ahead, Nat.add_assoc, Nat.add_comm 1 count]

theorem pool_along {size : Nat} (small : size * (shape.keySize + valueSize) < wordLimit / 2) :
    Pool.new (along shape valueSize space start steps) size =
      .ok (⟨size, ahead shape valueSize space start steps size⟩,
        along shape valueSize space start (steps + size)) := by
  rw [@Pool.new_ok (along shape valueSize space start steps) size small, Pool.fill, take_along]

theorem pool_along_error {size : Nat}
    (large : ¬ size * (shape.keySize + valueSize) < wordLimit / 2) :
    ∃ cause, Pool.new (along shape valueSize space start steps) size = .error cause := by
  unfold Pool.new
  dsimp only [along]
  split
  · exact ⟨_, rfl⟩
  · rw [if_pos (Nat.not_lt.mp large)]
    exact ⟨_, rfl⟩

end Walk

end StoreBench.Keys
