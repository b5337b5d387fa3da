import StoreBench.Proofs.Run.Shares

/-! What preparing a run can end in.

The checks of the settings leave out two numbers that are computed from them: how many key spaces
the workers need, and how long the interval is in nanoseconds.  Settings that pass the checks are
prepared, or refused with a reason, unless one of the two is too large for its type.
-/

namespace StoreBench

open StoreBench.Decimal (Binary64)

def Decimal.Binary64.AtLeast (bound : Nat) : Binary64 → Prop
  | .finite false mantissa exponent =>
    bound * 2 ^ (-exponent).toNat ≤ mantissa * 2 ^ exponent.toNat
  | .infinite false => True
  | _ => False

namespace Settings

variable {settings : Settings} {seconds : Float}

/-- The workers with key spaces of their own: the writers, if anything is written, or else the
readers. -/
def owners (settings : Settings) : Nat :=
  if 0 < settings.writers ∧ (settings.readers = 0 ∨ settings.selected.meets .writing = true) then
    settings.writers
  else max settings.readers 1

def spacesNeeded (settings : Settings) : Nat :=
  settings.owners * if settings.selected.meets .pairing then 2 else 1

/-- The numbers that a plan is made from have 64 bits. -/
structure InWords (settings : Settings) : Prop where
  keys : settings.keys < wordLimit
  readers : settings.readers < wordLimit
  writers : settings.writers < wordLimit

theorem nanoseconds_error_iff (usable : usableInterval seconds = true) (cause : Panic) :
    nanoseconds seconds = .error cause ↔
      cause = .duration ∧ (Binary64.ofFloat seconds).AtLeast wordLimit := by
  unfold usableInterval at usable
  unfold nanoseconds
  rcases read : Binary64.ofFloat seconds with _ | negative | ⟨_ | _, mantissa, exponent⟩
  · simp [read] at usable
  · simp [read] at usable
  · by_cases large : wordLimit * 2 ^ (-exponent).toNat ≤ mantissa * 2 ^ exponent.toNat
    · simp [Binary64.AtLeast, large, eq_comm]
    · simp [Binary64.AtLeast, large]
  · simp [read] at usable

theorem selected_isEmpty (some : settings.kinds ≠ []) : settings.selected.isEmpty = false := by
  obtain ⟨kind, kinds, listed⟩ := List.exists_cons_of_ne_nil some
  have mine : settings.selected.contains kind = true :=
    (KindSet.contains_ofList settings.kinds kind).mpr (by simp [listed])
  exact KindSet.not_isEmpty mine

theorem validate_usable (valid : settings.validate = .ok ()) :
    usableInterval settings.interval = true := by
  unfold validate at valid
  grind

end Settings

namespace Run

variable {settings : Settings} {clock : Nat} {plan : Plan}

namespace Plan

theorem draft_spaces (some : settings.kinds ≠ []) :
    (draft settings).spaces = settings.spacesNeeded := by
  have chosen := Settings.selected_isEmpty some
  unfold draft categories Settings.spacesNeeded Settings.owners
  by_cases noWriters : settings.writers = 0
  · simp [noWriters, chosen]
  by_cases noReaders : settings.readers = 0
  · simp [noWriters, noReaders, Nat.pos_of_ne_zero, chosen]
  · cases unwritten : (settings.selected.inter .writing).isEmpty with
    | true =>
        have whole := (categories_whole settings).1
        simp only [categories, if_neg noWriters, if_neg noReaders] at whole
        simp [KindSet.meets, unwritten, whole unwritten, noWriters, noReaders, chosen]
    | false => simp [KindSet.meets, unwritten, noWriters, noReaders, Nat.pos_of_ne_zero]

theorem new_inWords (planned : Plan.new settings = .ok plan) (words : settings.InWords) :
    plan.readers < wordLimit ∧ plan.writers < wordLimit ∧ plan.spaces < wordLimit ∧
      plan.sectors < wordLimit ∧ settings.keys * plan.spaces < wordLimit * wordLimit := by
  obtain ⟨small, rfl⟩ := new_ok_iff.mp planned
  have least (kinds : KindSet) {wanted : Nat} (fits : wanted < wordLimit) :
      (if kinds.isEmpty = true then 0 else wanted) < wordLimit := by
    split
    · decide
    · exact fits
  have readers : (draft settings).readers < wordLimit := least _ words.readers
  have writers : (draft settings).writers < wordLimit := least _ words.writers
  refine ⟨readers, writers, small, ?_, Nat.mul_lt_mul'' words.keys small⟩
  exact Nat.max_lt.mpr ⟨Nat.max_lt.mpr ⟨readers, writers⟩, by decide⟩

end Plan

theorem prepare_valid (valid : settings.validate = .ok ()) (clock : Nat) :
    prepare settings clock =
      match Plan.new settings with
      | .error cause => .error (.panic cause)
      | .ok plan =>
        match Keys.Shape.setup (!settings.binary) settings.keySize plan.spaces plan.sectors
            settings.keys settings.seed with
        | .error cause => .error (Stop.config cause)
        | .ok shape =>
          match settings.intervalNanoseconds with
          | .error cause => .error (.panic cause)
          | .ok interval =>
            .ok { settings, plan, shape
                  shared := .new
                    (plan.selected.toList.foldl Latency.Hub.enable
                      (Latency.Hub.new interval clock)) clock } := by
  unfold prepare
  rw [valid]
  rcases Plan.new settings with cause | plan
  · rfl
  simp only [Except.mapError, bind, Except.bind]
  rcases Keys.Shape.setup (!settings.binary) settings.keySize plan.spaces plan.sectors
    settings.keys settings.seed with cause | shape
  · rfl
  dsimp only
  rcases settings.intervalNanoseconds with cause | interval
  · rfl
  · rfl

/-- Settings that pass their checks are prepared, or refused for a reason, but in two cases: there
are `2 ^ 64` key spaces or more, or, once all else is found in order, the interval has `2 ^ 64`
seconds or more.  No other number leaves its type. -/
theorem preparation_panics_iff (settings : Settings) (clock : Nat) :
    (∀ cause, prepare settings clock = .error (.panic cause) ↔
      settings.validate = .ok () ∧
        (cause = .overflow ∧ wordLimit ≤ settings.spacesNeeded ∨
          cause = .duration ∧ (Binary64.ofFloat settings.interval).AtLeast wordLimit ∧
            ∃ plan shape, Plan.new settings = .ok plan ∧
              Keys.Shape.setup (!settings.binary) settings.keySize plan.spaces plan.sectors
                settings.keys settings.seed = .ok shape)) ∧
      (∀ cause, prepare settings clock = .error (.failure cause) → ∃ fault, cause = .config fault) ∧
      ∀ plan, Plan.new settings = .ok plan → settings.InWords →
        plan.readers < wordLimit ∧ plan.writers < wordLimit ∧ plan.spaces < wordLimit ∧
          plan.sectors < wordLimit ∧ settings.keys * plan.spaces < wordLimit * wordLimit := by
  suffices ends : _ ∧ _ from ⟨ends.1, ends.2, fun plan => Plan.new_inWords⟩
  rcases valid : settings.validate with fault | ⟨⟩
  · have refused : prepare settings clock = .error (Stop.config fault) := by
      unfold prepare
      rw [valid]
      rfl
    simp [refused, Stop.config]
  have some := (validate_eq valid).1
  have usable := Settings.validate_usable valid
  rw [prepare_valid valid]
  rcases planned : Plan.new settings with cause | plan
  · obtain ⟨rfl, large⟩ := Plan.new_error_iff.mp planned
    rw [Plan.draft_spaces some] at large
    simp [large, eq_comm]
  have small := (Plan.new_ok_iff.mp planned).1
  rw [Plan.draft_spaces some] at small
  rcases shaped : Keys.Shape.setup (!settings.binary) settings.keySize plan.spaces plan.sectors
    settings.keys settings.seed with fault | shape
  · simp [shaped, small, Stop.config]
  have timed := Settings.nanoseconds_error_iff usable
  rcases measured : settings.intervalNanoseconds with cause | interval
  · obtain ⟨rfl, long⟩ := (timed cause).mp measured
    simp [long, small, shaped, eq_comm]
  · have short : ¬ (Binary64.ofFloat settings.interval).AtLeast wordLimit := by
      intro long
      have failed := (timed .duration).mpr ⟨rfl, long⟩
      rw [Settings.intervalNanoseconds, failed] at measured
      cases measured
    simp [shaped, short, small]

/-- Writers with two key spaces each, `2 ^ 64` of them together. -/
def crowded : Settings :=
  { Settings.default with kinds := [.crud], writers := 0x8000000000000000 }

def endless : Settings :=
  { Settings.default with interval := 1e300 }

theorem preparation_panics_iff_crowded :
    prepare crowded 0 = .error (.panic .overflow) ∧
      ∃ plan, Plan.new endless = .ok plan ∧ plan.spaces < wordLimit := by
  have inWords : endless.InWords := by constructor <;> decide
  rcases planned : Plan.new endless with cause | plan
  · exact absurd (Plan.new_error_iff.mp planned).2 (by decide +kernel)
  · refine ⟨((preparation_panics_iff crowded 0).1 .overflow).mpr ?_, plan, rfl, ?_⟩
    · exact ⟨by decide +kernel, .inl ⟨rfl, by decide +kernel⟩⟩
    · exact ((preparation_panics_iff endless 0).2.2 plan planned inWords).2.2.1

/-- Neither the number of key spaces nor the length of the interval is checked. -/
theorem accepted_settings_panic :
    crowded.validate = .ok () ∧ prepare crowded 0 = .error (.panic .overflow) ∧
      endless.validate = .ok () ∧ prepare endless 0 = .error (.panic .duration) := by
  refine ⟨by decide +kernel, failed_of_map ?_, by decide +kernel, failed_of_map ?_⟩
  · decide +kernel
  · decide +kernel

end Run

end StoreBench
