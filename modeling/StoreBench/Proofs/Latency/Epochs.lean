import Mathlib.Data.List.Perm.Basic
import StoreBench.Proofs.Latency.Ensemble

/-! Epochs of the timeline.

A recorder holds the hub's epoch until a fold counts it, and the next epoch from then on.  The hub
keeps only two numbers, how many recorders are attached and how many of them are counted.  Both
stay right whatever the recorders do and in whichever order, so a line is due exactly when the
last uncounted recorder is counted or leaves.
-/

namespace StoreBench.Latency

theorem Tally.grow_error {tally more after : Tally} {panic : Panic}
    (failed : tally.grow more = (.error panic, after)) : panic = .overflow := by
  simp only [Tally.grow] at failed
  split at failed
  · exact (Except.error.inj (Prod.mk.inj failed).1).symm
  split at failed
  · exact (Except.error.inj (Prod.mk.inj failed).1).symm
  split at failed
  · exact (Except.error.inj (Prod.mk.inj failed).1).symm
  split at failed
  · exact (Except.error.inj (Prod.mk.inj failed).1).symm
  · cases (Prod.mk.inj failed).1

theorem Account.fold_error {account source after : Account} {panic : Panic}
    (failed : account.fold source = (.error panic, after)) : panic = .overflow := by
  unfold Account.fold at failed
  rcases grown : account.total.grow source.unflushed with ⟨_ | _, total⟩
  · rw [grown] at failed
    cases (Prod.mk.inj failed).1
    exact Tally.grow_error grown
  · rw [grown] at failed
    cases (Prod.mk.inj failed).1

theorem Account.record_error {account after : Account} {start now volume : Nat} {panic : Panic}
    (failed : account.record start now volume = (.error panic, after)) : panic = .overflow := by
  simp only [Account.record] at failed
  rcases grown : account.total.grow (.ofSample (now - start) volume) with ⟨_ | _, total⟩
  · rw [grown] at failed
    cases (Prod.mk.inj failed).1
    exact Tally.grow_error grown
  · rw [grown] at failed
    cases (Prod.mk.inj failed).1

/-- The line that a result brings, if any. -/
def emission? : Except Panic (Option Emission) → Option Emission
  | .ok emission => emission
  | .error _ => none

/-- The hub's two numbers are right for recorders that hold these epochs, and not all of them are
counted. -/
structure Attendance (hub : Hub) (epochs : List Nat) : Prop where
  attached : hub.attached = epochs.length
  counted : hub.counted = epochs.countP (· = hub.epoch + 1)
  waiting : hub.counted = 0 ∨ hub.counted < hub.attached
  bounded : ∀ epoch ∈ epochs, epoch ≤ hub.epoch + 1

/-- No recorder holds an epoch that is over. -/
def Current (hub : Hub) (epochs : List Nat) : Prop :=
  ∀ epoch ∈ epochs, hub.epoch ≤ epoch

namespace Attendance

variable {hub : Hub} {epoch : Nat} {epochs others : List Nat}

theorem perm (attendance : Attendance hub epochs) (same : epochs.Perm others) :
    Attendance hub others where
  attached := attendance.attached.trans same.length_eq
  counted := attendance.counted.trans (same.countP_eq _)
  waiting := attendance.waiting
  bounded other member := attendance.bounded other (same.mem_iff.mpr member)

theorem congr {after : Hub} (attendance : Attendance hub epochs)
    (attached : after.attached = hub.attached) (counted : after.counted = hub.counted)
    (same : after.epoch = hub.epoch) : Attendance after epochs where
  attached := attached.trans attendance.attached
  counted := by rw [counted, attendance.counted, same]
  waiting := by rw [counted, attached]; exact attendance.waiting
  bounded other member := by rw [same]; exact attendance.bounded other member

theorem emit (now : Nat) (attached : hub.attached = epochs.length)
    (bounded : ∀ epoch ∈ epochs, epoch ≤ hub.epoch + 1) :
    Attendance (hub.emit now).2 epochs where
  attached := attached
  counted := by
    change 0 = epochs.countP (· = hub.epoch + 1 + 1)
    rw [eq_comm, List.countP_eq_zero]
    intro epoch member
    have old := bounded epoch member
    simp only [decide_eq_true_eq]
    omega
  waiting := .inl rfl
  bounded epoch member := Nat.le_succ_of_le (bounded epoch member)

theorem attach (attendance : Attendance hub epochs) :
    Attendance hub.attach.2 (hub.epoch :: epochs) where
  attached := by
    change hub.attached + 1 = (hub.epoch :: epochs).length
    rw [attendance.attached, List.length_cons]
  counted := by
    change hub.counted = (hub.epoch :: epochs).countP (· = hub.epoch + 1)
    rw [attendance.counted, List.countP_cons]
    simp
  waiting := by
    rcases attendance.waiting with none | some
    · exact .inl none
    · exact .inr (Nat.lt_succ_of_lt some)
  bounded epoch member := by
    rcases List.mem_cons.mp member with rfl | member
    · exact Nat.le_succ _
    · exact attendance.bounded epoch member

theorem one_short_iff (attendance : Attendance hub (epoch :: others))
    (uncounted : epoch ≠ hub.epoch + 1) :
    hub.counted + 1 = hub.attached ↔ ∀ other ∈ others, other = hub.epoch + 1 := by
  have counted := attendance.counted
  have attached := attendance.attached
  rw [List.countP_cons, if_neg (by simpa using uncounted), Nat.add_zero] at counted
  rw [counted, attached, List.length_cons, Nat.add_right_cancel_iff, List.countP_eq_length]
  simp only [decide_eq_true_eq]

theorem counted_le (attendance : Attendance hub (epoch :: others))
    (uncounted : epoch ≠ hub.epoch + 1) : hub.counted ≤ others.length := by
  rw [attendance.counted, List.countP_cons, if_neg (by simpa using uncounted), Nat.add_zero]
  exact List.countP_le_length

end Attendance

/-- What becomes of the numbers when a recorder that holds `epoch`, beside others, operates on the
hub and is told another epoch. -/
structure Attended (hub : Hub) (epoch : Nat) (others : List Nat)
    (result : Except Panic (Option Emission)) (told : Nat) (next : Hub) : Prop where
  attendance : Attendance next (told :: others)
  sound : ∀ panic, result = .error panic → panic = .overflow
  advanced : next.epoch = hub.epoch + (emission? result).toList.length
  line : (emission? result).isSome ↔
    epoch = hub.epoch ∧ told = hub.epoch + 1 ∧ ∀ other ∈ others, other = hub.epoch + 1
  current : Current hub (epoch :: others) → Current next (told :: others)

/-- What becomes of the numbers when a recorder that holds `epoch` leaves the others. -/
structure Detached (hub : Hub) (epoch : Nat) (others : List Nat) (emission : Option Emission)
    (left : Hub) : Prop where
  attendance : Attendance left others
  advanced : left.epoch = hub.epoch + emission.toList.length
  line : emission.isSome ↔
    epoch ≠ hub.epoch + 1 ∧ others ≠ [] ∧ ∀ other ∈ others, other = hub.epoch + 1
  current : Current hub (epoch :: others) → Current left others

namespace Attendance

variable {hub : Hub} {epoch : Nat} {others : List Nat}

theorem quiet {next : Hub} {result : Except Panic (Option Emission)}
    (attendance : Attendance hub (epoch :: others)) (attached : next.attached = hub.attached)
    (counted : next.counted = hub.counted) (same : next.epoch = hub.epoch)
    (silent : result = .ok none ∨ result = .error .overflow) :
    Attended hub epoch others result epoch next := by
  have noLine : emission? result = none := by
    rcases silent with rfl | rfl <;> rfl
  refine
    { attendance := attendance.congr attached counted same
      sound := ?_
      advanced := by rw [noLine, same]; rfl
      line := ?_
      current := ?_ }
  · intro panic failed
    rcases silent with rfl | rfl
    · cases failed
    · exact (Except.error.inj failed).symm
  · rw [noLine]
    constructor
    · intro impossible
      cases impossible
    · intro given
      obtain ⟨due, told, _⟩ := given
      omega
  · intro current other member
    rw [same]
    exact current other member

theorem told_bounded (attendance : Attendance hub (epoch :: others)) :
    ∀ other ∈ (hub.epoch + 1) :: others, other ≤ hub.epoch + 1 := by
  intro other member
  rcases List.mem_cons.mp member with rfl | member
  · exact Nat.le_refl _
  · exact attendance.bounded other (List.mem_cons_of_mem _ member)

theorem count (attendance : Attendance hub (epoch :: others)) (uncounted : epoch ≠ hub.epoch + 1)
    (waiting : hub.counted + 1 < hub.attached) :
    Attendance { hub with counted := hub.counted + 1 } ((hub.epoch + 1) :: others) where
  attached := attendance.attached
  counted := by
    have counted := attendance.counted
    rw [List.countP_cons, if_neg (by simpa using uncounted), Nat.add_zero] at counted
    change hub.counted + 1 = ((hub.epoch + 1) :: others).countP (· = hub.epoch + 1)
    rw [List.countP_cons, if_pos (by simp), counted]
  waiting := .inr waiting
  bounded := attendance.told_bounded

theorem fold {kind : Kind} {source : Account} {now told : Nat}
    {result : Except Panic (Option Emission)} {next : Hub}
    (attendance : Attendance hub (epoch :: others))
    (folded : hub.Folded kind source epoch now result told next) :
    Attended hub epoch others result told next := by
  cases folded with
  | dropped idle => exact attendance.quiet rfl rfl rfl (.inl rfl)
  | overflowed _ failed =>
      rw [Account.fold_error failed]
      exact attendance.quiet rfl rfl rfl (.inr rfl)
  | kept enabled pending folded uncounted => exact attendance.quiet rfl rfl rfl (.inl rfl)
  | counted enabled pending folded due elapsed waiting =>
      subst due
      have uncounted : hub.epoch ≠ hub.epoch + 1 := Nat.ne_of_lt (Nat.lt_succ_self _)
      refine
        { attendance := (attendance.count uncounted waiting).congr rfl rfl rfl
          sound := fun panic failed => by cases failed
          advanced := rfl
          line := ?_
          current := ?_ }
      · constructor
        · intro impossible
          cases impossible
        · intro given
          obtain ⟨_, _, all⟩ := given
          have complete := (attendance.one_short_iff uncounted).mpr all
          omega
      · intro current other member
        rcases List.mem_cons.mp member with rfl | member
        · exact Nat.le_succ _
        · exact current other (List.mem_cons_of_mem _ member)
  | completed enabled pending folded due elapsed complete =>
      subst due
      have uncounted : hub.epoch ≠ hub.epoch + 1 := Nat.ne_of_lt (Nat.lt_succ_self _)
      have all := (attendance.one_short_iff uncounted).mp complete
      refine
        { attendance := Attendance.emit now attendance.attached attendance.told_bounded
          sound := fun panic failed => by cases failed
          advanced := rfl
          line := ⟨fun _ => ⟨rfl, rfl, all⟩, fun _ => rfl⟩
          current := ?_ }
      intro current other member
      rcases List.mem_cons.mp member with rfl | member
      · exact Nat.le_refl _
      · exact Nat.le_of_eq (all other member).symm
  | overcounted enabled pending folded due crowded =>
      subst due
      have below := attendance.counted_le (Nat.ne_of_lt (Nat.lt_succ_self _))
      have attached := attendance.attached
      rw [List.length_cons] at attached
      omega

theorem detach_counted (now : Nat) (attendance : Attendance hub (epoch :: others))
    (counts : epoch = hub.epoch + 1) :
    ∃ emission, (hub.detach epoch now).1 = .ok emission ∧
      Detached hub epoch others emission (hub.detach epoch now).2 := by
  have attached := attendance.attached
  have counted := attendance.counted
  rw [List.length_cons] at attached
  rw [List.countP_cons, if_pos (by simpa using counts)] at counted
  have present : ¬ hub.attached = 0 := by omega
  have somebody : ¬ hub.counted = 0 := by omega
  have short : hub.counted < hub.attached := attendance.waiting.resolve_left somebody
  have silent : ¬ hub.counted - 1 = hub.attached - 1 := by omega
  have left : hub.detach epoch now =
      (.ok none, { hub with counted := hub.counted - 1, attached := hub.attached - 1 }) := by
    simp only [Hub.detach, counts, somebody, present, silent, decide_true, decide_false,
      Bool.and_false, if_true, if_false, Bool.false_eq_true]
  rw [left]
  refine ⟨none, rfl, ⟨?_, ?_, ?_, ?_⟩, rfl, ?_, fun current other member =>
    current other (List.mem_cons_of_mem _ member)⟩
  · change hub.attached - 1 = others.length
    omega
  · change hub.counted - 1 = others.countP (· = hub.epoch + 1)
    omega
  · change hub.counted - 1 = 0 ∨ hub.counted - 1 < hub.attached - 1
    omega
  · exact fun other member => attendance.bounded other (List.mem_cons_of_mem _ member)
  · simp [counts]

theorem detach_uncounted (now : Nat) (attendance : Attendance hub (epoch :: others))
    (uncounted : epoch ≠ hub.epoch + 1) :
    ∃ emission, (hub.detach epoch now).1 = .ok emission ∧
      Detached hub epoch others emission (hub.detach epoch now).2 := by
  have attached := attendance.attached
  have counted := attendance.counted
  rw [List.length_cons] at attached
  rw [List.countP_cons, if_neg (by simpa using uncounted), Nat.add_zero] at counted
  have bounded : ∀ other ∈ others, other ≤ hub.epoch + 1 := fun other member =>
    attendance.bounded other (List.mem_cons_of_mem _ member)
  have present : ¬ hub.attached = 0 := by omega
  have last := attendance.one_short_iff uncounted
  by_cases due : 0 < hub.counted ∧ hub.counted = hub.attached - 1
  · have left : hub.detach epoch now =
        (.ok (some (Hub.emit { hub with attached := hub.attached - 1 } now).1),
          (Hub.emit { hub with attached := hub.attached - 1 } now).2) := by
      simp only [Hub.detach, uncounted, present, due.1, due.2.symm, decide_true, decide_false,
        Bool.and_true, Bool.false_and, if_true, if_false, Bool.false_eq_true]
    have all := last.mp (by omega)
    rw [left]
    refine ⟨_, rfl, Attendance.emit now ?_ bounded, rfl, ?_, fun _ other member =>
      Nat.le_of_eq (all other member).symm⟩
    · change hub.attached - 1 = others.length
      omega
    · have others_ne : others ≠ [] := by
        intro nobody
        subst nobody
        simp only [List.length_nil] at attached
        omega
      exact ⟨fun _ => ⟨uncounted, others_ne, all⟩, fun _ => rfl⟩
  · have left : hub.detach epoch now =
        (.ok none, { hub with attached := hub.attached - 1 }) := by
      simp only [Hub.detach, uncounted, present, decide_false, Bool.false_and, if_false,
        Bool.false_eq_true, Bool.and_eq_true, decide_eq_true_eq, due]
    have fewer := attendance.counted_le uncounted
    rw [left]
    refine ⟨none, rfl, ⟨?_, counted, ?_, bounded⟩, rfl, ?_, fun current other member =>
      current other (List.mem_cons_of_mem _ member)⟩
    · change hub.attached - 1 = others.length
      omega
    · change hub.counted = 0 ∨ hub.counted < hub.attached - 1
      omega
    · constructor
      · intro impossible
        cases impossible
      · intro given
        obtain ⟨_, others_ne, all⟩ := given
        have short := last.mpr all
        have positive := List.length_pos_iff.mpr others_ne
        exact absurd ⟨by omega, by omega⟩ due

theorem detach (now : Nat) (attendance : Attendance hub (epoch :: others)) :
    ∃ emission, (hub.detach epoch now).1 = .ok emission ∧
      Detached hub epoch others emission (hub.detach epoch now).2 := by
  by_cases counts : epoch = hub.epoch + 1
  · exact attendance.detach_counted now counts
  · exact attendance.detach_uncounted now counts

end Attendance

namespace Recorder

variable {hub : Hub} {recorder : Recorder} {others : List Nat}

theorem foldInto_attended (kind : Kind) (now : Nat)
    (attendance : Attendance hub (recorder.epoch :: others)) :
    Attended hub recorder.epoch others (recorder.foldInto hub kind now).1
      (recorder.foldInto hub kind now).2.1.epoch (recorder.foldInto hub kind now).2.2 := by
  have attended :=
    attendance.fold (hub.fold_folded kind recorder.account recorder.epoch now)
  unfold foldInto
  rcases folded : hub.fold kind recorder.account recorder.epoch now with ⟨_ | _, told, next⟩
  · rw [folded] at attended
    exact attended
  · rw [folded] at attended
    exact attended

theorem add_attended (start now volume : Nat)
    (attendance : Attendance hub (recorder.epoch :: others)) :
    Attended hub recorder.epoch others (recorder.add hub start now volume).1
      (recorder.add hub start now volume).2.1.epoch
      (recorder.add hub start now volume).2.2 := by
  unfold add
  rcases recorded : recorder.account.record start now volume with ⟨panic | _, account⟩
  · rw [Account.record_error recorded]
    exact attendance.quiet rfl rfl rfl (.inr rfl)
  · rcases chosen : recorder.kind with _ | kind
    · exact attendance.quiet rfl rfl rfl (.inl rfl)
    · dsimp only
      split
      · exact attendance.quiet rfl rfl rfl (.inl rfl)
      · have folded :=
          @foldInto_attended hub { recorder with kind := some kind, account } others kind now
            attendance
        exact folded

theorem merge_attended (now : Nat) (attendance : Attendance hub (recorder.epoch :: others)) :
    Attended hub recorder.epoch others (recorder.merge hub now).1
      (recorder.merge hub now).2.1.epoch (recorder.merge hub now).2.2 := by
  unfold merge
  rcases recorder.kind with _ | kind
  · exact attendance.quiet rfl rfl rfl (.inl rfl)
  · dsimp only
    split
    · exact foldInto_attended kind now attendance
    · exact attendance.quiet rfl rfl rfl (.inl rfl)

end Recorder

namespace Ensemble

/-- The epochs that the attached recorders hold. -/
def epochs (ensemble : Ensemble) : List Nat :=
  ensemble.recorders.map Recorder.epoch

/-- A recorder is counted once it holds the epoch after the hub's. -/
def AllCounted (ensemble : Ensemble) (recorders : List Recorder) : Prop :=
  ∀ recorder ∈ recorders, recorder.epoch = ensemble.hub.epoch + 1

/-- The action counts the recorder at a place, which was not counted before. -/
def CountsIn (ensemble : Ensemble) (action : Action) (place : Nat) : Prop :=
  ∃ before ∈ ensemble.recorders[place]?, ∃ after ∈ (ensemble.step action).2.recorders[place]?,
    before.epoch = ensemble.hub.epoch ∧ after.epoch = ensemble.hub.epoch + 1

/-- The last uncounted recorder is counted, or leaves others behind that are all counted. -/
def Completes (ensemble : Ensemble) : Action → Prop
  | .add place start now volume =>
    ensemble.CountsIn (.add place start now volume) place ∧
      ensemble.AllCounted (ensemble.recorders.eraseIdx place)
  | .merge place now =>
    ensemble.CountsIn (.merge place now) place ∧
      ensemble.AllCounted (ensemble.recorders.eraseIdx place)
  | .drop place _ =>
    (∃ recorder ∈ ensemble.recorders[place]?, recorder.epoch ≠ ensemble.hub.epoch + 1) ∧
      ensemble.recorders.eraseIdx place ≠ [] ∧
      ensemble.AllCounted (ensemble.recorders.eraseIdx place)
  | _ => False

/-- A line is forced only while no recorder is attached, and asked for by recorders only. -/
def Orderly (ensemble : Ensemble) : Action → Prop
  | .checkpoint _ => False
  | .finish _ => ensemble.recorders = []
  | _ => True

instance (ensemble : Ensemble) (action : Action) : Decidable (ensemble.Orderly action) := by
  unfold Orderly
  cases action <;> infer_instance

/-- The line that came with a result, if any. -/
def lineIn (result : Except Panic Answer) : Option Emission :=
  match result with
  | .ok answer => answer.emission?
  | .error _ => none

theorem lineIn_map (result : Except Panic (Option Emission)) :
    lineIn (result.map .line) = emission? result := by
  cases result with
  | error panic => rfl
  | ok emission => rfl

/-- What an action does while the two numbers are right; `complete` says when it causes a line. -/
structure Progress (ensemble : Ensemble) (complete : Prop) (result : Except Panic Answer)
    (next : Ensemble) : Prop where
  attendance : Attendance next.hub next.epochs
  current : Current ensemble.hub ensemble.epochs → Current next.hub next.epochs
  panics : ∀ panic, result = .error panic → panic = .overflow
  advanced : next.hub.epoch = ensemble.hub.epoch + (lineIn result).toList.length
  line : (lineIn result).isSome ↔ complete

theorem quiet_progress {ensemble next : Ensemble} {complete : Prop} {result : Except Panic Answer}
    (attendance : Attendance ensemble.hub ensemble.epochs) (same : next.epochs = ensemble.epochs)
    (attached : next.hub.attached = ensemble.hub.attached)
    (counted : next.hub.counted = ensemble.hub.counted)
    (epoch : next.hub.epoch = ensemble.hub.epoch) (silent : lineIn result = none)
    (safe : ∀ panic, result ≠ .error panic) (incomplete : ¬ complete) :
    ensemble.Progress complete result next where
  attendance := by rw [same]; exact attendance.congr attached counted epoch
  current := by rw [same]; intro current other member; rw [epoch]; exact current other member
  panics panic failed := absurd failed (safe panic)
  advanced := by rw [silent, epoch]; rfl
  line := by
    rw [silent]
    constructor
    · intro impossible
      cases impossible
    · intro complete
      exact absurd complete incomplete

theorem epochs_around {ensemble : Ensemble} {before after : List Recorder} {recorder : Recorder}
    (around : ensemble.recorders = before ++ recorder :: after) :
    ensemble.epochs.Perm (recorder.epoch :: (before ++ after).map Recorder.epoch) := by
  rw [epochs, around, List.map_append, List.map_cons, List.map_append]
  exact List.perm_middle

theorem atPlace_progress {ensemble : Ensemble}
    (attendance : Attendance ensemble.hub ensemble.epochs) (place : Nat)
    {operation : Recorder → Hub → Except Panic (Option Emission) × Recorder × Hub}
    (attended : ∀ recorder hub others, Attendance hub (recorder.epoch :: others) →
      Attended hub recorder.epoch others (operation recorder hub).1
        (operation recorder hub).2.1.epoch (operation recorder hub).2.2) :
    ensemble.Progress
      ((∃ before ∈ ensemble.recorders[place]?,
        ∃ after ∈ (ensemble.atPlace place operation).2.recorders[place]?,
          before.epoch = ensemble.hub.epoch ∧ after.epoch = ensemble.hub.epoch + 1) ∧
        ensemble.AllCounted (ensemble.recorders.eraseIdx place))
      (ensemble.atPlace place operation).1 (ensemble.atPlace place operation).2 := by
  rcases found : ensemble.recorders[place]? with _ | recorder
  · rw [atPlace_of_none found]
    refine quiet_progress attendance rfl rfl rfl rfl rfl (fun panic failed => by cases failed) ?_
    intro given
    obtain ⟨⟨before, member, _⟩, _⟩ := given
    cases member
  · obtain ⟨before, after, around, replaced, removed⟩ := exists_around found
    have held := epochs_around around
    have turn := attended recorder ensemble.hub _ (attendance.perm held)
    have inside : (ensemble.recorders.set place (operation recorder ensemble.hub).2.1)[place]? =
        some (operation recorder ensemble.hub).2.1 := by
      obtain ⟨bound, _⟩ := List.getElem?_eq_some_iff.mp found
      rw [List.getElem?_set_self bound]
    rw [atPlace_of_some found]
    dsimp only
    rw [inside, removed]
    generalize (operation recorder ensemble.hub).1 = result at turn ⊢
    generalize (operation recorder ensemble.hub).2.1 = told at turn ⊢
    generalize (operation recorder ensemble.hub).2.2 = hub at turn ⊢
    rw [replaced]
    have holding := (@epochs_around ⟨hub, before ++ told :: after⟩ before after told rfl).symm
    refine
      { attendance := turn.attendance.perm holding
        current := ?_
        panics := ?_
        advanced := by rw [lineIn_map]; exact turn.advanced
        line := ?_ }
    · intro current epoch member
      refine turn.current ?_ epoch (holding.mem_iff.mpr member)
      intro other member
      exact current other (held.mem_iff.mpr member)
    · intro panic failed
      cases result with
      | error cause => exact turn.sound panic (by simpa [Except.map] using failed)
      | ok emission => cases failed
    · rw [lineIn_map, turn.line]
      simp only [Option.mem_def, Option.some.injEq, exists_eq_left', AllCounted,
        List.forall_mem_map, and_assoc]

theorem reset_progress {ensemble : Ensemble}
    (attendance : Attendance ensemble.hub ensemble.epochs) (place : Nat) (kind : Kind) (now : Nat) :
    ensemble.Progress False (ensemble.step (.reset place kind now)).1
      (ensemble.step (.reset place kind now)).2 := by
  change ensemble.Progress False (ensemble.atPlace place _).1 (ensemble.atPlace place _).2
  rcases found : ensemble.recorders[place]? with _ | recorder
  · rw [atPlace_of_none found]
    exact quiet_progress attendance rfl rfl rfl rfl rfl (fun panic failed => by cases failed) id
  · obtain ⟨before, after, around, replaced, _⟩ := exists_around found
    rw [atPlace_of_some found]
    refine quiet_progress attendance ?_ rfl rfl rfl rfl (fun panic failed => by cases failed) id
    rw [epochs, epochs, replaced, around, List.map_append, List.map_append, List.map_cons,
      List.map_cons]
    rfl

theorem drop_progress {ensemble : Ensemble}
    (attendance : Attendance ensemble.hub ensemble.epochs) (place now : Nat) :
    ensemble.Progress (ensemble.Completes (.drop place now))
      (ensemble.step (.drop place now)).1 (ensemble.step (.drop place now)).2 := by
  rcases found : ensemble.recorders[place]? with _ | recorder
  · simp only [step, found]
    refine quiet_progress attendance rfl rfl rfl rfl rfl (fun panic failed => by cases failed) ?_
    intro given
    obtain ⟨⟨before, member, _⟩, _⟩ := given
    rw [found] at member
    cases member
  · obtain ⟨before, after, around, _, removed⟩ := exists_around found
    have held := epochs_around around
    obtain ⟨emission, result, left, advanced, line, current⟩ :=
      (attendance.perm held).detach now
    simp only [step, found, Recorder.drop, result, removed]
    refine
      { attendance := left
        current := fun behind => current fun other member =>
          behind other (held.mem_iff.mpr member)
        panics := fun panic failed => by cases failed
        advanced := advanced
        line := ?_ }
    change emission.isSome ↔ _
    rw [line]
    simp only [Completes, found, removed, Option.mem_def, Option.some.injEq, exists_eq_left',
      AllCounted, List.forall_mem_map, ne_eq, List.map_eq_nil_iff]

/-- The lines that are due: those forced, and those that complete an epoch. -/
def Due (ensemble : Ensemble) : Action → Prop
  | .finish _ => True
  | action => ensemble.Completes action

theorem step_progress {ensemble : Ensemble}
    (attendance : Attendance ensemble.hub ensemble.epochs) {action : Action}
    (orderly : ensemble.Orderly action) :
    ensemble.Progress (ensemble.Due action) (ensemble.step action).1
      (ensemble.step action).2 := by
  cases action with
  | enable kind =>
      have unchanged : (ensemble.hub.enable kind).attached = ensemble.hub.attached ∧
          (ensemble.hub.enable kind).counted = ensemble.hub.counted ∧
          (ensemble.hub.enable kind).epoch = ensemble.hub.epoch := by
        unfold Hub.enable
        split <;> exact ⟨rfl, rfl, rfl⟩
      exact quiet_progress attendance rfl unchanged.1 unchanged.2.1 unchanged.2.2 rfl
        (fun panic failed => by cases failed) id
  | mirror writer =>
      exact quiet_progress attendance rfl rfl rfl rfl rfl (fun panic failed => by cases failed) id
  | summarize kind =>
      exact quiet_progress attendance rfl rfl rfl rfl rfl (fun panic failed => by cases failed) id
  | checkpoint now => exact orderly.elim
  | finish now =>
      have alone : ensemble.epochs = [] := by rw [epochs, orderly, List.map_nil]
      exact
        { attendance := Attendance.emit now attendance.attached attendance.bounded
          current := by
            intro current
            change Current (ensemble.hub.emit now).2 ensemble.epochs
            rw [alone]
            exact fun other member => by cases member
          panics := fun panic failed => by cases failed
          advanced := rfl
          line := ⟨fun _ => trivial, fun _ => rfl⟩ }
  | attach now =>
      have held : (ensemble.hub.epoch :: ensemble.epochs).Perm
          ((ensemble.recorders ++ [(Recorder.new ensemble.hub now).1]).map Recorder.epoch) := by
        rw [List.map_append]
        exact (List.perm_append_singleton _ _).symm
      exact
        { attendance := attendance.attach.perm held
          current := by
            intro current other member
            rcases List.mem_cons.mp (held.mem_iff.mpr member) with rfl | member
            · exact Nat.le_refl _
            · exact current other member
          panics := fun panic failed => by cases failed
          advanced := rfl
          line := ⟨fun impossible => (by cases impossible), fun complete => False.elim complete⟩ }
  | count place =>
      exact quiet_progress attendance rfl rfl rfl rfl rfl (fun panic failed => by cases failed) id
  | reset place kind now => exact reset_progress attendance place kind now
  | add place start now volume =>
      exact atPlace_progress attendance place fun _ _ _ attendance =>
        Recorder.add_attended start now volume attendance
  | merge place now =>
      exact atPlace_progress attendance place fun _ _ _ attendance =>
        Recorder.merge_attended now attendance
  | drop place now => exact drop_progress attendance place now

/-- The two numbers are right and no recorder is behind. -/
structure Sound (ensemble : Ensemble) : Prop where
  attendance : Attendance ensemble.hub ensemble.epochs
  current : Current ensemble.hub ensemble.epochs

theorem Sound.step {ensemble : Ensemble} (sound : ensemble.Sound) {action : Action}
    (orderly : ensemble.Orderly action) : (ensemble.step action).2.Sound :=
  have progress := step_progress sound.attendance orderly
  ⟨progress.attendance, progress.current sound.current⟩

theorem new_sound (interval start : Nat) : (Ensemble.new interval start).Sound where
  attendance := ⟨rfl, rfl, .inl rfl, fun _ member => by cases member⟩
  current := fun _ member => by cases member

theorem run_sound {interval start : Nat} {actions : List Action}
    (orderly : (Ensemble.new interval start).Follows Orderly actions) :
    ((Ensemble.new interval start).run actions).Sound :=
  run_induction Sound (fun _ _ sound allowed => Sound.step sound allowed)
    (new_sound interval start) orderly

/-- The two numbers of the hub, and what every orderly action does next. -/
structure EpochsKept (ensemble : Ensemble) : Prop where
  attached : ensemble.hub.attached = ensemble.recorders.length
  held : ∀ recorder ∈ ensemble.recorders,
    recorder.epoch = ensemble.hub.epoch ∨ recorder.epoch = ensemble.hub.epoch + 1
  counted : ensemble.hub.counted =
    ensemble.recorders.countP fun recorder => recorder.epoch = ensemble.hub.epoch + 1
  waiting : ensemble.hub.counted = 0 ∨ ensemble.hub.counted < ensemble.hub.attached
  panics : ∀ action, ensemble.Orderly action →
    ∀ panic, (ensemble.step action).1 = .error panic → panic = .overflow
  advanced : ∀ action, ensemble.Orderly action →
    (ensemble.step action).2.hub.epoch =
      ensemble.hub.epoch + (lineIn (ensemble.step action).1).toList.length
  line : ∀ action, ensemble.Orderly action → (∀ now, action ≠ .finish now) →
    ((lineIn (ensemble.step action).1).isSome ↔ ensemble.Completes action)

/-- In every state that orderly actions lead to, the hub knows how many recorders are attached and
how many of them are counted, every recorder holds the hub's epoch or the next one, and somebody
is still waited for.  So no assertion about the two numbers can break, and a line comes exactly
when an epoch is complete or a line is forced. -/
theorem epochs_kept (interval start : Nat) (actions : List Action)
    (orderly : (Ensemble.new interval start).Follows Orderly actions) :
    ((Ensemble.new interval start).run actions).EpochsKept := by
  have sound := run_sound orderly
  generalize (Ensemble.new interval start).run actions = ensemble at sound
  refine
    { attached := by rw [sound.attendance.attached, epochs, List.length_map]
      held := ?_
      counted := by rw [sound.attendance.counted, epochs, List.countP_map]; rfl
      waiting := sound.attendance.waiting
      panics := fun action allowed => (step_progress sound.attendance allowed).panics
      advanced := fun action allowed => (step_progress sound.attendance allowed).advanced
      line := ?_ }
  · intro recorder member
    have inside : recorder.epoch ∈ ensemble.epochs := List.mem_map_of_mem member
    have lower := sound.current recorder.epoch inside
    have upper := sound.attendance.bounded recorder.epoch inside
    omega
  · intro action allowed unforced
    rw [(step_progress sound.attendance allowed).line]
    cases action with
    | finish now => exact absurd rfl (unforced now)
    | _ => exact Iff.rfl

/-- Two recorders complete an epoch; one of them leaves counted in the next, before a third one
completes it by leaving, and a last line is forced. -/
def departures : List Action :=
  [.enable .set, .attach 0, .attach 0, .reset 0 .set 0, .reset 1 .set 0, .add 0 0 5 1,
   .add 1 0 6 1, .attach 7, .add 0 6 9 1, .add 1 6 9 1, .drop 0 9, .drop 1 10, .merge 0 11,
   .drop 0 12, .finish 13]

theorem epochs_kept_departures :
    (Ensemble.new 1 0).Follows Orderly departures ∧
      ((Ensemble.new 1 0).run departures).EpochsKept :=
  ⟨by decide, epochs_kept 1 0 departures (by decide)⟩

end Ensemble

end StoreBench.Latency
