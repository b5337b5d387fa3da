import StoreBench.Proofs.Latency.Content
import StoreBench.Proofs.Latency.Epochs

/-! What an action posts to the books.

The log of a history has an entry for every sample, with the kind that its recorder had at that
time.  A careful action whose sums fit does one of a few things to the accounts: it turns pages,
opens an account, lets a recorder come or go, or passes the loose content of one recorder on to
the hub.
-/

namespace StoreBench.Latency

/-- The samples of a kind in a log; those recorded without a kind are a class of their own. -/
def samplesOf (kind : Option Kind) (log : List (Option Kind × Sample)) : List Sample :=
  (log.filter (·.1 = kind)).map (·.2)

@[simp] theorem samplesOf_append (kind : Option Kind)
    (earlier later : List (Option Kind × Sample)) :
    samplesOf kind (earlier ++ later) = samplesOf kind earlier ++ samplesOf kind later := by
  rw [samplesOf, List.filter_append, List.map_append]
  rfl

theorem samplesOf_self (kind : Option Kind) (samples : List Sample) :
    samplesOf kind (samples.map (kind, ·)) = samples := by
  induction samples with
  | nil => rfl
  | cons sample samples ih =>
      rw [List.map_cons, samplesOf, List.filter_cons_of_pos (by simp), List.map_cons]
      exact congrArg (sample :: ·) ih

theorem samplesOf_other {kind other : Option Kind} (different : other ≠ kind)
    (samples : List Sample) : samplesOf kind (samples.map (other, ·)) = [] := by
  rw [samplesOf, List.map_eq_nil_iff, List.filter_eq_nil_iff]
  intro entry member
  obtain ⟨sample, _, rfl⟩ := List.mem_map.mp member
  simpa using different

/-- The account is left alone, or its page is turned. -/
def Turned (before after : Account) : Prop :=
  after = before ∨ after = before.turnPage

namespace Account

/-- The account after a sample, if there is one. -/
def entered (account : Account) (entry : Option Sample) : Account :=
  (entry.map account.recorded).getD account

theorem Split.entered {account : Account} (split : account.Split) (entry : Option Sample) :
    (account.entered entry).Split := by
  cases entry with
  | none => exact split
  | some sample => exact split.split_recorded sample

theorem total_entered (account : Account) (entry : Option Sample) :
    (account.entered entry).total =
      account.total + (Content.ofSamples entry.toList).tally := by
  cases entry with
  | none => exact (add_zero account.total).symm
  | some sample =>
      rw [Option.toList_some, Content.tally_ofSamples_singleton]
      rfl

end Account

/-- What becomes of the hub and of a recorder when the recorder takes a sample or folds, or both:
what is not folded stays loose, what is folded is rolled away. -/
inductive Posted (hub : Hub) (recorder : Recorder) (entry : Option Sample) (next : Hub)
    (told : Recorder) : Prop where
  | held (kind : told.kind = recorder.kind) (accounts : next.accounts = hub.accounts)
      (account : told.account = recorder.account.entered entry)
  | folded (kind : told.kind = recorder.kind) {chosen : Kind} (of : recorder.kind = some chosen)
      (enabled : (hub.accounts.get chosen).enabled = true)
      (taken : Turned ((hub.accounts.get chosen).folded (recorder.account.entered entry))
        (next.accounts.get chosen))
      (others : ∀ other, other ≠ chosen →
        Turned (hub.accounts.get other) (next.accounts.get other))
      (account : told.account = (recorder.account.entered entry).roll)

namespace Hub

theorem emit_turned (hub : Hub) (now : Nat) (kind : Kind) :
    Turned (hub.accounts.get kind) ((hub.emit now).2.accounts.get kind) := by
  change Turned _ ((hub.accounts.map _).get kind)
  rw [PerKind.get_map]
  split
  · exact .inr rfl
  · exact .inl rfl

theorem detach_turned (hub : Hub) (epoch now : Nat) (kind : Kind) :
    Turned (hub.accounts.get kind) ((hub.detach epoch now).2.accounts.get kind) := by
  unfold detach
  by_cases stray : (decide (epoch = hub.epoch + 1) && decide (hub.counted = 0)) = true
  · rw [if_pos stray]
    exact .inl rfl
  · rw [if_neg stray]
    have same : (if epoch = hub.epoch + 1 then { hub with counted := hub.counted - 1 }
        else hub).accounts = hub.accounts := by
      split <;> rfl
    generalize (if epoch = hub.epoch + 1 then { hub with counted := hub.counted - 1 } else hub) =
      left at same
    dsimp only
    rw [← same]
    split
    · exact .inl rfl
    split
    · exact emit_turned { left with attached := left.attached - 1 } now kind
    · exact .inl rfl

end Hub

namespace Recorder

variable {hub : Hub} {recorder : Recorder} {others : List Nat}

theorem foldInto_posted {kind : Kind} (now : Nat)
    (attendance : Attendance hub (recorder.epoch :: others)) (of : recorder.kind = some kind)
    (enabled : (hub.accounts.get kind).enabled = true) (pending : recorder.account.pending = true)
    (fits : ((hub.accounts.get kind).total + recorder.account.unflushed).Fits) :
    ∃ emission, (recorder.foldInto hub kind now).1 = .ok emission ∧
      Posted hub recorder none (recorder.foldInto hub kind now).2.2
        (recorder.foldInto hub kind now).2.1 := by
  have sound := (attendance.fold (hub.fold_folded kind recorder.account recorder.epoch now)).sound
  have outcome := hub.fold_folded kind recorder.account recorder.epoch now
  have took := Account.fold_of_fits fits
  have replaced (next : Hub) (same : next.accounts = hub.accounts.set kind
      ((hub.accounts.get kind).folded recorder.account)) (other : Kind) (different : other ≠ kind) :
      next.accounts.get other = hub.accounts.get other := by
    rw [same, PerKind.get_set_of_ne _ _ (Ne.symm different)]
  unfold foldInto
  generalize hub.fold kind recorder.account recorder.epoch now = result at sound outcome
  obtain ⟨result, told, next⟩ := result
  dsimp only at sound outcome ⊢
  cases outcome with
  | dropped idle =>
      rcases idle with disabled | quiet
      · rw [enabled] at disabled
        cases disabled
      · rw [pending] at quiet
        cases quiet
  | overflowed _ failed =>
      rw [took] at failed
      cases failed
  | kept enabled pending folded uncounted =>
      rw [took] at folded
      cases folded
      exact ⟨none, rfl, .folded rfl of enabled (.inl (PerKind.get_set_self _ _ _))
        (fun other different => .inl (replaced _ rfl other different)) rfl⟩
  | counted enabled pending folded due elapsed waiting =>
      rw [took] at folded
      cases folded
      exact ⟨none, rfl, .folded rfl of enabled (.inl (PerKind.get_set_self _ _ _))
        (fun other different => .inl (replaced _ rfl other different)) rfl⟩
  | completed enabled pending folded due elapsed complete =>
      rw [took] at folded
      cases folded
      refine ⟨_, rfl, .folded rfl of enabled ?_ ?_ rfl⟩
      · have turned := Hub.emit_turned { hub with
          accounts := hub.accounts.set kind ((hub.accounts.get kind).folded recorder.account)
          counted := hub.counted + 1 } now kind
        rw [PerKind.get_set_self] at turned
        exact turned
      · intro other different
        have turned := Hub.emit_turned { hub with
          accounts := hub.accounts.set kind ((hub.accounts.get kind).folded recorder.account)
          counted := hub.counted + 1 } now other
        rw [PerKind.get_set_of_ne _ _ (Ne.symm different)] at turned
        exact turned
  | overcounted enabled pending folded due crowded =>
      have impossible := sound .overcounted rfl
      cases impossible

theorem add_posted {sample : Sample}
    (attendance : Attendance hub (recorder.epoch :: others)) (split : recorder.account.Split)
    (backed : ∀ kind ∈ recorder.kind, (hub.accounts.get kind).enabled = true)
    (own : (recorder.account.total + .ofSample sample.latency sample.volume).Fits)
    (shared : ∀ kind ∈ recorder.kind, ((hub.accounts.get kind).total +
      (recorder.account.unflushed + .ofSample sample.latency sample.volume)).Fits) :
    ∃ emission, (recorder.add hub sample.start sample.now sample.volume).1 = .ok emission ∧
      Posted hub recorder (some sample)
        (recorder.add hub sample.start sample.now sample.volume).2.2
        (recorder.add hub sample.start sample.now sample.volume).2.1 := by
  unfold add
  rw [Account.record_of_fits own]
  rcases chosen : recorder.kind with _ | kind
  · exact ⟨none, rfl, .held chosen.symm rfl rfl⟩
  · dsimp only
    split
    · exact ⟨none, rfl, .held chosen.symm rfl rfl⟩
    · have member : kind ∈ recorder.kind := chosen
      have fits := shared kind member
      rw [← split.recorded sample] at fits
      obtain ⟨emission, result, posted⟩ := @foldInto_posted hub
        { recorder with kind := some kind, account := recorder.account.recorded sample }
        others kind sample.now attendance rfl (backed kind member)
        (split.pending_recorded sample) fits
      refine ⟨emission, result, ?_⟩
      cases posted with
      | held same accounts account => exact .held (same.trans chosen.symm) accounts account
      | folded same of enabled taken untouched account =>
          exact .folded (same.trans chosen.symm) (chosen.trans of) enabled taken untouched account

theorem merge_posted {now : Nat} (attendance : Attendance hub (recorder.epoch :: others))
    (backed : recorder.account.pending = true →
      ∀ kind ∈ recorder.kind, (hub.accounts.get kind).enabled = true)
    (shared : ∀ kind ∈ recorder.kind,
      ((hub.accounts.get kind).total + recorder.account.unflushed).Fits) :
    ∃ emission, (recorder.merge hub now).1 = .ok emission ∧
      Posted hub recorder none (recorder.merge hub now).2.2 (recorder.merge hub now).2.1 := by
  unfold merge
  rcases chosen : recorder.kind with _ | kind
  · exact ⟨none, rfl, .held rfl rfl rfl⟩
  · dsimp only
    split
    · next pending =>
        exact foldInto_posted now attendance chosen (backed pending kind chosen) pending
          (shared kind chosen)
    · exact ⟨none, rfl, .held rfl rfl rfl⟩

end Recorder

namespace Ensemble

/-- What an action adds to the log. -/
def logged (ensemble : Ensemble) : Action → List (Option Kind × Sample)
  | .add place start now volume =>
    ensemble.recorders[place]?.toList.map fun recorder => (recorder.kind, ⟨start, now, volume⟩)
  | _ => []

/-- The log of a history. -/
def log (ensemble : Ensemble) : List Action → List (Option Kind × Sample)
  | [] => []
  | action :: actions => ensemble.logged action ++ (ensemble.step action).2.log actions

/-- A recorder of a kind takes samples only once the kind is enabled, and is neither reset nor
dropped before it has folded them.  Nobody is counted but by a fold: a line that is asked for from
outside comes at once, or it is too early for one. -/
def Careful (ensemble : Ensemble) : Action → Prop
  | .checkpoint now =>
    now - ensemble.hub.checkpoint < ensemble.hub.interval ∨
      ensemble.hub.counted + 1 = ensemble.hub.attached
  | .reset place _ _ | .drop place _ =>
    ∀ recorder ∈ ensemble.recorders[place]?, recorder.account.pending = false
  | .add place _ _ _ =>
    ∀ recorder ∈ ensemble.recorders[place]?, ∀ kind ∈ recorder.kind,
      (ensemble.hub.accounts.get kind).enabled = true
  | _ => True

instance (ensemble : Ensemble) : (action : Action) → Decidable (ensemble.Careful action)
  | .checkpoint now =>
    inferInstanceAs (Decidable (now - ensemble.hub.checkpoint < ensemble.hub.interval ∨
      ensemble.hub.counted + 1 = ensemble.hub.attached))
  | .reset place _ _ | .drop place _ =>
    inferInstanceAs (Decidable (∀ recorder ∈ ensemble.recorders[place]?,
      recorder.account.pending = false))
  | .add place _ _ _ =>
    inferInstanceAs (Decidable (∀ recorder ∈ ensemble.recorders[place]?, ∀ kind ∈ recorder.kind,
      (ensemble.hub.accounts.get kind).enabled = true))
  | .enable _ | .mirror _ | .summarize _ | .finish _ | .attach _ | .count _ | .merge _ _ =>
    .isTrue trivial

/-- A sample is recorded only where the account allows it. -/
def Admits (allowed : Account → Sample → Prop) (ensemble : Ensemble) : Action → Prop
  | .add place start now volume =>
    ∀ recorder ∈ ensemble.recorders[place]?, allowed recorder.account ⟨start, now, volume⟩
  | _ => True

instance (allowed : Account → Sample → Prop) [∀ account sample, Decidable (allowed account sample)]
    (ensemble : Ensemble) : (action : Action) → Decidable (ensemble.Admits allowed action)
  | .add place start now volume =>
    inferInstanceAs (Decidable (∀ recorder ∈ ensemble.recorders[place]?,
      allowed recorder.account ⟨start, now, volume⟩))
  | .enable _ | .mirror _ | .summarize _ | .checkpoint _ | .finish _ | .attach _ | .count _
  | .reset _ _ _ | .merge _ _ | .drop _ _ => .isTrue trivial

/-- What an action does to the accounts, by the entries it makes. -/
inductive Effect (allowed : Account → Sample → Prop) (ensemble next : Ensemble) :
    List (Option Kind × Sample) → Prop where
  | moved {before gone fresh after : List Recorder}
      (held : ensemble.recorders = before ++ gone ++ after)
      (holds : next.recorders = before ++ fresh ++ after)
      (settled : ∀ recorder ∈ gone, recorder.account.pending = false)
      (clean : ∀ recorder ∈ fresh, recorder.account = .new)
      (turned : ∀ kind, Turned (ensemble.hub.accounts.get kind) (next.hub.accounts.get kind)) :
      Effect allowed ensemble next []
  | opened {kind : Kind} (same : next.recorders = ensemble.recorders)
      (disabled : (ensemble.hub.accounts.get kind).enabled = false)
      (accounts : next.hub.accounts =
        ensemble.hub.accounts.set kind { Account.new with enabled := true }) :
      Effect allowed ensemble next []
  | posted {before after : List Recorder} {recorder told : Recorder} {entry : Option Sample}
      (held : ensemble.recorders = before ++ recorder :: after)
      (holds : next.recorders = before ++ told :: after)
      (admitted : ∀ sample ∈ entry, allowed recorder.account sample)
      (backed : entry ≠ none → ∀ kind ∈ recorder.kind,
        (ensemble.hub.accounts.get kind).enabled = true)
      (posted : Posted ensemble.hub recorder entry next.hub told) :
      Effect allowed ensemble next (entry.toList.map (recorder.kind, ·))

/-- With these entries too, the sums of every recorder and of the hub fit. -/
def Room (ensemble : Ensemble) (entries : List (Option Kind × Sample)) : Prop :=
  ∀ recorder ∈ ensemble.recorders, ∀ entry : Option Sample,
    entries = entry.toList.map (recorder.kind, ·) →
      (recorder.account.total + (Content.ofSamples entry.toList).tally).Fits ∧
      ∀ kind ∈ recorder.kind, ((ensemble.hub.accounts.get kind).total +
        (recorder.account.unflushed + (Content.ofSamples entry.toList).tally)).Fits

/-- The numbers of the hub stay right, also when a line is asked for from outside or forced while
recorders are attached. -/
theorem step_attendance {ensemble : Ensemble}
    (attendance : Attendance ensemble.hub ensemble.epochs) {action : Action}
    (careful : ensemble.Careful action) :
    Attendance (ensemble.step action).2.hub (ensemble.step action).2.epochs := by
  cases action with
  | finish now => exact Attendance.emit now attendance.attached attendance.bounded
  | checkpoint now =>
      change Attendance (ensemble.hub.tryLine now).2 ensemble.epochs
      unfold Hub.tryLine
      split
      · exact attendance
      · next elapsed =>
          have complete := careful.resolve_left elapsed
          dsimp only
          rw [if_neg (by omega), if_neg (by omega)]
          exact Attendance.emit now attendance.attached attendance.bounded
  | _ =>
      refine Progress.attendance (step_progress attendance ?_)
      exact trivial

theorem turned_effect {allowed : Account → Sample → Prop} {ensemble next : Ensemble}
    (same : next.recorders = ensemble.recorders)
    (turned : ∀ kind, Turned (ensemble.hub.accounts.get kind) (next.hub.accounts.get kind)) :
    Effect allowed ensemble next [] :=
  @Effect.moved allowed ensemble next ensemble.recorders [] [] [] (by simp) (by simp [same])
    (by simp) (by simp) turned

theorem tryLine_turned {hub : Hub} {now : Nat}
    (careful : now - hub.checkpoint < hub.interval ∨ hub.counted + 1 = hub.attached) :
    (∃ outcome, (hub.tryLine now).1 = .ok outcome) ∧
      ∀ kind, Turned (hub.accounts.get kind) ((hub.tryLine now).2.accounts.get kind) := by
  unfold Hub.tryLine
  split
  · exact ⟨⟨_, rfl⟩, fun kind => .inl rfl⟩
  · next elapsed =>
      have complete := careful.resolve_left elapsed
      dsimp only
      rw [if_neg (by omega), if_neg (by omega)]
      exact ⟨⟨_, rfl⟩, Hub.emit_turned { hub with counted := hub.counted + 1 } now⟩

theorem enable_effect {allowed : Account → Sample → Prop} (ensemble : Ensemble) (kind : Kind) :
    Effect allowed ensemble { ensemble with hub := ensemble.hub.enable kind } [] := by
  rcases enabled : (ensemble.hub.accounts.get kind).enabled with _ | _
  · exact .opened rfl enabled (by simp [Hub.enable, enabled])
  · exact turned_effect rfl (fun other => .inl (by simp [Hub.enable, enabled]))

theorem atPlace_effect {allowed : Account → Sample → Prop} {ensemble : Ensemble} {place : Nat}
    {recorder : Recorder} {entry : Option Sample}
    {operation : Recorder → Hub → Except Panic (Option Emission) × Recorder × Hub}
    (found : ensemble.recorders[place]? = some recorder)
    (admitted : ∀ sample ∈ entry, allowed recorder.account sample)
    (backed : entry ≠ none → ∀ kind ∈ recorder.kind,
      (ensemble.hub.accounts.get kind).enabled = true)
    (posts : ∃ emission, (operation recorder ensemble.hub).1 = .ok emission ∧
      Posted ensemble.hub recorder entry (operation recorder ensemble.hub).2.2
        (operation recorder ensemble.hub).2.1) :
    (∃ answer, (ensemble.atPlace place operation).1 = .ok answer) ∧
      Effect allowed ensemble (ensemble.atPlace place operation).2
        (entry.toList.map (recorder.kind, ·)) := by
  obtain ⟨emission, result, posted⟩ := posts
  obtain ⟨before, after, around, replaced, _⟩ := exists_around found
  rw [atPlace_of_some found, result]
  exact ⟨⟨.line emission, rfl⟩, .posted around (replaced _) admitted backed posted⟩

section

variable {allowed : Account → Sample → Prop} {ensemble : Ensemble} {place : Nat}

theorem idle_effect : Effect allowed ensemble ensemble [] := turned_effect rfl fun _ => .inl rfl

theorem attending {recorder : Recorder} (attendance : Attendance ensemble.hub ensemble.epochs)
    (found : ensemble.recorders[place]? = some recorder) :
    ∃ others, Attendance ensemble.hub (recorder.epoch :: others) := by
  obtain ⟨before, after, around, _⟩ := exists_around found
  exact ⟨_, attendance.perm (epochs_around around)⟩

theorem reset_effect {kind : Kind} {now : Nat}
    (careful : ensemble.Careful (.reset place kind now)) :
    (∃ answer, (ensemble.step (.reset place kind now)).1 = .ok answer) ∧
      Effect allowed ensemble (ensemble.step (.reset place kind now)).2 [] := by
  change (∃ answer, (ensemble.atPlace place _).1 = .ok answer) ∧
    Effect allowed ensemble (ensemble.atPlace place _).2 []
  rcases found : ensemble.recorders[place]? with _ | recorder
  · rw [atPlace_of_none found]
    exact ⟨⟨_, rfl⟩, idle_effect⟩
  · obtain ⟨before, after, around, replaced, _⟩ := exists_around found
    rw [atPlace_of_some found]
    exact ⟨⟨_, rfl⟩, @Effect.moved allowed ensemble _ before [recorder]
      [recorder.reset kind now] after (by simp [around]) (by simp [replaced])
      (by simpa using careful recorder found) (by simp [Recorder.reset]) fun kind => .inl rfl⟩

theorem add_effect {start now volume : Nat}
    (attendance : Attendance ensemble.hub ensemble.epochs)
    (careful : ensemble.Careful (.add place start now volume))
    (admits : ensemble.Admits allowed (.add place start now volume))
    (split : ∀ recorder ∈ ensemble.recorders, recorder.account.Split)
    (room : ensemble.Room (ensemble.logged (.add place start now volume))) :
    (∃ answer, (ensemble.step (.add place start now volume)).1 = .ok answer) ∧
      Effect allowed ensemble (ensemble.step (.add place start now volume)).2
        (ensemble.logged (.add place start now volume)) := by
  change (∃ answer, (ensemble.atPlace place _).1 = .ok answer) ∧
    Effect allowed ensemble (ensemble.atPlace place _).2 _
  simp only [logged] at room ⊢
  rcases found : ensemble.recorders[place]? with _ | recorder
  · rw [atPlace_of_none found]
    exact ⟨⟨_, rfl⟩, idle_effect⟩
  · have member := List.mem_of_getElem? found
    rw [found] at room
    obtain ⟨own, shared⟩ := room recorder member (some ⟨start, now, volume⟩) rfl
    obtain ⟨others, attended⟩ := attending attendance found
    rw [Option.toList_some, Content.tally_ofSamples_singleton] at own shared
    have posts :=
      Recorder.add_posted attended (split recorder member) (careful recorder found) own shared
    refine @atPlace_effect allowed ensemble place recorder _
      (fun recorder hub => recorder.add hub start now volume) found ?_
      (fun _ => careful recorder found) posts
    intro sample same
    obtain rfl := Option.some.inj same
    exact admits recorder found

theorem merge_effect {now : Nat} (attendance : Attendance ensemble.hub ensemble.epochs)
    (backed : ∀ recorder ∈ ensemble.recorders, recorder.account.pending = true →
      ∀ kind ∈ recorder.kind, (ensemble.hub.accounts.get kind).enabled = true)
    (room : ensemble.Room []) :
    (∃ answer, (ensemble.step (.merge place now)).1 = .ok answer) ∧
      Effect allowed ensemble (ensemble.step (.merge place now)).2 [] := by
  change (∃ answer, (ensemble.atPlace place _).1 = .ok answer) ∧
    Effect allowed ensemble (ensemble.atPlace place _).2 []
  rcases found : ensemble.recorders[place]? with _ | recorder
  · rw [atPlace_of_none found]
    exact ⟨⟨_, rfl⟩, idle_effect⟩
  · have member := List.mem_of_getElem? found
    obtain ⟨_, shared⟩ := room recorder member none rfl
    obtain ⟨others, attended⟩ := attending attendance found
    exact @atPlace_effect allowed ensemble place recorder none _ found
      (fun sample same => by cases same) (fun some => absurd rfl some)
      (Recorder.merge_posted attended (backed recorder member) shared)

theorem drop_effect {now : Nat} (attendance : Attendance ensemble.hub ensemble.epochs)
    (careful : ensemble.Careful (.drop place now)) :
    (∃ answer, (ensemble.step (.drop place now)).1 = .ok answer) ∧
      Effect allowed ensemble (ensemble.step (.drop place now)).2 [] := by
  rcases found : ensemble.recorders[place]? with _ | recorder
  · simp only [step, found]
    exact ⟨⟨_, rfl⟩, idle_effect⟩
  · obtain ⟨before, after, around, _, removed⟩ := exists_around found
    obtain ⟨others, attended⟩ := attending attendance found
    obtain ⟨emission, result, _⟩ := attended.detach now
    have settled := careful recorder found
    simp only [step, found, Recorder.drop, result, removed]
    exact ⟨⟨_, rfl⟩, @Effect.moved allowed ensemble _ before [recorder] [] after
      (by simp [around]) (by simp) (by simpa using settled) (by simp)
      (Hub.detach_turned ensemble.hub recorder.epoch now)⟩

/-- Every careful action for which there is room succeeds and has one of the effects. -/
theorem step_effect {action : Action} (attendance : Attendance ensemble.hub ensemble.epochs)
    (careful : ensemble.Careful action) (admits : ensemble.Admits allowed action)
    (split : ∀ recorder ∈ ensemble.recorders, recorder.account.Split)
    (backed : ∀ recorder ∈ ensemble.recorders, recorder.account.pending = true →
      ∀ kind ∈ recorder.kind, (ensemble.hub.accounts.get kind).enabled = true)
    (room : ensemble.Room (ensemble.logged action)) :
    (∃ answer, (ensemble.step action).1 = .ok answer) ∧
      Effect allowed ensemble (ensemble.step action).2 (ensemble.logged action) := by
  cases action with
  | enable kind => exact ⟨⟨_, rfl⟩, enable_effect ensemble kind⟩
  | mirror writer => exact ⟨⟨_, rfl⟩, turned_effect rfl fun kind => .inl rfl⟩
  | summarize kind => exact ⟨⟨_, rfl⟩, idle_effect⟩
  | checkpoint now =>
      obtain ⟨⟨outcome, result⟩, turned⟩ := tryLine_turned careful
      exact ⟨⟨.outcome outcome, by simp only [step, result]; rfl⟩, turned_effect rfl turned⟩
  | finish now => exact ⟨⟨_, rfl⟩, turned_effect rfl (Hub.emit_turned ensemble.hub now)⟩
  | attach now =>
      exact ⟨⟨_, rfl⟩, @Effect.moved allowed ensemble _ ensemble.recorders []
        [(Recorder.new ensemble.hub now).1] [] (by simp) (by simp [step]) (by simp)
        (by simp [Recorder.new]) fun kind => .inl rfl⟩
  | count place => exact ⟨⟨_, rfl⟩, turned_effect rfl fun kind => .inl rfl⟩
  | reset place kind now => exact reset_effect careful
  | add place start now volume => exact add_effect attendance careful admits split room
  | merge place now => exact merge_effect attendance backed room
  | drop place now => exact drop_effect attendance careful

end

end Ensemble

end StoreBench.Latency
