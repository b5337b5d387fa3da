import StoreBench.Proofs.Latency.Lines

/-! The tables of an account.

An account counts its samples by bucket, for the report, and by bin, for the percentiles.  Whatever
a history does, an account of the hub counts the samples that were ever folded into it: a line
leaves its tables alone, and a recorder's tables are cleared when it has folded.
-/

namespace StoreBench.Latency

/-- Counts by bucket and by bin. -/
structure Tables where
  buckets : Vector Nat bucketCount
  bins : Bins

instance : Add Tables :=
  ⟨fun left right =>
    ⟨left.buckets.zipWith (· + ·) right.buckets, left.bins.zipWith (· + ·) right.bins⟩⟩

def Content.tables (content : Content) : Tables :=
  ⟨content.buckets, content.bins⟩

namespace Account

variable {account source : Account} {samples more past fresh : List Sample}

def tables (account : Account) : Tables :=
  ⟨account.buckets, account.bins⟩

/-- The tables count exactly these samples. -/
def Tabulates (account : Account) (samples : List Sample) : Prop :=
  account.tables = (Content.ofSamples samples).tables

namespace Tabulates

theorem recorded (tabulates : account.Tabulates samples) (split : account.Split)
    (sample : Sample) : (account.recorded sample).Tabulates (samples ++ [sample]) := by
  have counted : (account.recorded sample).tables =
      account.tables + (Content.ofSample sample).tables :=
    congrArg Content.tables (split.loose_recorded sample)
  rw [Tabulates, counted, tabulates, Content.ofSamples_append, Content.ofSamples_singleton]
  rfl

theorem folded (tabulates : account.Tabulates samples) (given : source.Tabulates more) :
    (account.folded source).Tabulates (samples ++ more) := by
  rw [Tabulates, Content.ofSamples_append]
  change account.tables + source.tables = _
  rw [tabulates, given]
  rfl

/-- What is still pending are the samples that were offered. -/
theorem kept (tabulates : account.Tabulates samples) (divided : account.Divided past samples)
    (told : source = account ∨ source = account.roll) :
    source.Tabulates (if source.pending then samples else []) := by
  rcases told with rfl | rfl
  · rw [divided.pending]
    cases samples with
    | nil => exact tabulates
    | cons sample samples => exact tabulates
  · rw [pending_roll]
    rfl

end Tabulates

theorem Divided.grows (divided : source.Divided past fresh) (pending : source.pending = true)
    (account : Account) : (account.folded source).total ≠ account.total := by
  intro still
  have count := congrArg Tally.count still
  have split := congrArg Tally.count divided.split
  simp only [Account.pending, bne_iff_ne, ne_eq] at pending
  simp only [Account.folded, Tally.count_add] at count split
  omega

end Account

namespace Hub

variable {hub next : Hub} {source : Account} {past offered : List Sample}

/-- The kind whose total has changed has the counts of `source` in addition, and the others have
the same counts as before. -/
def Adds (hub : Hub) (source : Account) (next : Hub) : Prop :=
  ∀ kind, (next.accounts.get kind).tables =
    if (next.accounts.get kind).total = (hub.accounts.get kind).total then
      (hub.accounts.get kind).tables
    else (hub.accounts.get kind).tables + source.tables

theorem Adds.turned
    (turned : ∀ kind, Turned (hub.accounts.get kind) (next.accounts.get kind)) :
    hub.Adds source next := by
  intro kind
  rcases turned kind with same | turned
  · rw [same, if_pos rfl]
  · rw [turned]
    exact (if_pos rfl).symm

theorem Adds.still (same : next.accounts = hub.accounts) : hub.Adds source next :=
  .turned fun _ => .inl (by rw [same])

theorem Adds.emit (adds : hub.Adds source next) (now : Nat) :
    hub.Adds source (next.emit now).2 := by
  intro kind
  have before := adds kind
  rcases next.emit_turned now kind with same | turned
  · rw [same]
    exact before
  · rw [turned]
    exact before

theorem Adds.folded {kind : Kind} (divided : source.Divided past offered)
    (pending : source.pending = true)
    (accounts : next.accounts = hub.accounts.set kind ((hub.accounts.get kind).folded source)) :
    hub.Adds source next := by
  intro other
  rw [accounts]
  by_cases same : kind = other
  · subst same
    rw [PerKind.get_set_self, if_neg (divided.grows pending _)]
    rfl
  · rw [PerKind.get_set_of_ne _ _ same, if_pos rfl]

theorem tryLine_adds (hub : Hub) (now : Nat) : hub.Adds source (hub.tryLine now).2 := by
  unfold tryLine
  split
  · exact .still rfl
  · dsimp only
    split
    · exact .still rfl
    split
    · exact .still rfl
    · exact @Adds.emit hub { hub with counted := hub.counted + 1 } source (.still rfl) now

end Hub

namespace Recorder

variable {hub : Hub} {recorder : Recorder} {past offered : List Sample}

theorem foldInto_adds {kind : Kind} {now : Nat} (divided : recorder.account.Divided past offered)
    (fits : (recorder.foldInto hub kind now).1 ≠ .error .overflow) :
    hub.Adds recorder.account (recorder.foldInto hub kind now).2.2 := by
  have outcome := hub.fold_folded kind recorder.account recorder.epoch now
  unfold foldInto at fits ⊢
  generalize hub.fold kind recorder.account recorder.epoch now = result at fits outcome
  obtain ⟨result, epoch, after⟩ := result
  dsimp only at outcome
  cases outcome with
  | dropped idle => exact .still rfl
  | overflowed _ failed =>
      rw [Account.fold_error failed] at fits
      exact absurd rfl fits
  | kept enabled pending folded uncounted =>
      obtain rfl := Account.fold_ok folded
      exact .folded divided pending rfl
  | counted enabled pending folded due elapsed waiting =>
      obtain rfl := Account.fold_ok folded
      exact .folded divided pending rfl
  | completed enabled pending folded due elapsed complete =>
      obtain rfl := Account.fold_ok folded
      exact @Hub.Adds.emit hub
        { hub with
          accounts := hub.accounts.set kind ((hub.accounts.get kind).folded recorder.account)
          counted := hub.counted + 1 } recorder.account (.folded divided pending rfl) now
  | overcounted enabled pending folded due crowded =>
      obtain rfl := Account.fold_ok folded
      exact .folded divided pending rfl

theorem add_adds {sample : Sample} (divided : recorder.account.Divided past offered)
    (fits : (recorder.add hub sample.start sample.now sample.volume).1 ≠ .error .overflow) :
    hub.Adds (recorder.account.recorded sample)
      (recorder.add hub sample.start sample.now sample.volume).2.2 := by
  unfold add at fits ⊢
  rcases entered : recorder.account.record sample.start sample.now sample.volume
    with ⟨_ | _, account⟩
  · exact .still rfl
  · rw [entered] at fits
    obtain rfl := Account.record_ok entered
    rcases chosen : recorder.kind with _ | kind
    · exact .still rfl
    · rw [chosen] at fits
      dsimp only at fits ⊢
      split
      · exact .still rfl
      · next due =>
        rw [if_neg due] at fits
        exact @foldInto_adds hub
          { recorder with kind := some kind, account := recorder.account.recorded sample } past _
          kind sample.now (divided.recorded sample) fits

theorem merge_adds {now : Nat} (divided : recorder.account.Divided past offered)
    (fits : (recorder.merge hub now).1 ≠ .error .overflow) :
    hub.Adds recorder.account (recorder.merge hub now).2.2 := by
  unfold merge at fits ⊢
  split
  · exact .still rfl
  · next kind chosen =>
    rw [chosen] at fits
    dsimp only at fits
    split
    · next pending =>
      rw [if_pos pending] at fits
      exact foldInto_adds divided fits
    · exact .still rfl

end Recorder

namespace Chronicle

variable {chronicle : Chronicle} {ensemble : Ensemble} {action : Action} {place : Nat}
  {operation : Recorder → Hub → Except Panic (Option Emission) × Recorder × Hub}

/-- Every sample of a kind that was ever folded; a line only moves samples from one part to the
other. -/
def given (chronicle : Chronicle) (kind : Kind) : List Sample :=
  chronicle.shown kind ++ chronicle.fresh kind

theorem step_given (kind : Kind) : (chronicle.step ensemble action).given kind =
    chronicle.given kind ++ chronicle.taken ensemble action kind := by
  unfold given step
  split
  · exact (List.append_assoc _ _ _).symm
  · exact (List.append_nil _).trans (List.append_assoc _ _ _).symm

theorem step_loose :
    (chronicle.step ensemble action).loose = chronicle.remaining ensemble action := by
  unfold step
  split
  · rfl
  · rfl

/-- The tables agree with the samples. -/
structure Counts (chronicle : Chronicle) (ensemble : Ensemble) : Prop where
  loose : List.Forall₂ (fun recorder => recorder.account.Tabulates) ensemble.recorders chronicle.loose
  hub : ∀ kind, (ensemble.hub.accounts.get kind).Tabulates (chronicle.given kind)

/-- What an action does to the tables. -/
structure Spends (chronicle : Chronicle) (ensemble : Ensemble) (action : Action) : Prop where
  hub : ∃ source, source.Tabulates (action.offers chronicle.loose) ∧
    ensemble.hub.Adds source (ensemble.step action).2.hub
  loose : List.Forall₂ (fun recorder => recorder.account.Tabulates) (ensemble.step action).2.recorders
    (chronicle.remaining ensemble action)

theorem Counts.step (counts : chronicle.Counts ensemble)
    (spends : chronicle.Spends ensemble action) :
    (chronicle.step ensemble action).Counts (ensemble.step action).2 where
  loose := by
    rw [step_loose]
    exact spends.loose
  hub kind := by
    obtain ⟨source, tabulates, adds⟩ := spends.hub
    rw [step_given, Account.Tabulates, adds kind, taken]
    split
    · rw [List.append_nil]
      exact counts.hub kind
    · exact (counts.hub kind).folded tabulates

/-- An action that offers nothing. -/
theorem silent_spends (silent : action.offers chronicle.loose = [])
    (adds : ensemble.hub.Adds Account.new (ensemble.step action).2.hub)
    (loose : List.Forall₂ (fun recorder => recorder.account.Tabulates)
      (ensemble.step action).2.recorders (chronicle.remaining ensemble action)) :
    chronicle.Spends ensemble action where
  hub := ⟨.new, by rw [silent]; rfl, adds⟩
  loose := loose

theorem missing_spends (counts : chronicle.Counts ensemble)
    (missing : ensemble.recorders[place]? = none)
    (steps : ensemble.step action = ensemble.atPlace place operation)
    (silent : action.offers chronicle.loose = [])
    (remains : chronicle.remaining ensemble action =
      chronicle.loose.set place (chronicle.kept ensemble action place)) :
    chronicle.Spends ensemble action := by
  rw [Ensemble.atPlace_of_none missing] at steps
  have none := forall₂_missing counts.loose missing
  refine silent_spends silent ?_ ?_
  · rw [steps]
    exact .still rfl
  · rw [steps, remains, List.set_eq_of_length_le (List.getElem?_eq_none_iff.mp none)]
    exact counts.loose

/-- A recorder that has a chance to fold. -/
theorem delivers_spends {recorder : Recorder} {account : Account} {past : List Sample}
    (counts : chronicle.Counts ensemble) (found : ensemble.recorders[place]? = some recorder)
    (steps : ensemble.step action = ensemble.atPlace place operation)
    (remains : chronicle.remaining ensemble action =
      chronicle.loose.set place (chronicle.kept ensemble action place))
    (divided : account.Divided past (action.offers chronicle.loose))
    (tabulates : account.Tabulates (action.offers chronicle.loose))
    (adds : ensemble.hub.Adds account (operation recorder ensemble.hub).2.2)
    (told : (operation recorder ensemble.hub).2.1.account = account ∨
      (operation recorder ensemble.hub).2.1.account = account.roll) :
    chronicle.Spends ensemble action := by
  obtain ⟨inside, _⟩ := List.getElem?_eq_some_iff.mp found
  rw [Ensemble.atPlace_of_some found] at steps
  refine ⟨⟨account, tabulates, ?_⟩, ?_⟩
  · rw [steps]
    exact adds
  · rw [remains, kept, steps, List.getElem?_set_self inside, Option.any_some]
    exact forall₂_set counts.loose place (tabulates.kept divided told)

theorem enable_spends (tells : chronicle.Tells ensemble) (counts : chronicle.Counts ensemble)
    (kind : Kind) : chronicle.Spends ensemble (.enable kind) := by
  refine silent_spends rfl ?_ counts.loose
  change ensemble.hub.Adds _ (ensemble.hub.enable kind)
  unfold Hub.enable
  split
  · exact .still rfl
  · next disabled =>
    -- A kind that was not collected has nothing to lose when its account is replaced.
    obtain ⟨none, nothing⟩ := (tells.hub kind).closed (Bool.not_eq_true _ ▸ disabled)
    have total := (tells.hub kind).divided.total
    have tables := counts.hub kind
    rw [Account.Tabulates, given, none, nothing] at tables
    rw [none, nothing] at total
    intro other
    dsimp only
    by_cases same : kind = other
    · subst same
      rw [PerKind.get_set_self, tables, total]
      exact (if_pos rfl).symm
    · rw [PerKind.get_set_of_ne _ _ same, if_pos rfl]

theorem drop_spends (counts : chronicle.Counts ensemble) (now : Nat) :
    chronicle.Spends ensemble (.drop place now) := by
  rcases found : ensemble.recorders[place]? with _ | recorder
  · have steps : ensemble.step (.drop place now) = (.ok .done, ensemble) := by
      simp only [Ensemble.step, found]
    have none := forall₂_missing counts.loose found
    refine silent_spends rfl ?_ ?_
    · rw [steps]
      exact .still rfl
    · rw [steps, remaining, List.eraseIdx_of_length_le (List.getElem?_eq_none_iff.mp none)]
      exact counts.loose
  · have steps : ensemble.step (.drop place now) =
        ((recorder.drop ensemble.hub now).1.map .line,
          ⟨(recorder.drop ensemble.hub now).2, ensemble.recorders.eraseIdx place⟩) := by
      simp only [Ensemble.step, found]
    refine silent_spends rfl ?_ ?_
    · rw [steps]
      exact .turned (ensemble.hub.detach_turned recorder.epoch now)
    · rw [steps]
      exact forall₂_eraseIdx counts.loose place

theorem Counts.spends (counts : chronicle.Counts ensemble) (tells : chronicle.Tells ensemble)
    (fits : ensemble.Fits action) : chronicle.Spends ensemble action := by
  cases action with
  | enable kind => exact enable_spends tells counts kind
  | mirror writer => exact silent_spends rfl (.still rfl) counts.loose
  | summarize kind => exact silent_spends rfl (.still rfl) counts.loose
  | checkpoint now => exact silent_spends rfl (ensemble.hub.tryLine_adds now) counts.loose
  | finish now => exact silent_spends rfl (.turned (ensemble.hub.emit_turned now)) counts.loose
  | attach now =>
      have clean : (Recorder.new ensemble.hub now).1.account.Tabulates [] := rfl
      exact silent_spends rfl (.still rfl) (List.rel_append counts.loose (.cons clean .nil))
  | count place => exact silent_spends rfl (.still rfl) counts.loose
  | reset place kind now =>
      have remains : chronicle.remaining ensemble (.reset place kind now) =
          chronicle.loose.set place (chronicle.kept ensemble (.reset place kind now) place) := by
        simp [remaining, kept, Action.offers]
      have steps : ensemble.step (.reset place kind now) = ensemble.atPlace place
          fun recorder hub => (.ok none, recorder.reset kind now, hub) := rfl
      rcases found : ensemble.recorders[place]? with _ | recorder
      · exact missing_spends counts found steps rfl remains
      · exact delivers_spends counts found steps remains
          (Account.divided_new Account.new.enabled) rfl (.still rfl) (.inl rfl)
  | add place start now volume =>
      have steps : ensemble.step (.add place start now volume) = ensemble.atPlace place
          fun recorder hub => recorder.add hub start now volume := rfl
      rcases found : ensemble.recorders[place]? with _ | recorder
      · have none := forall₂_missing counts.loose found
        exact missing_spends counts found steps (by rw [Action.offers, none]; rfl) rfl
      · obtain ⟨samples, held, past, divided⟩ := forall₂_found tells.loose found
        obtain ⟨others, same, tabulates⟩ := forall₂_found counts.loose found
        obtain rfl := Option.some.inj (held.symm.trans same)
        have offers : Action.offers chronicle.loose (.add place start now volume) =
            samples ++ [⟨start, now, volume⟩] := by
          rw [Action.offers, held]
          rfl
        have fitting := fits_atPlace fits found steps
        have delivers := @Recorder.add_delivers ensemble.hub recorder past samples
          ⟨start, now, volume⟩ divided fitting
        exact delivers_spends counts found steps rfl (offers ▸ divided.recorded _)
          (offers ▸ tabulates.recorded divided.split _)
          (@Recorder.add_adds ensemble.hub recorder past samples ⟨start, now, volume⟩ divided
            fitting) delivers.account
  | merge place now =>
      have steps : ensemble.step (.merge place now) = ensemble.atPlace place
          fun recorder hub => recorder.merge hub now := rfl
      rcases found : ensemble.recorders[place]? with _ | recorder
      · have none := forall₂_missing counts.loose found
        exact missing_spends counts found steps (by rw [Action.offers, none]; rfl) rfl
      · obtain ⟨samples, held, past, divided⟩ := forall₂_found tells.loose found
        obtain ⟨others, same, tabulates⟩ := forall₂_found counts.loose found
        obtain rfl := Option.some.inj (held.symm.trans same)
        have offers : Action.offers chronicle.loose (.merge place now) = samples := by
          rw [Action.offers, held]
          rfl
        have fitting := fits_atPlace fits found steps
        exact delivers_spends counts found steps rfl (offers ▸ divided) (offers ▸ tabulates)
          (Recorder.merge_adds divided fitting) (Recorder.merge_delivers divided fitting).account
  | drop place now => exact drop_spends counts now

theorem start_counts (interval now : Nat) : start.Counts (Ensemble.new interval now) where
  loose := .nil
  hub kind := by
    change Account.Tabulates ((PerKind.replicate .new).get kind) []
    rw [PerKind.get_replicate]
    rfl

theorem Counts.run {actions : List Action} (counts : chronicle.Counts ensemble)
    (tells : chronicle.Tells ensemble) (fits : ensemble.Follows Ensemble.Fits actions) :
    (chronicle.run ensemble actions).Tells (ensemble.run actions) ∧
      (chronicle.run ensemble actions).Counts (ensemble.run actions) := by
  induction actions generalizing chronicle ensemble with
  | nil => exact ⟨tells, counts⟩
  | cons action actions ih =>
      obtain ⟨fit, rest⟩ := fits
      exact ih (counts.step (counts.spends tells fit)) (tells.step fit) rest

end Chronicle

namespace History

theorem counted {history : History} (fits : history.Fits) :
    history.chronicle.Tells history.books ∧ history.chronicle.Counts history.books :=
  (Chronicle.start_counts history.interval history.start).run
    (Chronicle.start_tells history.interval history.start) fits

end History

end StoreBench.Latency
