import Mathlib.Data.List.Forall2
import StoreBench.Proofs.Latency.Totals

/-! The chronicle of a hub.

A sample is loose until its recorder folds it, fresh from then on, and shown from the next line on.
The chronicle of a history keeps the samples themselves, by where they are, while the accounts keep
their sums and extremes only.  Recorders may do what they like: a sample that is reset away or
dropped while it is loose is never folded, and one whose fold counts a worker too many stays loose
and is folded again with the next ones.
-/

namespace StoreBench.Latency

section Places

variable {α β : Type} {related : α → β → Prop} {items : List α} {others : List β}

theorem forall₂_set (all : List.Forall₂ related items others) (place : Nat) {item : α} {other : β}
    (holds : related item other) :
    List.Forall₂ related (items.set place item) (others.set place other) := by
  induction all generalizing place with
  | nil => exact .nil
  | cons first rest ih =>
      cases place with
      | zero => exact .cons holds rest
      | succ place => exact .cons first (ih place)

theorem forall₂_eraseIdx (all : List.Forall₂ related items others) (place : Nat) :
    List.Forall₂ related (items.eraseIdx place) (others.eraseIdx place) := by
  induction all generalizing place with
  | nil => exact .nil
  | cons first rest ih =>
      cases place with
      | zero => exact rest
      | succ place => exact .cons first (ih place)

theorem forall₂_found (all : List.Forall₂ related items others) {place : Nat} {item : α}
    (found : items[place]? = some item) :
    ∃ other, others[place]? = some other ∧ related item other := by
  induction all generalizing place with
  | nil => cases found
  | cons first rest ih =>
      cases place with
      | zero =>
          cases found
          exact ⟨_, rfl, first⟩
      | succ place => exact ih found

theorem forall₂_missing (all : List.Forall₂ related items others) {place : Nat}
    (missing : items[place]? = none) : others[place]? = none := by
  rw [List.getElem?_eq_none_iff] at missing ⊢
  rw [← all.length_eq]
  exact missing

end Places

namespace Account

variable {account source after : Account} {past fresh old more : List Sample}

/-- The account has flushed the samples `past`, and has not flushed those in `fresh`. -/
structure Divided (account : Account) (past fresh : List Sample) : Prop where
  flushed : account.flushed = (Content.ofSamples past).tally
  total : account.total = (Content.ofSamples past).tally + (Content.ofSamples fresh).tally
  least : account.least = (Content.ofSamples fresh).least
  greatest : account.greatest = (Content.ofSamples fresh).greatest

theorem divided_new (enabled : Bool) : Divided { new with enabled := enabled } [] [] :=
  ⟨rfl, rfl, rfl, rfl⟩

namespace Divided

theorem unflushed (divided : account.Divided past fresh) :
    account.unflushed = (Content.ofSamples fresh).tally := by
  rw [Account.unflushed, divided.flushed, divided.total, Tally.since_add]

theorem split (divided : account.Divided past fresh) : account.Split := by
  rw [Split, divided.unflushed, divided.flushed, divided.total]

theorem pending (divided : account.Divided past fresh) :
    account.pending = (fresh != []) := by
  rw [Account.pending, divided.total, divided.flushed]
  cases fresh with
  | nil => simp [Content.ofSamples]
  | cons sample samples =>
      simp only [Content.ofSamples_cons, Content.ofSample, Tally.ofSample, Content.tally_add,
        Tally.count_add]
      rw [bne_iff_ne.mpr (by omega), bne_iff_ne.mpr (List.cons_ne_nil sample samples)]

theorem recorded (divided : account.Divided past fresh) (sample : Sample) :
    (account.recorded sample).Divided past (fresh ++ [sample]) where
  flushed := divided.flushed
  total := by
    rw [Content.ofSamples_append, Content.tally_add, Content.tally_ofSamples_singleton,
      ← add_assoc, ← divided.total]
    rfl
  least := by
    have bound := (Content.ofSamples fresh).least_le_never
    rw [Content.ofSamples_append, Content.ofSamples_singleton]
    change min account.least sample.latency =
      min (Content.ofSamples fresh).least (min never sample.latency)
    rw [divided.least]
    omega
  greatest := by
    rw [Content.ofSamples_append, Content.ofSamples_singleton]
    change max account.greatest sample.latency = max (Content.ofSamples fresh).greatest _
    rw [divided.greatest]
    rfl

theorem cleared (divided : account.Divided past fresh) (flushed : after.flushed = account.total)
    (total : after.total = account.total) (least : after.least = never)
    (greatest : after.greatest = 0) : after.Divided (past ++ fresh) [] where
  flushed := by
    rw [flushed, divided.total, Content.ofSamples_append]
    rfl
  total := by
    rw [total, divided.total, Content.ofSamples_append]
    exact (add_zero _).symm
  least := least
  greatest := greatest

theorem roll (divided : account.Divided past fresh) : account.roll.Divided (past ++ fresh) [] :=
  divided.cleared rfl rfl rfl rfl

theorem folded (divided : account.Divided past fresh) (given : source.Divided old more) :
    (account.folded source).Divided past (fresh ++ more) where
  flushed := divided.flushed
  total := by
    rw [Content.ofSamples_append, Content.tally_add, ← add_assoc, ← divided.total,
      ← given.unflushed]
    rfl
  least := by
    change min account.least source.least = _
    rw [divided.least, given.least, Content.ofSamples_append]
    rfl
  greatest := by
    change max account.greatest source.greatest = _
    rw [divided.greatest, given.greatest, Content.ofSamples_append]
    rfl

end Divided

/-- An account of the hub: lines have shown the samples `shown`, and not yet those in `fresh`. -/
structure Shows (account : Account) (shown fresh : List Sample) : Prop where
  divided : account.Divided shown fresh
  pastLeast : account.pastLeast = (Content.ofSamples shown).least
  pastGreatest : account.pastGreatest = (Content.ofSamples shown).greatest
  closed : account.enabled = false → shown = [] ∧ fresh = []

namespace Shows

variable {shown : List Sample}

theorem folded (shows : account.Shows shown fresh) (enabled : account.enabled = true)
    (given : source.Divided old more) : (account.folded source).Shows shown (fresh ++ more) where
  divided := shows.divided.folded given
  pastLeast := shows.pastLeast
  pastGreatest := shows.pastGreatest
  closed disabled := by
    rw [show (account.folded source).enabled = account.enabled from rfl, enabled] at disabled
    cases disabled

theorem turnPage (shows : account.Shows shown fresh) (enabled : account.enabled = true) :
    account.turnPage.Shows (shown ++ fresh) [] where
  divided := shows.divided.cleared rfl rfl rfl rfl
  pastLeast := by
    change min account.pastLeast account.least = _
    rw [shows.pastLeast, shows.divided.least, Content.ofSamples_append]
    rfl
  pastGreatest := by
    change max account.pastGreatest account.greatest = _
    rw [shows.pastGreatest, shows.divided.greatest, Content.ofSamples_append]
    rfl
  closed disabled := by
    rw [show account.turnPage.enabled = account.enabled from rfl, enabled] at disabled
    cases disabled

end Shows

end Account

namespace Hub

variable {hub mid next : Hub} {offered : List Sample} {emission : Option Emission}
  {shown fresh : Kind → List Sample}

/-- What an action lets the hub take, where `offered` are the samples that a recorder could fold. -/
inductive Takes (hub : Hub) (offered : List Sample) : Hub → Prop where
  | nothing {next : Hub} (accounts : next.accounts = hub.accounts) : Takes hub offered next
  | opened {next : Hub} {kind : Kind} (disabled : (hub.accounts.get kind).enabled = false)
      (accounts : next.accounts = hub.accounts.set kind { Account.new with enabled := true }) :
      Takes hub offered next
  | samples {next : Hub} {kind : Kind} {source : Account} {old : List Sample}
      (enabled : (hub.accounts.get kind).enabled = true) (pending : source.pending = true)
      (divided : source.Divided old offered)
      (accounts : next.accounts =
        hub.accounts.set kind ((hub.accounts.get kind).folded source)) : Takes hub offered next

/-- The samples are fresh for the kind whose total they changed. -/
theorem Takes.shows (takes : hub.Takes offered next)
    (shows : ∀ kind, (hub.accounts.get kind).Shows (shown kind) (fresh kind)) (kind : Kind) :
    (next.accounts.get kind).Shows (shown kind) (fresh kind ++
      if (next.accounts.get kind).total = (hub.accounts.get kind).total then [] else offered) := by
  cases takes with
  | nothing accounts =>
      rw [accounts, if_pos rfl, List.append_nil]
      exact shows kind
  | @opened chosen disabled accounts =>
      rw [accounts]
      by_cases same : chosen = kind
      · subst same
        obtain ⟨none, nothing⟩ := (shows chosen).closed disabled
        have total := (shows chosen).divided.total
        rw [none, nothing] at total
        have blank := Account.divided_new true
        rw [PerKind.get_set_self, if_pos (blank.total.trans total.symm), none, nothing]
        exact ⟨blank, rfl, rfl, fun impossible => by cases impossible⟩
      · rw [PerKind.get_set_of_ne _ _ same, if_pos rfl, List.append_nil]
        exact shows kind
  | @samples chosen source old enabled pending divided accounts =>
      rw [accounts]
      by_cases same : chosen = kind
      · subst same
        have grown : ((hub.accounts.get chosen).folded source).total ≠
            (hub.accounts.get chosen).total := by
          intro still
          have count := congrArg Tally.count still
          have split := congrArg Tally.count divided.split
          simp only [Account.pending, bne_iff_ne, ne_eq] at pending
          simp only [Account.folded, Tally.count_add] at count split
          omega
        rw [PerKind.get_set_self, if_neg grown]
        exact (shows chosen).folded enabled divided
      · rw [PerKind.get_set_of_ne _ _ same, if_pos rfl, List.append_nil]
        exact shows kind

/-- An action ends with a line or without one. -/
inductive Closes (mid : Hub) : Option Emission → Hub → Prop where
  | silent {next : Hub} (accounts : next.accounts = mid.accounts) : Closes mid none next
  | line (now : Nat) : Closes mid (some (mid.emit now).1) (mid.emit now).2

theorem Closes.total (closes : mid.Closes emission next) (kind : Kind) :
    (next.accounts.get kind).total = (mid.accounts.get kind).total := by
  cases closes with
  | silent accounts => rw [accounts]
  | line now => exact mid.emit_total now kind

theorem emit_shows (now : Nat)
    (shows : ∀ kind, (hub.accounts.get kind).Shows (shown kind) (fresh kind)) (kind : Kind) :
    ((hub.emit now).2.accounts.get kind).Shows (shown kind ++ fresh kind) [] := by
  change Account.Shows ((hub.accounts.map _).get kind) _ _
  rw [PerKind.get_map]
  split
  · next enabled => exact (shows kind).turnPage enabled
  · next disabled =>
    obtain ⟨none, nothing⟩ := (shows kind).closed (Bool.not_eq_true _ ▸ disabled)
    have same := shows kind
    rw [none, nothing] at same ⊢
    exact same

theorem tryLine_closes (hub : Hub) (now : Nat) :
    ∃ mid, hub.Takes offered mid ∧
      mid.Closes (Ensemble.lineIn ((hub.tryLine now).1.map .outcome)) (hub.tryLine now).2 := by
  unfold tryLine
  split
  · exact ⟨hub, .nothing rfl, .silent rfl⟩
  · dsimp only
    split
    · exact ⟨hub, .nothing rfl, .silent rfl⟩
    split
    · exact ⟨hub, .nothing rfl, .silent rfl⟩
    · exact ⟨{ hub with counted := hub.counted + 1 }, .nothing rfl, .line now⟩

theorem detach_closes (hub : Hub) (epoch now : Nat) :
    ∃ mid, hub.Takes offered mid ∧
      mid.Closes (emission? (hub.detach epoch now).1) (hub.detach epoch now).2 := by
  unfold detach
  split
  · exact ⟨hub, .nothing rfl, .silent rfl⟩
  · have same : (if epoch = hub.epoch + 1 then { hub with counted := hub.counted - 1 }
        else hub).accounts = hub.accounts := by
      split <;> rfl
    generalize (if epoch = hub.epoch + 1 then { hub with counted := hub.counted - 1 } else hub) =
      left at same
    dsimp only
    split
    · exact ⟨left, .nothing same, .silent rfl⟩
    split
    · exact ⟨{ left with attached := left.attached - 1 }, .nothing same, .line now⟩
    · exact ⟨left, .nothing same, .silent rfl⟩

end Hub

namespace Recorder

variable {hub next : Hub} {recorder told : Recorder} {past offered : List Sample}

/-- A recorder that had a chance to fold keeps its samples or has none left. -/
structure Delivers (hub : Hub) (account : Account) (offered : List Sample)
    (emission : Option Emission) (next : Hub) (told : Recorder) : Prop where
  hub : ∃ mid, hub.Takes offered mid ∧ mid.Closes emission next
  account : told.account = account ∨ told.account = account.roll

theorem Delivers.nothing {account : Account} (kept : told.account = account) :
    Delivers hub account offered none hub told :=
  ⟨⟨hub, .nothing rfl, .silent rfl⟩, .inl kept⟩

theorem foldInto_delivers {kind : Kind} {now : Nat}
    (divided : recorder.account.Divided past offered)
    (fits : (recorder.foldInto hub kind now).1 ≠ .error .overflow) :
    Delivers hub recorder.account offered (emission? (recorder.foldInto hub kind now).1)
      (recorder.foldInto hub kind now).2.2 (recorder.foldInto hub kind now).2.1 := by
  have outcome := hub.fold_folded kind recorder.account recorder.epoch now
  unfold foldInto at fits ⊢
  generalize hub.fold kind recorder.account recorder.epoch now = result at fits outcome
  obtain ⟨result, epoch, after⟩ := result
  dsimp only at outcome
  cases outcome with
  | dropped idle => exact ⟨⟨hub, .nothing rfl, .silent rfl⟩, .inr rfl⟩
  | overflowed _ failed =>
      rw [Account.fold_error failed] at fits
      exact absurd rfl fits
  | kept enabled pending folded uncounted =>
      obtain rfl := Account.fold_ok folded
      exact ⟨⟨_, .samples enabled pending divided rfl, .silent rfl⟩, .inr rfl⟩
  | counted enabled pending folded due elapsed waiting =>
      obtain rfl := Account.fold_ok folded
      exact ⟨⟨_, .samples enabled pending divided rfl, .silent rfl⟩, .inr rfl⟩
  | completed enabled pending folded due elapsed complete =>
      obtain rfl := Account.fold_ok folded
      exact ⟨⟨_, .samples enabled pending divided rfl, .line now⟩, .inr rfl⟩
  | overcounted enabled pending folded due crowded =>
      obtain rfl := Account.fold_ok folded
      exact ⟨⟨_, .samples enabled pending divided rfl, .silent rfl⟩, .inl rfl⟩

theorem add_delivers {sample : Sample} (divided : recorder.account.Divided past offered)
    (fits : (recorder.add hub sample.start sample.now sample.volume).1 ≠ .error .overflow) :
    Delivers hub (recorder.account.recorded sample) (offered ++ [sample])
      (emission? (recorder.add hub sample.start sample.now sample.volume).1)
      (recorder.add hub sample.start sample.now sample.volume).2.2
      (recorder.add hub sample.start sample.now sample.volume).2.1 := by
  unfold add at fits ⊢
  rcases entered : recorder.account.record sample.start sample.now sample.volume
    with ⟨_ | _, account⟩
  · rw [entered, Account.record_error entered] at fits
    exact absurd rfl fits
  · rw [entered] at fits
    obtain rfl := Account.record_ok entered
    rcases chosen : recorder.kind with _ | kind
    · exact .nothing rfl
    · rw [chosen] at fits
      dsimp only at fits ⊢
      split
      · exact .nothing rfl
      · next due =>
        rw [if_neg due] at fits
        exact @foldInto_delivers hub
          { recorder with kind := some kind, account := recorder.account.recorded sample } past _
          kind sample.now (divided.recorded sample) fits

theorem merge_delivers {now : Nat} (divided : recorder.account.Divided past offered)
    (fits : (recorder.merge hub now).1 ≠ .error .overflow) :
    Delivers hub recorder.account offered (emission? (recorder.merge hub now).1)
      (recorder.merge hub now).2.2 (recorder.merge hub now).2.1 := by
  unfold merge at fits ⊢
  split
  · exact .nothing rfl
  · next kind chosen =>
    rw [chosen] at fits
    dsimp only at fits
    split
    · next pending =>
      rw [if_pos pending] at fits
      exact foldInto_delivers divided fits
    · exact .nothing rfl

/-- The recorder has not folded the samples. -/
def Holds (recorder : Recorder) (samples : List Sample) : Prop :=
  ∃ past, recorder.account.Divided past samples

theorem Delivers.holds {account : Account} {emission : Option Emission}
    (delivers : Delivers hub account offered emission next told)
    (divided : account.Divided past offered) :
    told.Holds (if told.account.pending then offered else []) := by
  unfold Holds
  rcases delivers.account with kept | rolled
  · rw [kept, divided.pending]
    cases offered with
    | nil => exact ⟨past, divided⟩
    | cons sample samples => exact ⟨past, divided⟩
  · rw [rolled, Account.pending_roll]
    exact ⟨_, divided.roll⟩

end Recorder

/-- The samples of a history, by where they are, and the lines so far: those of each recorder that
are not folded yet, those folded since the last line, and those folded before it. -/
structure Chronicle where
  loose : List (List Sample)
  fresh : Kind → List Sample
  shown : Kind → List Sample
  lines : List Line

/-- What the recorder of an action can fold: its loose samples, with the one that it takes. -/
def Action.offers (loose : List (List Sample)) : Action → List Sample
  | .add place start now volume => (loose[place]?.map (· ++ [⟨start, now, volume⟩])).getD []
  | .merge place _ => loose[place]?.getD []
  | _ => []

/-- No sum leaves its integer type. -/
def Ensemble.Fits (ensemble : Ensemble) (action : Action) : Prop :=
  match (ensemble.step action).1 with
  | .error panic => panic ≠ .overflow
  | .ok _ => True

instance (ensemble : Ensemble) (action : Action) : Decidable (ensemble.Fits action) :=
  match fits : (ensemble.step action).1 with
  | .error panic => decidable_of_iff (panic ≠ .overflow) (by simp [Ensemble.Fits, fits])
  | .ok _ => .isTrue (by simp [Ensemble.Fits, fits])

namespace Chronicle

variable (chronicle : Chronicle) (ensemble : Ensemble) (action : Action)

def start : Chronicle :=
  ⟨[], fun _ => [], fun _ => [], []⟩

/-- What the recorder at a place offered and has not folded. -/
def kept (place : Nat) : List Sample :=
  if (ensemble.step action).2.recorders[place]?.any (·.account.pending) then
    action.offers chronicle.loose
  else []

/-- The loose samples after an action. -/
def remaining : List (List Sample) :=
  match action with
  | .attach _ => chronicle.loose ++ [[]]
  | .reset place _ _ => chronicle.loose.set place []
  | .add place _ _ _ | .merge place _ =>
    chronicle.loose.set place (chronicle.kept ensemble action place)
  | .drop place _ => chronicle.loose.eraseIdx place
  | _ => chronicle.loose

/-- The samples that an action folds into a kind: what is offered, if the total of the kind
grows. -/
def taken (kind : Kind) : List Sample :=
  if ((ensemble.step action).2.hub.accounts.get kind).total =
      (ensemble.hub.accounts.get kind).total then []
  else action.offers chronicle.loose

/-- The samples after an action, but for the line that it may cause. -/
def folded : Chronicle :=
  { chronicle with
    loose := chronicle.remaining ensemble action
    fresh := fun kind => chronicle.fresh kind ++ chronicle.taken ensemble action kind }

/-- A line shows what is fresh. -/
def turned (line : Line) : Chronicle :=
  { chronicle with
    fresh := fun _ => []
    shown := fun kind => chronicle.shown kind ++ chronicle.fresh kind
    lines := chronicle.lines ++ [line] }

def step : Chronicle :=
  match Ensemble.lineIn (ensemble.step action).1 with
  | none => chronicle.folded ensemble action
  | some emission => (chronicle.folded ensemble action).turned emission.line

/-- The chronicle after a history. -/
def run (chronicle : Chronicle) (ensemble : Ensemble) : List Action → Chronicle
  | [] => chronicle
  | action :: actions => (chronicle.step ensemble action).run (ensemble.step action).2 actions

/-- The accounts agree with the samples. -/
structure Tells : Prop where
  loose : List.Forall₂ Recorder.Holds ensemble.recorders chronicle.loose
  hub : ∀ kind, (ensemble.hub.accounts.get kind).Shows (chronicle.shown kind)
    (chronicle.fresh kind)

/-- What an action does, but for the line that it may cause. -/
structure Moves : Prop where
  hub : ∃ mid, ensemble.hub.Takes (action.offers chronicle.loose) mid ∧
    mid.Closes (Ensemble.lineIn (ensemble.step action).1) (ensemble.step action).2.hub
  loose : List.Forall₂ Recorder.Holds (ensemble.step action).2.recorders
    (chronicle.remaining ensemble action)

variable {chronicle ensemble action}

theorem silent_moves (hub : (ensemble.step action).2.hub.accounts = ensemble.hub.accounts)
    (line : Ensemble.lineIn (ensemble.step action).1 = none)
    (loose : List.Forall₂ Recorder.Holds (ensemble.step action).2.recorders
      (chronicle.remaining ensemble action)) : chronicle.Moves ensemble action where
  hub := ⟨ensemble.hub, .nothing rfl, line ▸ .silent hub⟩
  loose := loose

variable {place : Nat}
  {operation : Recorder → Hub → Except Panic (Option Emission) × Recorder × Hub}

theorem missing_moves (loose : List.Forall₂ Recorder.Holds ensemble.recorders chronicle.loose)
    (missing : ensemble.recorders[place]? = none)
    (steps : ensemble.step action = ensemble.atPlace place operation)
    (remains : chronicle.remaining ensemble action =
      chronicle.loose.set place (chronicle.kept ensemble action place)) :
    chronicle.Moves ensemble action := by
  rw [Ensemble.atPlace_of_none missing] at steps
  have none := forall₂_missing loose missing
  apply silent_moves
  · rw [steps]
  · rw [steps]
    rfl
  · rw [steps, remains, List.set_eq_of_length_le (List.getElem?_eq_none_iff.mp none)]
    exact loose

theorem delivers_moves {recorder : Recorder} {account : Account} {past : List Sample}
    (loose : List.Forall₂ Recorder.Holds ensemble.recorders chronicle.loose)
    (found : ensemble.recorders[place]? = some recorder)
    (steps : ensemble.step action = ensemble.atPlace place operation)
    (remains : chronicle.remaining ensemble action =
      chronicle.loose.set place (chronicle.kept ensemble action place))
    (divided : account.Divided past (action.offers chronicle.loose))
    (delivers : Recorder.Delivers ensemble.hub account (action.offers chronicle.loose)
      (emission? (operation recorder ensemble.hub).1) (operation recorder ensemble.hub).2.2
      (operation recorder ensemble.hub).2.1) : chronicle.Moves ensemble action := by
  obtain ⟨inside, _⟩ := List.getElem?_eq_some_iff.mp found
  rw [Ensemble.atPlace_of_some found] at steps
  have holds := delivers.holds divided
  refine ⟨?_, ?_⟩
  · rw [steps, Ensemble.lineIn_map]
    exact delivers.hub
  · rw [remains, kept, steps, List.getElem?_set_self inside, Option.any_some]
    exact forall₂_set loose place holds

theorem fits_atPlace {recorder : Recorder} (fits : ensemble.Fits action)
    (found : ensemble.recorders[place]? = some recorder)
    (steps : ensemble.step action = ensemble.atPlace place operation) :
    (operation recorder ensemble.hub).1 ≠ .error .overflow := by
  intro overflow
  unfold Ensemble.Fits at fits
  rw [steps, Ensemble.atPlace_of_some found, overflow] at fits
  exact fits rfl

theorem drop_moves {now : Nat}
    (loose : List.Forall₂ Recorder.Holds ensemble.recorders chronicle.loose) :
    chronicle.Moves ensemble (.drop place now) := by
  rcases found : ensemble.recorders[place]? with _ | recorder
  · have steps : ensemble.step (.drop place now) = (.ok .done, ensemble) := by
      simp only [Ensemble.step, found]
    have none := forall₂_missing loose found
    apply silent_moves
    · rw [steps]
    · rw [steps]
      rfl
    · rw [steps, remaining, List.eraseIdx_of_length_le (List.getElem?_eq_none_iff.mp none)]
      exact loose
  · have steps : ensemble.step (.drop place now) =
        ((recorder.drop ensemble.hub now).1.map .line,
          ⟨(recorder.drop ensemble.hub now).2, ensemble.recorders.eraseIdx place⟩) := by
      simp only [Ensemble.step, found]
    refine ⟨?_, ?_⟩
    · rw [steps, Ensemble.lineIn_map]
      exact ensemble.hub.detach_closes recorder.epoch now
    · rw [steps]
      exact forall₂_eraseIdx loose place

theorem Tells.moves (tells : chronicle.Tells ensemble) (fits : ensemble.Fits action) :
    chronicle.Moves ensemble action := by
  cases action with
  | enable kind =>
      refine ⟨?_, tells.loose⟩
      change ∃ mid, _ ∧ Hub.Closes mid none (ensemble.hub.enable kind)
      unfold Hub.enable
      split
      · exact ⟨ensemble.hub, .nothing rfl, .silent rfl⟩
      · next disabled =>
        exact ⟨_, .opened (Bool.not_eq_true _ ▸ disabled) rfl, .silent rfl⟩
  | mirror writer => exact silent_moves rfl rfl tells.loose
  | summarize kind => exact silent_moves rfl rfl tells.loose
  | checkpoint now => exact ⟨Hub.tryLine_closes ensemble.hub now, tells.loose⟩
  | finish now => exact ⟨⟨ensemble.hub, .nothing rfl, .line now⟩, tells.loose⟩
  | attach now =>
      have clean : (Recorder.new ensemble.hub now).1.Holds [] := ⟨[], Account.divided_new false⟩
      exact silent_moves rfl rfl (List.rel_append tells.loose (.cons clean .nil))
  | count place => exact silent_moves rfl rfl tells.loose
  | reset place kind now =>
      have remains : chronicle.remaining ensemble (.reset place kind now) =
          chronicle.loose.set place (chronicle.kept ensemble (.reset place kind now) place) := by
        simp [remaining, kept, Action.offers]
      have steps : ensemble.step (.reset place kind now) = ensemble.atPlace place
          fun recorder hub => (.ok none, recorder.reset kind now, hub) := rfl
      rcases found : ensemble.recorders[place]? with _ | recorder
      · exact missing_moves tells.loose found steps remains
      · exact delivers_moves tells.loose found steps remains
          (Account.divided_new Account.new.enabled) (.nothing rfl)
  | add place start now volume =>
      have steps : ensemble.step (.add place start now volume) = ensemble.atPlace place
          fun recorder hub => recorder.add hub start now volume := rfl
      rcases found : ensemble.recorders[place]? with _ | recorder
      · exact missing_moves tells.loose found steps rfl
      · obtain ⟨samples, held, past, divided⟩ := forall₂_found tells.loose found
        have offers : Action.offers chronicle.loose (.add place start now volume) =
            samples ++ [⟨start, now, volume⟩] := by
          rw [Action.offers, held]
          rfl
        have delivers := @Recorder.add_delivers ensemble.hub recorder past samples
          ⟨start, now, volume⟩ divided (fits_atPlace fits found steps)
        rw [← offers] at delivers
        exact delivers_moves tells.loose found steps rfl (offers ▸ divided.recorded _) delivers
  | merge place now =>
      have steps : ensemble.step (.merge place now) = ensemble.atPlace place
          fun recorder hub => recorder.merge hub now := rfl
      rcases found : ensemble.recorders[place]? with _ | recorder
      · exact missing_moves tells.loose found steps rfl
      · obtain ⟨samples, held, past, divided⟩ := forall₂_found tells.loose found
        have offers : Action.offers chronicle.loose (.merge place now) = samples := by
          rw [Action.offers, held]
          rfl
        rw [← offers] at divided
        exact delivers_moves tells.loose found steps rfl divided
          (Recorder.merge_delivers divided (fits_atPlace fits found steps))
  | drop place now => exact drop_moves tells.loose

/-- Before its line, an action leaves the hub with the samples that it took. -/
theorem Tells.closes (tells : chronicle.Tells ensemble) (fits : ensemble.Fits action) :
    ∃ mid, ensemble.hub.Takes (action.offers chronicle.loose) mid ∧
      mid.Closes (Ensemble.lineIn (ensemble.step action).1) (ensemble.step action).2.hub ∧
      ∀ kind, (mid.accounts.get kind).Shows (chronicle.shown kind)
        ((chronicle.folded ensemble action).fresh kind) := by
  obtain ⟨mid, takes, closes⟩ := (tells.moves fits).hub
  refine ⟨mid, takes, closes, fun kind => ?_⟩
  have shows := takes.shows tells.hub kind
  rw [← closes.total kind] at shows
  exact shows

theorem Tells.step (tells : chronicle.Tells ensemble) (fits : ensemble.Fits action) :
    (chronicle.step ensemble action).Tells (ensemble.step action).2 := by
  have loose := (tells.moves fits).loose
  obtain ⟨mid, _, closes, shows⟩ := tells.closes fits
  constructor
  · unfold Chronicle.step
    split
    · exact loose
    · exact loose
  · unfold Chronicle.step
    generalize Ensemble.lineIn (ensemble.step action).1 = emission at closes ⊢
    generalize (ensemble.step action).2.hub = next at closes ⊢
    cases closes with
    | silent accounts =>
        intro kind
        rw [accounts]
        exact shows kind
    | line now => exact Hub.emit_shows now shows

theorem start_tells (interval now : Nat) : start.Tells (Ensemble.new interval now) where
  loose := .nil
  hub kind := by
    change Account.Shows ((PerKind.replicate .new).get kind) [] []
    rw [PerKind.get_replicate]
    exact ⟨Account.divided_new false, rfl, rfl, fun _ => ⟨rfl, rfl⟩⟩

end Chronicle

end StoreBench.Latency
