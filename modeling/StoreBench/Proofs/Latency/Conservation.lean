import StoreBench.Proofs.Latency.Gauge

/-! No sample is lost, and none is counted twice.

Careful workers leave a log, and the books agree with it at any time: what the hub was given and
what the recorders hold loose is what one account would hold that recorded every sample itself.
So the totals of a history depend on its samples only, and not on who recorded them, in which
order, or when they were folded.
-/

namespace StoreBench.Latency

namespace Ensemble.Effect

variable {allowed : Account → Sample → Prop} {ensemble next : Ensemble}
  {log entries : List (Option Kind × Sample)}

theorem enabled (effect : Effect allowed ensemble next entries) {kind : Kind}
    (before : (ensemble.hub.accounts.get kind).enabled = true) :
    (next.hub.accounts.get kind).enabled = true := by
  cases effect with
  | moved _ _ _ _ turned => exact (turned kind).enabled.trans before
  | @opened fresh same disabled accounts =>
      rw [accounts]
      by_cases chosen : kind = fresh
      · rw [chosen, PerKind.get_set_self]
      · rwa [PerKind.get_set_of_ne _ _ (Ne.symm chosen)]
  | posted _ _ _ _ posted =>
      cases posted with
      | held _ accounts _ => rwa [accounts]
      | @folded _ chosen of _ taken others _ =>
          by_cases chose : kind = chosen
          · subst chose
            exact taken.enabled.trans before
          · exact (others kind chose).enabled.trans before

theorem tame (effect : Effect allowed ensemble next entries)
    (before : ∀ kind, (ensemble.hub.accounts.get kind).pastLeast ≤ never) (kind : Kind) :
    (next.hub.accounts.get kind).pastLeast ≤ never := by
  have kept {left right : Account} (turned : Turned left right)
      (low : left.pastLeast ≤ never) : right.pastLeast ≤ never := by
    rcases turned with rfl | rfl
    · exact low
    · exact Nat.le_trans (Nat.min_le_left _ _) low
  cases effect with
  | moved _ _ _ _ turned => exact kept (turned kind) (before kind)
  | @opened fresh same disabled accounts =>
      rw [accounts]
      by_cases chosen : kind = fresh
      · rw [chosen, PerKind.get_set_self]
        exact Nat.le_refl _
      · rw [PerKind.get_set_of_ne _ _ (Ne.symm chosen)]
        exact before kind
  | posted _ _ _ _ posted =>
      cases posted with
      | held _ accounts _ =>
          rw [accounts]
          exact before kind
      | @folded _ chosen of _ taken others _ =>
          by_cases chose : kind = chosen
          · subst chose
            exact kept taken (before kind)
          · exact kept (others kind chose) (before kind)

theorem split (effect : Effect allowed ensemble next entries)
    (before : ∀ recorder ∈ ensemble.recorders, recorder.account.Split) :
    ∀ recorder ∈ next.recorders, recorder.account.Split := by
  intro one member
  cases effect with
  | moved held holds settled clean turned =>
      rw [holds, List.append_assoc, List.mem_append, List.mem_append] at member
      rcases member with member | member | member
      · exact before one (by simp [held, member])
      · rw [clean one member]
        exact Account.split_new
      · exact before one (by simp [held, member])
  | opened same _ _ => exact before one (same ▸ member)
  | @posted _ _ recorder told entry held holds _ _ posted =>
      rw [holds, List.mem_append, List.mem_cons] at member
      rcases member with member | rfl | member
      · exact before one (by simp [held, member])
      · have own := (before recorder (by simp [held])).entered entry
        cases posted with
        | held _ _ account =>
            rw [account]
            exact own
        | folded _ _ _ _ _ account =>
            rw [account]
            exact Account.split_roll _
      · exact before one (by simp [held, member])

theorem backed (effect : Effect allowed ensemble next entries)
    (before : ∀ recorder ∈ ensemble.recorders, recorder.account.pending = true →
      ∀ kind ∈ recorder.kind, (ensemble.hub.accounts.get kind).enabled = true) :
    ∀ recorder ∈ next.recorders, recorder.account.pending = true →
      ∀ kind ∈ recorder.kind, (next.hub.accounts.get kind).enabled = true := by
  intro one member pending kind same
  have still {other : Recorder} (inside : other ∈ ensemble.recorders)
      (loose : other.account.pending = true) (of : kind ∈ other.kind) :
      (next.hub.accounts.get kind).enabled = true :=
    effect.enabled (before other inside loose kind of)
  cases effect with
  | moved held holds settled clean turned =>
      rw [holds, List.append_assoc, List.mem_append, List.mem_append] at member
      rcases member with member | member | member
      · exact still (by simp [held, member]) pending same
      · rw [clean one member] at pending
        cases pending
      · exact still (by simp [held, member]) pending same
  | opened unchanged _ _ => exact still (unchanged ▸ member) pending same
  | @posted _ _ recorder told entry held holds admitted open' posted =>
      rw [holds, List.mem_append, List.mem_cons] at member
      rcases member with member | rfl | member
      · exact still (by simp [held, member]) pending same
      · cases posted with
        | held of accounts account =>
            rw [account] at pending
            rw [of] at same
            cases entry with
            | none => exact still (by simp [held]) pending same
            | some sample =>
                rw [accounts]
                exact open' (by simp) kind same
        | folded _ _ _ _ _ account =>
            have settled : one.account.pending = false := by
              rw [account]
              simp [Account.pending, Account.roll]
            rw [settled] at pending
            cases pending
      · exact still (by simp [held, member]) pending same

theorem session (effect : Effect allowed ensemble next entries)
    (before : ∀ recorder ∈ ensemble.recorders, ∃ rest, recorder.account.total + rest =
      (Content.ofSamples (samplesOf recorder.kind log)).tally) :
    ∀ recorder ∈ next.recorders, ∃ rest, recorder.account.total + rest =
      (Content.ofSamples (samplesOf recorder.kind (log ++ entries))).tally := by
  intro one member
  have longer {other : Recorder} (inside : other ∈ ensemble.recorders) :
      ∃ rest, other.account.total + rest =
        (Content.ofSamples (samplesOf other.kind (log ++ entries))).tally := by
    obtain ⟨rest, whole⟩ := before other inside
    rw [samplesOf_append, Content.ofSamples_append, Content.tally_add, ← whole, add_assoc]
    exact ⟨_, rfl⟩
  cases effect with
  | moved held holds settled clean turned =>
      rw [holds, List.append_assoc, List.mem_append, List.mem_append] at member
      rcases member with member | member | member
      · exact longer (by simp [held, member])
      · rw [clean one member]
        exact ⟨_, zero_add _⟩
      · exact longer (by simp [held, member])
  | opened same _ _ => exact longer (same ▸ member)
  | @posted _ _ recorder told entry held holds _ _ posted =>
      rw [holds, List.mem_append, List.mem_cons] at member
      rcases member with member | rfl | member
      · exact longer (by simp [held, member])
      · obtain ⟨rest, whole⟩ := before recorder (by simp [held])
        have entered : (recorder.account.entered entry).total + rest =
            (Content.ofSamples (samplesOf recorder.kind
              (log ++ entry.toList.map (recorder.kind, ·)))).tally := by
          rw [samplesOf_append, Content.ofSamples_append, Content.tally_add, ← whole,
            samplesOf_self, Account.total_entered, add_right_comm]
        cases posted with
        | held of _ account =>
            rw [of, account]
            exact ⟨rest, entered⟩
        | folded of _ _ _ _ account =>
            rw [of, account]
            exact ⟨rest, entered⟩
      · exact longer (by simp [held, member])

end Ensemble.Effect

/-- The books agree with the log. -/
structure Books (log : List (Option Kind × Sample)) (ensemble : Ensemble) : Prop where
  attendance : Attendance ensemble.hub ensemble.epochs
  split : ∀ recorder ∈ ensemble.recorders, recorder.account.Split
  session : ∀ recorder ∈ ensemble.recorders, ∃ rest, recorder.account.total + rest =
    (Content.ofSamples (samplesOf recorder.kind log)).tally
  backed : ∀ recorder ∈ ensemble.recorders, recorder.account.pending = true →
    ∀ kind ∈ recorder.kind, (ensemble.hub.accounts.get kind).enabled = true
  tame : ∀ kind, (ensemble.hub.accounts.get kind).pastLeast ≤ never
  balanced : Balanced .content log ensemble

/-- The sums of all samples of a kind fit, for every kind. -/
def Fitting (log : List (Option Kind × Sample)) : Prop :=
  ∀ kind : Option Kind, (Content.ofSamples (samplesOf kind log)).tally.Fits

instance (log : List (Option Kind × Sample)) : Decidable (Fitting log) :=
  decidable_of_iff ((Content.ofSamples (samplesOf none log)).tally.Fits ∧
    ∀ kind ∈ Kind.all, (Content.ofSamples (samplesOf (some kind) log)).tally.Fits) <| by
    constructor
    · intro both kind
      obtain ⟨unassigned, assigned⟩ := both
      rcases kind with _ | kind
      · exact unassigned
      · exact assigned kind (Kind.mem_all kind)
    · intro fits
      exact ⟨fits none, fun kind _ => fits (some kind)⟩

theorem Fitting.left {earlier later : List (Option Kind × Sample)}
    (fits : Fitting (earlier ++ later)) : Fitting earlier := by
  intro kind
  have whole := fits kind
  rw [samplesOf_append, Content.ofSamples_append, Content.tally_add] at whole
  exact whole.left

theorem Gauge.held_of_mem {M : Type} [AddCommMonoid M] (gauge : Gauge M)
    {recorders : List Recorder} {recorder : Recorder} {kind : Kind}
    (member : recorder ∈ recorders) (of : recorder.kind = some kind) :
    ∃ rest, gauge.held recorders kind = gauge.loose recorder.account + rest := by
  obtain ⟨before, after, rfl⟩ := List.append_of_mem member
  rw [held_append, held_cons, if_pos of, add_left_comm]
  exact ⟨_, rfl⟩

namespace Books

variable {ensemble : Ensemble} {log : List (Option Kind × Sample)}

theorem start (interval now : Nat) : Books [] (Ensemble.new interval now) where
  attendance := (Ensemble.new_sound interval now).attendance
  split _ member := by cases member
  session _ member := by cases member
  backed _ member := by cases member
  tame kind := by
    change ((PerKind.replicate Account.new).get kind).pastLeast ≤ never
    rw [PerKind.get_replicate]
    exact Nat.le_refl _
  balanced := Balanced.start .content interval now

theorem room (books : Books log ensemble) {entries : List (Option Kind × Sample)}
    (fits : Fitting (log ++ entries)) : ensemble.Room entries := by
  intro recorder member entry same
  have logged := fits recorder.kind
  rw [same, samplesOf_append, samplesOf_self, Content.ofSamples_append, Content.tally_add]
    at logged
  constructor
  · obtain ⟨rest, whole⟩ := books.session recorder member
    rw [← whole, add_right_comm] at logged
    exact logged.left
  · intro kind of
    obtain ⟨rest, held⟩ := Gauge.content.held_of_mem member of
    have balance := books.balanced.balance kind
    rw [held, ← add_assoc] at balance
    have sums : (ensemble.hub.accounts.get kind).total + recorder.account.unflushed + rest.tally =
        (Content.ofSamples (samplesOf (some kind) log)).tally := congrArg Content.tally balance
    rw [show recorder.kind = some kind from of, ← sums, add_right_comm] at logged
    rw [← add_assoc]
    exact logged.left

theorem step {allowed : Account → Sample → Prop} {action : Action}
    (books : Books log ensemble) (careful : ensemble.Careful action)
    (admits : ensemble.Admits allowed action) (fits : Fitting (log ++ ensemble.logged action)) :
    (∃ answer, (ensemble.step action).1 = .ok answer) ∧
      Books (log ++ ensemble.logged action) (ensemble.step action).2 ∧
      Ensemble.Effect allowed ensemble (ensemble.step action).2 (ensemble.logged action) := by
  have room := books.room fits
  obtain ⟨succeeds, effect⟩ := Ensemble.step_effect books.attendance careful admits books.split
    books.backed room
  obtain ⟨_, plain⟩ := Ensemble.step_effect books.attendance careful
    (Gauge.content_admits ensemble action) books.split books.backed room
  exact ⟨succeeds,
    { attendance := Ensemble.step_attendance books.attendance careful
      split := effect.split books.split
      session := effect.session books.session
      backed := effect.backed books.backed
      tame := effect.tame books.tame
      balanced := books.balanced.effect books.split plain }, effect⟩

theorem run {M : Type} [AddCommMonoid M] (gauge : Gauge M) {actions : List Action}
    (books : Books log ensemble) (balanced : Balanced gauge log ensemble)
    (careful : ensemble.Follows Ensemble.Careful actions)
    (admits : ensemble.Follows (Ensemble.Admits gauge.admits) actions)
    (fits : Fitting (log ++ ensemble.log actions)) :
    Books (log ++ ensemble.log actions) (ensemble.run actions) ∧
      Balanced gauge (log ++ ensemble.log actions) (ensemble.run actions) := by
  induction actions generalizing ensemble log with
  | nil =>
      rw [Ensemble.log, List.append_nil]
      exact ⟨books, balanced⟩
  | cons action actions ih =>
      obtain ⟨allowed, careful⟩ := careful
      obtain ⟨admitted, admits⟩ := admits
      rw [Ensemble.log, ← List.append_assoc] at fits ⊢
      obtain ⟨_, next, effect⟩ := books.step allowed admitted fits.left
      exact ih next (balanced.effect books.split effect) careful admits fits

end Books

/-- Records samples one after the other, up to a panic. -/
def Account.recordAll (account : Account) : List Sample → Except Panic Unit × Account
  | [] => (.ok (), account)
  | sample :: samples =>
    match account.record sample.start sample.now sample.volume with
    | (.error panic, account) => (.error panic, account)
    | (.ok (), account) => account.recordAll samples

theorem Account.recordAll_of_fits {account : Account} {samples : List Sample}
    (split : account.Split) (fits : (account.total + (Content.ofSamples samples).tally).Fits) :
    ∃ after, account.recordAll samples = (.ok (), after) ∧
      after.loose = account.loose + Content.ofSamples samples := by
  induction samples generalizing account with
  | nil => exact ⟨account, rfl, (add_zero _).symm⟩
  | cons sample samples ih =>
      rw [Content.ofSamples_cons, Content.tally_add, ← add_assoc] at fits
      obtain ⟨after, result, loose⟩ := @ih (account.recorded sample)
        (split.split_recorded sample) fits
      refine ⟨after, ?_, ?_⟩
      · rw [recordAll, record_of_fits (Tally.Fits.left fits)]
        exact result
      · rw [loose, split.loose_recorded, Content.ofSamples_cons, add_assoc]

/-- Everything but the throughput, which depends on when the samples were taken. -/
def Summary.untimed (summary : Summary) : Summary :=
  { summary with throughput := 0 }

theorem Hub.summary?_congr {left right : Hub} {kind : Kind}
    (same : (left.accounts.get kind).kept = (right.accounts.get kind).kept)
    (tameLeft : (left.accounts.get kind).pastLeast ≤ never)
    (tameRight : (right.accounts.get kind).pastLeast ≤ never)
    (closedLeft : (left.accounts.get kind).enabled = false → (left.accounts.get kind).kept = 0)
    (closedRight : (right.accounts.get kind).enabled = false →
      (right.accounts.get kind).kept = 0) :
    (left.summary? kind).map Summary.untimed = (right.summary? kind).map Summary.untimed ∧
      ((left.accounts.get kind).span = (right.accounts.get kind).span →
        left.summary? kind = right.summary? kind) := by
  unfold summary?
  generalize left.accounts.get kind = ours at *
  generalize right.accounts.get kind = theirs at *
  have total : ours.total = theirs.total := congrArg Content.tally same
  have least : min ours.pastLeast ours.least = min theirs.pastLeast theirs.least := by
    have minima : min never (min ours.pastLeast ours.least) =
        min never (min theirs.pastLeast theirs.least) := congrArg Content.least same
    omega
  have greatest : max ours.pastGreatest ours.greatest =
      max theirs.pastGreatest theirs.greatest := congrArg Content.greatest same
  have buckets : ours.buckets = theirs.buckets := congrArg Content.buckets same
  have bins : ours.bins = theirs.bins := congrArg Content.bins same
  have counts (account : Account) (empty : account.kept = 0) : account.total.count = 0 :=
    congrArg (·.tally.count) empty
  by_cases none : theirs.total.count = 0
  · simp [total, none]
  · have open' : theirs.enabled = true := by
      rw [← Bool.not_eq_false]
      exact fun disabled => none (counts theirs (closedRight disabled))
    have open'' : ours.enabled = true := by
      rw [← Bool.not_eq_false]
      exact fun disabled => none (total ▸ counts ours (closedLeft disabled))
    simp only [open', open'', none, total, least, greatest, bins, Account.bucketCounts, buckets,
      Bool.not_true, decide_false, Bool.or_self, Bool.false_eq_true, if_false, Option.map_some,
      Summary.untimed, true_and]
    intro span
    have opened : ours.opened = theirs.opened := congrArg Span.opened span
    have closed : ours.closed = theirs.closed := congrArg Span.closed span
    simp only [Account.wall, opened, closed]

/-- Something that happened at one hub. -/
structure History where
  interval : Nat
  start : Nat
  actions : List Action

namespace History

def books (history : History) : Ensemble :=
  (Ensemble.new history.interval history.start).run history.actions

def log (history : History) : List (Option Kind × Sample) :=
  (Ensemble.new history.interval history.start).log history.actions

/-- The samples of a kind, in the order in which they were recorded. -/
def samples (history : History) (kind : Kind) : List Sample :=
  samplesOf (some kind) history.log

def Careful (history : History) : Prop :=
  (Ensemble.new history.interval history.start).Follows Ensemble.Careful history.actions

/-- Every recorder takes its samples in clock order. -/
def Timely (history : History) : Prop :=
  (Ensemble.new history.interval history.start).Follows
    (Ensemble.Admits Account.InClockOrder) history.actions

def Merged (history : History) (kind : Kind) : Prop :=
  ∀ recorder ∈ history.books.recorders, recorder.kind = some kind →
    recorder.account.pending = false

/-- What the live recorders of a kind have not flushed. -/
def loose (history : History) (kind : Kind) : Content :=
  ((history.books.recorders.filter (·.kind = some kind)).map (·.account.loose)).sum

/-- The hub and the recorders have exactly the samples of the log, and nothing else matters to the
summaries. -/
structure Conserved (history : History) : Prop where
  single : ∀ kind, ∃ account, Account.new.recordAll (history.samples kind) = (.ok (), account) ∧
    (history.books.hub.accounts.get kind).kept + history.loose kind = account.loose
  succeeds : ∀ action, history.books.Careful action →
    Fitting (history.log ++ history.books.logged action) →
    ∃ answer, (history.books.step action).1 = .ok answer
  summary : ∀ other : History, other.Careful → Fitting other.log →
    ∀ kind, (history.samples kind).Perm (other.samples kind) →
      history.Merged kind → other.Merged kind →
        (history.books.hub.summary? kind).map Summary.untimed =
          (other.books.hub.summary? kind).map Summary.untimed
  timed : ∀ other : History, other.Careful → Fitting other.log →
    ∀ kind, (history.samples kind).Perm (other.samples kind) →
      history.Merged kind → other.Merged kind → history.Timely → other.Timely →
        history.books.hub.summary? kind = other.books.hub.summary? kind

instance (history : History) : Decidable history.Careful :=
  inferInstanceAs (Decidable (Ensemble.Follows _ _ _))

instance (history : History) : Decidable history.Timely :=
  inferInstanceAs (Decidable (Ensemble.Follows _ _ _))

instance (history : History) (kind : Kind) : Decidable (history.Merged kind) :=
  inferInstanceAs (Decidable (∀ _ ∈ _, _ → _))

theorem balanced {history : History} {M : Type} [AddCommMonoid M] (gauge : Gauge M)
    (careful : history.Careful) (fits : Fitting history.log)
    (admits : (Ensemble.new history.interval history.start).Follows
      (Ensemble.Admits gauge.admits) history.actions) :
    Books history.log history.books ∧ Balanced gauge history.log history.books :=
  (Books.start history.interval history.start).run gauge
    (Balanced.start gauge history.interval history.start) careful admits fits

theorem Merged.kept {history : History} {kind : Kind} (merged : history.Merged kind) {M : Type}
    [AddCommMonoid M] {gauge : Gauge M} (balanced : Balanced gauge history.log history.books) :
    gauge.kept (history.books.hub.accounts.get kind) =
      ((history.samples kind).map gauge.sample).sum := by
  rw [samples, ← balanced.balance kind, gauge.held_settled]
  exact fun recorder member same =>
    balanced.settled recorder member (merged recorder member same) kind same

/-- However samples are spread over careful recorders and folded, none is lost and none is counted
twice: the hub and the live recorders of a kind hold, at any time, what a single account that
recorded them all would hold.  So histories with the same samples of a kind end with the same
summary once everything is folded, and with the same throughput too if their recorders took them
in clock order. -/
theorem samples_conserved (history : History) (careful : history.Careful)
    (fits : Fitting history.log) : history.Conserved := by
  have content {one : History} (careful : one.Careful) (fits : Fitting one.log) :=
    one.balanced .content careful fits (Ensemble.follows_of_forall Gauge.content_admits _ _)
  obtain ⟨books, counted⟩ := content careful fits
  have agree (other : History) (heeds : other.Careful) (suits : Fitting other.log) (kind : Kind)
      (same : (history.samples kind).Perm (other.samples kind)) (merged : history.Merged kind)
      (mergedToo : other.Merged kind) :=
    have ⟨theirs, theirCount⟩ := content heeds suits
    Hub.summary?_congr
      (by
        have sums := (same.map Content.ofSample).sum_eq
        exact (merged.kept counted).trans (sums.trans (mergedToo.kept theirCount).symm))
      (books.tame kind) (theirs.tame kind) (counted.closed kind) (theirCount.closed kind)
  refine
    { single := ?_
      succeeds := fun action allowed suits =>
        (books.step allowed (Gauge.content_admits _ action) suits).1
      summary := fun other heeds suits kind same merged mergedToo =>
        (agree other heeds suits kind same merged mergedToo).1
      timed := ?_ }
  · intro kind
    have own := fits (some kind)
    obtain ⟨account, recorded, loose⟩ := @Account.recordAll_of_fits .new (history.samples kind)
      Account.split_new (by rw [show Account.new.total = 0 from rfl, zero_add]; exact own)
    refine ⟨account, recorded, ?_⟩
    rw [loose, Account.loose_new, zero_add]
    exact counted.balance kind
  · intro other heeds suits kind same merged mergedToo timely timelyToo
    refine (agree other heeds suits kind same merged mergedToo).2 ?_
    obtain ⟨_, spans⟩ := history.balanced .span careful fits timely
    obtain ⟨_, theirSpans⟩ := other.balanced .span heeds suits timelyToo
    have sums := (same.map Gauge.span.sample).sum_eq
    exact (merged.kept spans).trans (sums.trans (mergedToo.kept theirSpans).symm)

/-- Two workers fold four samples in their own time; the last fold completes an epoch, and
another line is forced in the end. -/
def spread : History :=
  ⟨1000, 0, [.enable .set, .attach 0, .attach 0, .reset 0 .set 0, .reset 1 .set 0, .add 0 0 5 1,
    .add 1 2 12 2, .merge 0 13, .add 0 14 15 3, .add 1 13 1040 4, .merge 0 1041,
    .reset 0 .get 1042, .drop 1 1043, .finish 1044]⟩

/-- One worker records the same samples and folds them once. -/
def gathered : History :=
  ⟨5000, 0, [.enable .set, .attach 0, .reset 0 .set 0, .add 0 0 5 1, .add 0 2 12 2, .add 0 14 15 3,
    .add 0 13 1040 4, .merge 0 1041]⟩

theorem samples_conserved_spread :
    (spread.Careful ∧ Fitting spread.log ∧ spread.Conserved) ∧
      spread.books.hub.summary? .set = gathered.books.hub.summary? .set := by
  have careful : spread.Careful := by decide +kernel
  have fits : Fitting spread.log := by decide +kernel
  have conserved := samples_conserved spread careful fits
  refine ⟨⟨careful, fits, conserved⟩, ?_⟩
  refine conserved.timed gathered (by decide +kernel) (by decide +kernel) .set ?_
    (by decide +kernel) (by decide +kernel) (by decide +kernel) (by decide +kernel)
  decide +kernel

end History

end StoreBench.Latency
