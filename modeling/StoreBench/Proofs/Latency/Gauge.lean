import Mathlib.Tactic.Abel
import StoreBench.Proofs.Latency.Posting

/-! Measuring the books.

A gauge measures samples by something that adds up, and reads off an account what the account has
ever been given and what it still holds loose.  What the hub was given and what the recorders hold
loose is then, at any time, the measure of all samples in the log.  The content is one gauge; the
span from the first start to the last end is another, as long as samples come in clock order.
-/

namespace StoreBench.Latency

structure Gauge (M : Type) [AddCommMonoid M] where
  sample : Sample → M
  kept : Account → M
  loose : Account → M
  admits : Account → Sample → Prop
  kept_new : ∀ enabled, kept { Account.new with enabled := enabled } = 0
  loose_new : loose .new = 0
  kept_turnPage : ∀ account, kept account.turnPage = kept account
  kept_folded : ∀ account source, kept (account.folded source) = kept account + loose source
  loose_recorded : ∀ account new, account.Split → admits account new →
    loose (account.recorded new) = loose account + sample new
  absorbed : ∀ account source,
    kept account + loose source + loose source.roll = kept account + loose source

namespace Gauge

/-- The content of accounts. -/
def content : Gauge Content where
  sample := .ofSample
  kept := Account.kept
  loose := Account.loose
  admits _ _ := True
  kept_new := Account.kept_new
  loose_new := Account.loose_new
  kept_turnPage := Account.kept_turnPage
  kept_folded := Account.kept_folded
  loose_recorded _ _ split _ := split.loose_recorded _
  absorbed account source := by rw [Account.loose_roll, add_zero]

theorem content_admits (ensemble : Ensemble) (action : Action) :
    ensemble.Admits content.admits action := by
  cases action with
  | add place start now volume => exact fun _ _ => trivial
  | _ => exact trivial

end Gauge

/-- The first start and the last end of some samples. -/
structure Span where
  opened : Option Nat
  closed : Option Nat

namespace Span

instance : Zero Span := ⟨none, none⟩

instance : Add Span :=
  ⟨fun left right =>
    ⟨Account.earliest left.opened right.opened, Account.latest left.closed right.closed⟩⟩

theorem add_def (left right : Span) :
    left + right =
      ⟨Account.earliest left.opened right.opened, Account.latest left.closed right.closed⟩ := rfl

private theorem earliest_assoc (a b c : Option Nat) :
    Account.earliest (Account.earliest a b) c = Account.earliest a (Account.earliest b c) := by
  cases a <;> cases b <;> cases c <;> simp [Account.earliest, Nat.min_assoc]

private theorem latest_assoc (a b c : Option Nat) :
    Account.latest (Account.latest a b) c = Account.latest a (Account.latest b c) := by
  cases a <;> cases b <;> cases c <;> simp [Account.latest, Nat.max_assoc]

private theorem earliest_comm (a b : Option Nat) :
    Account.earliest a b = Account.earliest b a := by
  cases a <;> cases b <;> simp [Account.earliest, Nat.min_comm]

private theorem latest_comm (a b : Option Nat) : Account.latest a b = Account.latest b a := by
  cases a <;> cases b <;> simp [Account.latest, Nat.max_comm]

private theorem span_zero_add (a : Span) : 0 + a = a := by
  rcases a with ⟨_ | opened, _ | closed⟩ <;> rfl

private theorem span_add_comm (a b : Span) : a + b = b + a := by
  rw [add_def, add_def, earliest_comm, latest_comm]

instance : AddCommMonoid Span where
  add_assoc a b c := by simp only [add_def, earliest_assoc, latest_assoc]
  zero_add := span_zero_add
  add_zero a := (span_add_comm a 0).trans (span_zero_add a)
  add_comm := span_add_comm
  nsmul := nsmulRec

theorem add_self (a : Span) : a + a = a := by
  rcases a with ⟨_ | opened, _ | closed⟩ <;> simp [add_def, Account.earliest, Account.latest]

end Span

namespace Account

def span (account : Account) : Span :=
  ⟨account.opened, account.closed⟩

/-- The sample starts no earlier than the first one of the account, and ends no earlier than the
last one. -/
def InClockOrder (account : Account) (sample : Sample) : Prop :=
  (∀ first ∈ account.opened, first ≤ sample.start) ∧ ∀ last ∈ account.closed, last ≤ sample.now

instance (account : Account) (sample : Sample) : Decidable (account.InClockOrder sample) :=
  inferInstanceAs (Decidable (_ ∧ _))

theorem InClockOrder.span_recorded {account : Account} {sample : Sample}
    (ordered : account.InClockOrder sample) :
    (account.recorded sample).span = account.span + ⟨some sample.start, some sample.now⟩ := by
  obtain ⟨after, last⟩ := ordered
  simp only [span, recorded, Span.add_def]
  congr 1
  · rcases first : account.opened with _ | first
    · rfl
    · simp [earliest, Nat.min_eq_left (after _ first)]
  · rcases final : account.closed with _ | final
    · rfl
    · simp [latest, Nat.max_eq_right (last _ final)]

end Account

namespace Gauge

/-- The span of accounts. -/
def span : Gauge Span where
  sample new := ⟨some new.start, some new.now⟩
  kept := Account.span
  loose := Account.span
  admits := Account.InClockOrder
  kept_new _ := rfl
  loose_new := rfl
  kept_turnPage _ := rfl
  kept_folded _ _ := rfl
  loose_recorded _ _ _ := Account.InClockOrder.span_recorded
  absorbed account source := by
    change account.span + source.span + source.span = account.span + source.span
    rw [add_assoc, Span.add_self]

variable {M : Type} [AddCommMonoid M] (gauge : Gauge M)

/-- What the recorders of a kind hold loose. -/
def held (recorders : List Recorder) (kind : Kind) : M :=
  ((recorders.filter (·.kind = some kind)).map (gauge.loose ·.account)).sum

theorem held_append (before after : List Recorder) (kind : Kind) :
    gauge.held (before ++ after) kind = gauge.held before kind + gauge.held after kind := by
  rw [held, List.filter_append, List.map_append, List.sum_append]
  rfl

theorem held_cons (recorder : Recorder) (recorders : List Recorder) (kind : Kind) :
    gauge.held (recorder :: recorders) kind =
      (if recorder.kind = some kind then gauge.loose recorder.account else 0) +
        gauge.held recorders kind := by
  by_cases same : recorder.kind = some kind
  · rw [if_pos same, held, List.filter_cons_of_pos (by simpa using same), List.map_cons,
      List.sum_cons]
    rfl
  · rw [if_neg same, zero_add, held, List.filter_cons_of_neg (by simpa using same)]
    rfl

theorem held_clean {recorders : List Recorder}
    (clean : ∀ recorder ∈ recorders, recorder.account = .new) (kind : Kind) :
    gauge.held recorders kind = 0 := by
  induction recorders with
  | nil => rfl
  | cons recorder recorders ih =>
      rw [held_cons, clean recorder List.mem_cons_self, gauge.loose_new, ite_self, zero_add]
      exact ih fun other member => clean other (List.mem_cons_of_mem _ member)

/-- Recorders that have folded everything add nothing to what the hub was given. -/
theorem held_settled {account : Account} {kind : Kind} {recorders : List Recorder}
    (settled : ∀ recorder ∈ recorders, recorder.kind = some kind →
      gauge.kept account + gauge.loose recorder.account = gauge.kept account) :
    gauge.kept account + gauge.held recorders kind = gauge.kept account := by
  induction recorders with
  | nil => exact add_zero _
  | cons recorder recorders ih =>
      have rest := ih fun other member => settled other (List.mem_cons_of_mem _ member)
      rw [held_cons, add_left_comm, rest, add_comm]
      split
      · next same => exact settled recorder List.mem_cons_self same
      · exact add_zero _

theorem kept_turned {before after : Account} (turned : Turned before after) :
    gauge.kept after = gauge.kept before := by
  rcases turned with rfl | rfl
  · rfl
  · exact gauge.kept_turnPage before

theorem loose_entered {account : Account} {entry : Option Sample} (split : account.Split)
    (admitted : ∀ sample ∈ entry, gauge.admits account sample) :
    gauge.loose (account.entered entry) =
      gauge.loose account + (entry.toList.map gauge.sample).sum := by
  cases entry with
  | none => exact (add_zero _).symm
  | some sample =>
      rw [Option.toList_some, List.map_singleton, List.sum_singleton]
      exact gauge.loose_recorded account sample split (admitted sample rfl)

end Gauge

theorem Turned.enabled {before after : Account} (turned : Turned before after) :
    after.enabled = before.enabled := by
  rcases turned with rfl | rfl
  · rfl
  · rfl

/-- The hub was given, and the recorders hold loose, exactly what the log says. -/
structure Balanced {M : Type} [AddCommMonoid M] (gauge : Gauge M)
    (log : List (Option Kind × Sample)) (ensemble : Ensemble) : Prop where
  balance : ∀ kind, gauge.kept (ensemble.hub.accounts.get kind) +
    gauge.held ensemble.recorders kind = ((samplesOf (some kind) log).map gauge.sample).sum
  settled : ∀ recorder ∈ ensemble.recorders, recorder.account.pending = false →
    ∀ kind, recorder.kind = some kind →
      gauge.kept (ensemble.hub.accounts.get kind) + gauge.loose recorder.account =
        gauge.kept (ensemble.hub.accounts.get kind)
  closed : ∀ kind, (ensemble.hub.accounts.get kind).enabled = false →
    gauge.kept (ensemble.hub.accounts.get kind) = 0

namespace Balanced

variable {M : Type} [AddCommMonoid M] {gauge : Gauge M} {log : List (Option Kind × Sample)}
  {ensemble next : Ensemble}

theorem start (gauge : Gauge M) (interval now : Nat) :
    Balanced gauge [] (Ensemble.new interval now) := by
  have blank (kind : Kind) : (Ensemble.new interval now).hub.accounts.get kind = .new :=
    PerKind.get_replicate _ _
  have nothing (kind : Kind) :
      gauge.kept ((Ensemble.new interval now).hub.accounts.get kind) = 0 := by
    rw [blank]
    exact gauge.kept_new false
  exact
    { balance := fun kind => (add_zero _).trans (nothing kind)
      settled := fun _ member => by cases member
      closed := fun kind _ => nothing kind }

/-- Where recorders come and go, what they held is with the hub. -/
theorem moved (balanced : Balanced gauge log ensemble) {before gone fresh after : List Recorder}
    (held : ensemble.recorders = before ++ gone ++ after)
    (holds : next.recorders = before ++ fresh ++ after)
    (settled : ∀ recorder ∈ gone, recorder.account.pending = false)
    (clean : ∀ recorder ∈ fresh, recorder.account = .new)
    (turned : ∀ kind, Turned (ensemble.hub.accounts.get kind) (next.hub.accounts.get kind)) :
    Balanced gauge log next where
  balance kind := by
    have passed : gauge.kept (ensemble.hub.accounts.get kind) + gauge.held gone kind =
        gauge.kept (ensemble.hub.accounts.get kind) := by
      refine gauge.held_settled ?_
      intro recorder member same
      have inside : recorder ∈ ensemble.recorders := by
        rw [held]
        exact List.mem_append_left _ (List.mem_append_right _ member)
      exact balanced.settled recorder inside (settled recorder member) kind same
    have whole := balanced.balance kind
    rw [held, Gauge.held_append, Gauge.held_append, add_assoc, add_left_comm,
      ← add_assoc (gauge.kept _), passed, add_left_comm] at whole
    rw [gauge.kept_turned (turned kind), holds, Gauge.held_append, Gauge.held_append,
      gauge.held_clean clean, add_zero]
    exact whole
  settled recorder member quiet kind same := by
    rw [gauge.kept_turned (turned kind)]
    rw [holds] at member
    rcases List.mem_append.mp member with member | member
    · rcases List.mem_append.mp member with member | member
      · exact balanced.settled recorder (by simp [held, member]) quiet kind same
      · rw [clean recorder member, gauge.loose_new, add_zero]
    · exact balanced.settled recorder (by simp [held, member]) quiet kind same
  closed kind disabled := by
    rw [gauge.kept_turned (turned kind)]
    exact balanced.closed kind ((turned kind).enabled.symm.trans disabled)

theorem opened (balanced : Balanced gauge log ensemble) {kind : Kind}
    (same : next.recorders = ensemble.recorders)
    (disabled : (ensemble.hub.accounts.get kind).enabled = false)
    (accounts : next.hub.accounts =
      ensemble.hub.accounts.set kind { Account.new with enabled := true }) :
    Balanced gauge log next := by
  have unchanged (other : Kind) : gauge.kept (next.hub.accounts.get other) =
      gauge.kept (ensemble.hub.accounts.get other) := by
    rw [accounts]
    by_cases chosen : other = kind
    · rw [chosen, PerKind.get_set_self, gauge.kept_new, balanced.closed kind disabled]
    · rw [PerKind.get_set_of_ne _ _ (Ne.symm chosen)]
  refine
    { balance := ?_
      settled := ?_
      closed := ?_ }
  · intro other
    rw [unchanged, same]
    exact balanced.balance other
  · intro recorder member quiet other chosen
    rw [unchanged]
    exact balanced.settled recorder (same ▸ member) quiet other chosen
  · intro other idle
    rw [unchanged]
    refine balanced.closed other ?_
    rw [accounts] at idle
    by_cases chosen : other = kind
    · rw [chosen]
      exact disabled
    · rwa [PerKind.get_set_of_ne _ _ (Ne.symm chosen)] at idle

/-- The log grows by the entry, in the books of its kind only. -/
theorem logged_sum (kind : Kind) (own : Option Kind) (entry : Option Sample) :
    ((samplesOf (some kind) (log ++ entry.toList.map (own, ·))).map gauge.sample).sum =
      ((samplesOf (some kind) log).map gauge.sample).sum +
        if own = some kind then (entry.toList.map gauge.sample).sum else 0 := by
  rw [samplesOf_append, List.map_append, List.sum_append]
  by_cases same : own = some kind
  · rw [same, samplesOf_self, if_pos rfl]
  · rw [samplesOf_other same, if_neg same, List.map_nil, List.sum_nil]

variable {before after : List Recorder} {recorder told : Recorder} {entry : Option Sample}

theorem held_back (balanced : Balanced gauge log ensemble) (split : recorder.account.Split)
    (held : ensemble.recorders = before ++ recorder :: after)
    (holds : next.recorders = before ++ told :: after)
    (admitted : ∀ sample ∈ entry, gauge.admits recorder.account sample)
    (kind : told.kind = recorder.kind) (accounts : next.hub.accounts = ensemble.hub.accounts)
    (account : told.account = recorder.account.entered entry) :
    Balanced gauge (log ++ entry.toList.map (recorder.kind, ·)) next where
  balance other := by
    have whole := balanced.balance other
    rw [held, Gauge.held_append, Gauge.held_cons] at whole
    rw [accounts, holds, Gauge.held_append, Gauge.held_cons, kind, account,
      gauge.loose_entered split admitted, logged_sum, ← whole]
    split
    · abel
    · abel
  settled one member quiet other same := by
    rw [accounts]
    rw [holds] at member
    rcases List.mem_append.mp member with member | member
    · exact balanced.settled one (by simp [held, member]) quiet other same
    · rcases List.mem_cons.mp member with rfl | member
      · cases entry with
        | none =>
            rw [account] at quiet ⊢
            exact balanced.settled recorder (by simp [held]) quiet other (kind ▸ same)
        | some sample =>
            rw [account] at quiet
            have pending := split.pending_recorded sample
            rw [show (recorder.account.recorded sample).pending = false from quiet] at pending
            cases pending
      · exact balanced.settled one (by simp [held, member]) quiet other same
  closed other disabled := by
    rw [accounts] at disabled ⊢
    exact balanced.closed other disabled

/-- What is folded goes over to the hub. -/
theorem folded (balanced : Balanced gauge log ensemble) (split : recorder.account.Split)
    (held : ensemble.recorders = before ++ recorder :: after)
    (holds : next.recorders = before ++ told :: after)
    (admitted : ∀ sample ∈ entry, gauge.admits recorder.account sample)
    (kind : told.kind = recorder.kind) {chosen : Kind} (of : recorder.kind = some chosen)
    (enabled : (ensemble.hub.accounts.get chosen).enabled = true)
    (taken : Turned
      ((ensemble.hub.accounts.get chosen).folded (recorder.account.entered entry))
      (next.hub.accounts.get chosen))
    (others : ∀ other, other ≠ chosen →
      Turned (ensemble.hub.accounts.get other) (next.hub.accounts.get other))
    (account : told.account = (recorder.account.entered entry).roll) :
    Balanced gauge (log ++ entry.toList.map (recorder.kind, ·)) next := by
  have given : gauge.kept (next.hub.accounts.get chosen) =
      gauge.kept (ensemble.hub.accounts.get chosen) +
        gauge.loose (recorder.account.entered entry) := by
    rw [gauge.kept_turned taken, gauge.kept_folded]
  have passed : gauge.kept (next.hub.accounts.get chosen) + gauge.loose told.account =
      gauge.kept (next.hub.accounts.get chosen) := by
    rw [given, account]
    exact gauge.absorbed _ _
  have untouched {one : Recorder} (member : one ∈ ensemble.recorders)
      (quiet : one.account.pending = false) {other : Kind} (same : one.kind = some other) :
      gauge.kept (next.hub.accounts.get other) + gauge.loose one.account =
        gauge.kept (next.hub.accounts.get other) := by
    have settled := balanced.settled one member quiet other same
    by_cases chose : other = chosen
    · subst chose
      rw [given, add_right_comm, settled]
    · rw [gauge.kept_turned (others other chose)]
      exact settled
  refine
    { balance := ?_
      settled := ?_
      closed := ?_ }
  · intro other
    have whole := balanced.balance other
    rw [held, Gauge.held_append, Gauge.held_cons] at whole
    rw [holds, Gauge.held_append, Gauge.held_cons, kind, logged_sum, ← whole]
    by_cases chose : other = chosen
    · subst chose
      simp only [of, if_true]
      rw [add_left_comm, ← add_assoc (gauge.kept _), passed, given,
        gauge.loose_entered split admitted]
      abel
    · have apart : ¬ recorder.kind = some other := by
        rw [of]
        exact fun same => chose (Option.some.inj same).symm
      rw [gauge.kept_turned (others other chose), if_neg apart, if_neg apart, if_neg apart,
        add_zero]
  · intro one member quiet other same
    rw [holds] at member
    rcases List.mem_append.mp member with member | member
    · exact untouched (by simp [held, member]) quiet same
    · rcases List.mem_cons.mp member with rfl | member
      · obtain rfl : chosen = other := Option.some.inj (of.symm.trans (kind.symm.trans same))
        exact passed
      · exact untouched (by simp [held, member]) quiet same
  · intro other disabled
    by_cases chose : other = chosen
    · subst chose
      have still : (next.hub.accounts.get other).enabled = true := taken.enabled.trans enabled
      rw [still] at disabled
      cases disabled
    · rw [gauge.kept_turned (others other chose)]
      exact balanced.closed other ((others other chose).enabled.symm.trans disabled)

/-- Every effect keeps the books balanced. -/
theorem effect (balanced : Balanced gauge log ensemble)
    (split : ∀ recorder ∈ ensemble.recorders, recorder.account.Split)
    {entries : List (Option Kind × Sample)}
    (effect : Ensemble.Effect gauge.admits ensemble next entries) :
    Balanced gauge (log ++ entries) next := by
  cases effect with
  | moved held holds settled clean turned =>
      rw [List.append_nil]
      exact balanced.moved held holds settled clean turned
  | opened same disabled accounts =>
      rw [List.append_nil]
      exact balanced.opened same disabled accounts
  | @posted before after recorder told entry held holds admitted backed posted =>
      have own := split recorder (by simp [held])
      cases posted with
      | held kind accounts account =>
          exact balanced.held_back own held holds admitted kind accounts account
      | folded kind of enabled taken others account =>
          exact balanced.folded own held holds admitted kind of enabled taken others account

end Balanced

end StoreBench.Latency
