import Mathlib.Data.List.Nodup
import StoreBench.Proofs.Latency.Chronicle

/-! The lines of a timeline.

A line has a cell for every enabled kind, with the figures of the samples that were folded since
the line before.  So the lines of a kind tell its samples in parts, one after the other, and a
summary is the sum of the lines as soon as nothing was folded since the last of them.
-/

namespace StoreBench.Latency

/-- The figures of the samples `fresh`, which come after those in `earlier`.  No latency is greater
than `never`. -/
def Figures.of (earlier fresh : List Sample) : Figures where
  samples :=
    { count := fresh.length
      latency := (fresh.map Sample.latency).sum
      squares := (fresh.map fun sample => sample.latency * sample.latency).sum
      volume := (fresh.map Sample.volume).sum }
  least := (fresh.map Sample.latency).foldr min never
  greatest := (fresh.map Sample.latency).foldr max 0
  count := (earlier ++ fresh).length

/-- The cell of a kind; without fresh samples it is empty. -/
def Cell.of (kind : Kind) (earlier fresh : List Sample) : Cell :=
  ⟨kind, if fresh = [] then none else some (Figures.of earlier fresh)⟩

namespace Content

theorem ofSamples_figures (earlier samples : List Sample) :
    (ofSamples samples).tally = (Figures.of earlier samples).samples ∧
      (ofSamples samples).least = (Figures.of earlier samples).least ∧
      (ofSamples samples).greatest = (Figures.of earlier samples).greatest := by
  induction samples with
  | nil => exact ⟨rfl, rfl, rfl⟩
  | cons sample samples ih =>
      obtain ⟨tally, least, greatest⟩ := ih
      have bound := (ofSamples samples).least_le_never
      rw [ofSamples_cons]
      refine ⟨?_, ?_, ?_⟩
      · rw [tally_add, tally]
        apply Tally.ext_fields
        · exact Nat.add_comm _ _
        · rfl
        · rfl
        · rfl
      · change min (min never sample.latency) (ofSamples samples).least = min sample.latency _
        rw [least] at bound ⊢
        change (samples.map Sample.latency).foldr min never ≤ never at bound
        change min (min never sample.latency) ((samples.map Sample.latency).foldr min never) =
          min sample.latency ((samples.map Sample.latency).foldr min never)
        omega
      · change max sample.latency (ofSamples samples).greatest = max sample.latency _
        rw [greatest]
        rfl

theorem count_ofSamples (samples : List Sample) :
    (ofSamples samples).tally.count = samples.length :=
  congrArg Tally.count (ofSamples_figures [] samples).1

end Content

namespace Hub

variable {hub next : Hub} {kind : Kind} {shown fresh : List Sample}

theorem cell_of (shows : (hub.accounts.get kind).Shows shown fresh) :
    hub.cell kind = Cell.of kind shown fresh := by
  obtain ⟨tally, least, greatest⟩ := Content.ofSamples_figures shown fresh
  have count : (hub.accounts.get kind).total.count = (shown ++ fresh).length := by
    rw [shows.divided.total, Tally.count_add, Content.count_ofSamples, Content.count_ofSamples,
      List.length_append]
  unfold cell Cell.of
  dsimp only
  rw [shows.divided.unflushed, shows.divided.least, shows.divided.greatest, count,
    Content.count_ofSamples, tally, least, greatest]
  congr 1
  cases fresh with
  | nil => rfl
  | cons sample samples => rfl

theorem emit_cells {shown fresh : Kind → List Sample} (now : Nat)
    (shows : ∀ kind, (hub.accounts.get kind).Shows (shown kind) (fresh kind)) :
    (hub.emit now).1.line.cells =
      hub.kinds.map fun kind => Cell.of kind (shown kind) (fresh kind) := by
  apply List.map_congr_left
  intro kind _
  exact cell_of (shows kind)

theorem emit_kinds (hub : Hub) (now : Nat) : (hub.emit now).2.kinds = hub.kinds :=
  List.filter_congr fun kind _ => hub.emit_enabled now kind

/-- A summary is about all samples of its kind, whether a line has shown them or not. -/
theorem summary?_of (shows : (hub.accounts.get kind).Shows shown fresh) :
    (hub.summary? kind = none ∧ shown ++ fresh = []) ∨
      ∃ summary, hub.summary? kind = some summary ∧ shown ++ fresh ≠ [] ∧
        summary.count = (shown ++ fresh).length ∧
        summary.least = (Content.ofSamples (shown ++ fresh)).least ∧
        summary.greatest = (Content.ofSamples (shown ++ fresh)).greatest := by
  have count : (hub.accounts.get kind).total.count = (shown ++ fresh).length := by
    rw [shows.divided.total, Tally.count_add, Content.count_ofSamples, Content.count_ofSamples,
      List.length_append]
  unfold summary?
  dsimp only
  by_cases silent : (!(hub.accounts.get kind).enabled ||
      decide ((hub.accounts.get kind).total.count = 0)) = true
  · left
    rw [if_pos silent]
    refine ⟨rfl, ?_⟩
    simp only [Bool.or_eq_true, Bool.not_eq_true', decide_eq_true_eq] at silent
    rcases silent with disabled | none
    · obtain ⟨none, nothing⟩ := shows.closed disabled
      rw [none, nothing, List.append_nil]
    · exact List.length_eq_zero_iff.mp (count.symm.trans none)
  · right
    rw [if_neg silent, Content.ofSamples_append]
    refine ⟨_, rfl, ?_, count, ?_, ?_⟩
    · intro nothing
      rw [nothing] at count
      simp [count] at silent
    · dsimp only
      rw [shows.pastLeast, shows.divided.least]
      rfl
    · dsimp only
      rw [shows.pastGreatest, shows.divided.greatest]
      rfl

theorem emit_summary (now : Nat) (shows : (hub.accounts.get kind).Shows shown fresh) :
    (hub.emit now).2.summary? kind = hub.summary? kind := by
  rcases hub.emit_turned now kind with same | turned
  · simp only [summary?, same]
  · have tame : (hub.accounts.get kind).pastLeast ≤ never := by
      rw [shows.pastLeast]
      exact Content.least_le_never _
    have least : min (min (hub.accounts.get kind).pastLeast (hub.accounts.get kind).least) never =
        min (hub.accounts.get kind).pastLeast (hub.accounts.get kind).least := by
      omega
    simp only [summary?, turned, Account.turnPage, least, Nat.max_zero]
    rfl

end Hub

/-- The lines tell some samples in parts: each line has the figures of the next part. -/
inductive Told : List Figures → List Sample → Prop where
  | nil : Told [] []
  | line {lines : List Figures} {shown fresh : List Sample} (told : Told lines shown)
      (some : fresh ≠ []) : Told (lines ++ [Figures.of shown fresh]) (shown ++ fresh)

theorem min?_concat (values : List Nat) (last : Nat) :
    (values ++ [last]).min? = some (values.min?.elim last (min · last)) := by
  cases values with
  | nil => rfl
  | cons value values =>
      rw [List.cons_append, List.min?_cons', List.foldl_append]
      rfl

theorem max?_concat (values : List Nat) (last : Nat) :
    (values ++ [last]).max? = some (values.max?.elim last (max · last)) := by
  cases values with
  | nil => rfl
  | cons value values =>
      rw [List.cons_append, List.max?_cons', List.foldl_append]
      rfl

namespace Told

variable {lines : List Figures} {shown : List Sample}

theorem count (told : Told lines shown) :
    (lines.map fun figures => figures.samples.count).sum = shown.length := by
  induction told with
  | nil => rfl
  | line told some ih =>
      rw [List.map_append, List.sum_append, ih, List.length_append]
      rfl

theorem extremes (told : Told lines shown) : lines = [] ∧ shown = [] ∨ shown ≠ [] ∧
    (lines.map Figures.least).min? = some (Content.ofSamples shown).least ∧
      (lines.map Figures.greatest).max? = some (Content.ofSamples shown).greatest := by
  induction told with
  | nil => exact .inl ⟨rfl, rfl⟩
  | @line lines shown fresh told some ih =>
      right
      obtain ⟨_, least, greatest⟩ := Content.ofSamples_figures shown fresh
      have bound := (Content.ofSamples fresh).least_le_never
      refine ⟨by simp [some], ?_⟩
      rw [List.map_append, List.map_append, List.map_singleton, List.map_singleton, min?_concat,
        max?_concat, ← least, ← greatest, Content.ofSamples_append]
      rcases ih with ⟨rfl, rfl⟩ | ⟨_, before, beforeToo⟩
      · exact ⟨congrArg Option.some (Nat.min_eq_right bound).symm,
          congrArg Option.some (Nat.zero_max _).symm⟩
      · rw [before, beforeToo]
        exact ⟨rfl, rfl⟩

end Told

/-- The figures of a kind in some lines. -/
def figuresIn (kind : Kind) (lines : List Line) : List Figures :=
  (lines.flatMap Line.cells).filterMap fun cell => if cell.kind = kind then cell.figures else none

theorem figuresIn_append (kind : Kind) (lines more : List Line) :
    figuresIn kind (lines ++ more) = figuresIn kind lines ++ figuresIn kind more := by
  rw [figuresIn, List.flatMap_append, List.filterMap_append]
  rfl

theorem filterMap_kind {kinds : List Kind} (distinct : kinds.Nodup) (kind : Kind)
    (value : Kind → Option Figures) :
    kinds.filterMap (fun other => if other = kind then value other else none) =
      if kind ∈ kinds then (value kind).toList else [] := by
  induction kinds with
  | nil => rfl
  | cons other kinds ih =>
      obtain ⟨absent, distinct⟩ := List.nodup_cons.mp distinct
      by_cases same : other = kind
      · subst same
        have rest := ih distinct
        rw [if_neg absent] at rest
        cases told : value other <;> simp [told, rest]
      · simp [same, Ne.symm same, ih distinct]

theorem figuresIn_line {kinds : List Kind} (distinct : kinds.Nodup) {line : Line}
    {shown fresh : Kind → List Sample}
    (cells : line.cells = kinds.map fun kind => Cell.of kind (shown kind) (fresh kind))
    {kind : Kind} (collected : fresh kind ≠ [] → kind ∈ kinds) :
    figuresIn kind [line] =
      if fresh kind = [] then [] else [Figures.of (shown kind) (fresh kind)] := by
  have told : figuresIn kind [line] = kinds.filterMap fun other => if other = kind then
      (Cell.of other (shown other) (fresh other)).figures else none := by
    rw [figuresIn, List.flatMap_singleton, cells, List.filterMap_map]
    rfl
  rw [told, filterMap_kind distinct, Cell.of]
  by_cases none : fresh kind = []
  · simp [none]
  · simp [none, collected none]

theorem Hub.emit_told {hub : Hub} {shown fresh : Kind → List Sample} (now : Nat)
    (shows : ∀ kind, (hub.accounts.get kind).Shows (shown kind) (fresh kind)) {kind : Kind}
    {lines : List Line} (told : Told (figuresIn kind lines) (shown kind)) :
    Told (figuresIn kind (lines ++ [(hub.emit now).1.line])) (shown kind ++ fresh kind) := by
  have distinct : hub.kinds.Nodup := List.Nodup.filter _ (by decide)
  have collected (some : fresh kind ≠ []) : kind ∈ hub.kinds := by
    refine List.mem_filter.mpr ⟨Kind.mem_all kind, ?_⟩
    by_contra disabled
    exact some ((shows kind).closed (Bool.not_eq_true _ ▸ disabled)).2
  rw [figuresIn_append, figuresIn_line distinct (hub.emit_cells now shows) collected]
  by_cases none : fresh kind = []
  · rw [if_pos none, none, List.append_nil, List.append_nil]
    exact told
  · rw [if_neg none]
    exact .line told none

namespace Chronicle

variable {chronicle : Chronicle} {ensemble : Ensemble} {action : Action}

/-- The lines have told what they have shown. -/
def Recounts (chronicle : Chronicle) : Prop :=
  ∀ kind, Told (figuresIn kind chronicle.lines) (chronicle.shown kind)

theorem Recounts.step (recounts : chronicle.Recounts) (tells : chronicle.Tells ensemble)
    (fits : ensemble.Fits action) : (chronicle.step ensemble action).Recounts := by
  obtain ⟨mid, _, closes, shows⟩ := tells.closes fits
  unfold Chronicle.step
  generalize Ensemble.lineIn (ensemble.step action).1 = emission at closes ⊢
  generalize (ensemble.step action).2.hub = next at closes
  cases closes with
  | silent accounts => exact recounts
  | line now => exact fun kind => Hub.emit_told now shows (recounts kind)

theorem Tells.run {actions : List Action} (tells : chronicle.Tells ensemble)
    (recounts : chronicle.Recounts) (fits : ensemble.Follows Ensemble.Fits actions) :
    (chronicle.run ensemble actions).Tells (ensemble.run actions) ∧
      (chronicle.run ensemble actions).Recounts := by
  induction actions generalizing chronicle ensemble with
  | nil => exact ⟨tells, recounts⟩
  | cons action actions ih =>
      obtain ⟨fit, rest⟩ := fits
      exact ih (tells.step fit) (recounts.step tells fit) rest

end Chronicle

/-- Every sum is part of the one in `whole`. -/
def Tally.Within (part whole : Tally) : Prop :=
  part.count ≤ whole.count ∧ part.latency ≤ whole.latency ∧ part.squares ≤ whole.squares ∧
    part.volume ≤ whole.volume

theorem Tally.within_add (part more : Tally) : part.Within (part + more) :=
  ⟨Nat.le_add_right _ _, Nat.le_add_right _ _, Nat.le_add_right _ _, Nat.le_add_right _ _⟩

theorem Tally.Within.add {part whole : Tally} (within : part.Within whole) (more : Tally) :
    part.Within (whole + more) := by
  obtain ⟨count, latency, squares, volume⟩ := within
  exact ⟨Nat.le_add_right_of_le count, Nat.le_add_right_of_le latency,
    Nat.le_add_right_of_le squares, Nat.le_add_right_of_le volume⟩

theorem Account.Split.within {account : Account} (split : account.Split) :
    account.flushed.Within account.total := by
  rw [← split]
  exact Tally.within_add _ _

namespace History

/-- No sum leaves its integer type. -/
def Fits (history : History) : Prop :=
  (Ensemble.new history.interval history.start).Follows Ensemble.Fits history.actions

instance (history : History) : Decidable history.Fits :=
  inferInstanceAs (Decidable (Ensemble.Follows _ _ _))

def chronicle (history : History) : Chronicle :=
  Chronicle.start.run (Ensemble.new history.interval history.start) history.actions

/-- The lines of a history tell its folded samples, and so do the summaries. -/
structure Chronicled (history : History) : Prop where
  recorders : ∀ recorder ∈ history.books.recorders, ∀ entry,
    (recorder.account.entered entry).flushed.Within (recorder.account.entered entry).total
  accounts : ∀ kind, let account := history.books.hub.accounts.get kind
    account.flushed.Within account.total ∧
      ∀ source, (account.folded source).flushed.Within (account.folded source).total
  line : ∀ action emission, Ensemble.lineIn (history.books.step action).1 = some emission →
    let folded := history.chronicle.folded history.books action
    emission.line.cells = (history.books.step action).2.hub.kinds.map fun kind =>
      Cell.of kind (folded.shown kind) (folded.fresh kind)
  steady : ∀ action emission, Ensemble.lineIn (history.books.step action).1 = some emission →
    ∃ mid now, history.books.hub.Takes (action.offers history.chronicle.loose) mid ∧
      mid.emit now = (emission, (history.books.step action).2.hub) ∧
      ∀ kind, (history.books.step action).2.hub.summary? kind = mid.summary? kind
  settles : ∀ action emission, Ensemble.lineIn (history.books.step action).1 = some emission →
    ∀ kind, (history.chronicle.step history.books action).fresh kind = []
  told : ∀ kind, Told (figuresIn kind history.chronicle.lines) (history.chronicle.shown kind)
  whole : ∀ kind, history.chronicle.fresh kind = [] →
    let figures := figuresIn kind history.chronicle.lines
    (history.books.hub.summary? kind = none ∧ figures = []) ∨
      ∃ summary, history.books.hub.summary? kind = some summary ∧
        (figures.map fun line => line.samples.count).sum = summary.count ∧
        (figures.map Figures.least).min? = some summary.least ∧
        (figures.map Figures.greatest).max? = some summary.greatest

/-- Every folded sample is in exactly one line, or will be in the next one.  Recorders may be reset
or dropped at any time, lines may be asked for or forced by anybody, and an action may panic, as
long as no sum overflows. -/
theorem samples_chronicled (history : History) (fits : history.Fits) : history.Chronicled := by
  have start : Chronicle.start.Recounts := fun _ => .nil
  obtain ⟨tells, recounts⟩ :=
    (Chronicle.start_tells history.interval history.start).run start fits
  change history.chronicle.Tells history.books at tells
  have fitting {action : Action} {emission : Emission}
      (line : Ensemble.lineIn (history.books.step action).1 = some emission) :
      history.books.Fits action := by
    unfold Ensemble.Fits
    rcases result : (history.books.step action).1 with panic | answer
    · rw [result] at line
      cases line
    · trivial
  refine
    { recorders := ?_
      accounts := ?_
      line := ?_
      steady := ?_
      settles := ?_
      told := recounts
      whole := ?_ }
  · intro recorder member entry
    obtain ⟨place, found⟩ := List.getElem?_of_mem member
    obtain ⟨_, _, _, divided⟩ := forall₂_found tells.loose found
    exact (divided.split.entered entry).within
  · intro kind account
    have within := (tells.hub kind).divided.split.within
    exact ⟨within, fun source => within.add source.unflushed⟩
  · intro action emission line folded
    obtain ⟨mid, takes, closes, shows⟩ := tells.closes (fitting line)
    rw [line] at closes
    generalize (history.books.step action).2.hub = next at closes ⊢
    cases closes with
    | line now =>
        rw [Hub.emit_kinds]
        exact Hub.emit_cells now shows
  · intro action emission line
    obtain ⟨mid, takes, closes, shows⟩ := tells.closes (fitting line)
    rw [line] at closes
    refine ⟨mid, ?_⟩
    generalize (history.books.step action).2.hub = next at closes ⊢
    cases closes with
    | line now => exact ⟨now, takes, rfl, fun kind => Hub.emit_summary now (shows kind)⟩
  · intro action emission line kind
    unfold Chronicle.step
    rw [line]
    rfl
  · intro kind settled figures
    have shows := tells.hub kind
    have told : Told figures (history.chronicle.shown kind) := recounts kind
    rw [settled] at shows
    rcases Hub.summary?_of shows with
      ⟨none, nothing⟩ | ⟨summary, some, loud, count, least, greatest⟩
    · rw [List.append_nil] at nothing
      rcases told.extremes with ⟨silent, _⟩ | ⟨loud, _⟩
      · exact .inl ⟨none, silent⟩
      · exact absurd nothing loud
    · rw [List.append_nil] at loud count least greatest
      rcases told.extremes with ⟨_, nothing⟩ | ⟨_, leastToo, greatestToo⟩
      · exact absurd nothing loud
      · exact .inr ⟨summary, some, told.count.trans count.symm, least ▸ leastToo,
          greatest ▸ greatestToo⟩

/-- Two workers of which one leaves with a sample that it has not folded.  After a request for a
line that nobody was attached for, a fold counts a worker too many, and so its sample is folded a
second time. -/
def wayward : History :=
  ⟨1000, 0, [.enable .set, .attach 0, .attach 0, .reset 0 .set 0, .reset 1 .get 0, .add 0 0 5 1,
    .add 0 2 12 2, .add 1 3 20 7, .enable .get, .add 1 20 40 3, .add 0 14 1040 4,
    .checkpoint 1050, .add 0 1050 1060 5, .add 1 1055 1060 2, .drop 1 1070, .checkpoint 2060,
    .drop 0 2070, .checkpoint 4000, .attach 4000, .reset 0 .set 4000, .add 0 4000 6000 9,
    .finish 6001, .merge 0 6002, .finish 6003]⟩

theorem samples_chronicled_wayward :
    (wayward.Fits ∧ wayward.Chronicled) ∧
      (figuresIn .set wayward.chronicle.lines).map (·.samples.count) = [3, 1, 1, 1] ∧
      figuresIn .get wayward.chronicle.lines = [⟨⟨1, 20, 400, 3⟩, 20, 20, 1⟩] ∧
      (wayward.books.hub.summary? .set).map (·.count) = some 6 := by
  have fits : wayward.Fits := by decide +kernel
  exact ⟨⟨fits, samples_chronicled wayward fits⟩, by decide +kernel, by decide +kernel,
    by decide +kernel⟩

end History

end StoreBench.Latency
