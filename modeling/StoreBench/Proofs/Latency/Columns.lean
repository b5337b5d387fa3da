import StoreBench.Proofs.Latency.Fields
import StoreBench.Proofs.Latency.Totals

/-! The table that a timeline is mirrored as.

While no kind is added and the sink stays, all that happens at a hub adds a row for each line, the
first one with a heading before it.  The heading has five columns for every kind that is collected.
A row has a field for each of them where all kinds had samples, and is short by one field for every
kind that had none.
-/

namespace StoreBench.Latency

theorem Account.fold_enabled (account source : Account) :
    (account.fold source).2.enabled = account.enabled := by
  unfold fold
  rcases account.total.grow source.unflushed with ⟨_ | _, total⟩
  · rfl
  · rfl

namespace Hub

variable {hub mid next : Hub} {emission : Option Emission}

/-- What a line depends on besides the samples has not changed. -/
structure Steady (hub next : Hub) : Prop where
  kinds : next.kinds = hub.kinds
  timeline : next.timeline = hub.timeline
  headed : next.headed = hub.headed

theorem Steady.refl (hub : Hub) : hub.Steady hub := ⟨rfl, rfl, rfl⟩

theorem Steady.trans (first : hub.Steady mid) (second : mid.Steady next) : hub.Steady next :=
  ⟨second.kinds.trans first.kinds, second.timeline.trans first.timeline,
    second.headed.trans first.headed⟩

theorem Steady.stored {kind : Kind} {account : Account}
    (same : account.enabled = (hub.accounts.get kind).enabled) :
    hub.Steady { hub with accounts := hub.accounts.set kind account } where
  kinds := by
    refine List.filter_congr fun other _ => ?_
    dsimp only
    by_cases chosen : kind = other
    · subst chosen
      rw [PerKind.get_set_self, same]
    · rw [PerKind.get_set_of_ne _ _ chosen]
  timeline := rfl
  headed := rfl

/-- An operation emits at most one line, and nothing but the line changes what the next one depends
on. -/
inductive Prints (hub : Hub) : Option Emission → Hub → Prop where
  | silent {next : Hub} (steady : hub.Steady next) : Prints hub none next
  | line {mid : Hub} (steady : hub.Steady mid) (now : Nat) :
      Prints hub (some (mid.emit now).1) (mid.emit now).2

theorem tryLine_prints (hub : Hub) (now : Nat) :
    hub.Prints (Ensemble.lineIn ((hub.tryLine now).1.map .outcome)) (hub.tryLine now).2 := by
  unfold tryLine
  split
  · exact .silent (.refl hub)
  · dsimp only
    split
    · exact .silent ⟨rfl, rfl, rfl⟩
    split
    · exact .silent ⟨rfl, rfl, rfl⟩
    · exact @Prints.line hub { hub with counted := hub.counted + 1 } ⟨rfl, rfl, rfl⟩ now

theorem detach_prints (hub : Hub) (epoch now : Nat) :
    hub.Prints (emission? (hub.detach epoch now).1) (hub.detach epoch now).2 := by
  unfold detach
  split
  · exact .silent (.refl hub)
  · have same : hub.Steady (if epoch = hub.epoch + 1 then { hub with counted := hub.counted - 1 }
        else hub) := by
      split
      · exact ⟨rfl, rfl, rfl⟩
      · exact .refl hub
    generalize (if epoch = hub.epoch + 1 then { hub with counted := hub.counted - 1 } else hub) =
      left at same
    dsimp only
    split
    · exact .silent same
    split
    · exact @Prints.line hub { left with attached := left.attached - 1 }
        (same.trans ⟨rfl, rfl, rfl⟩) now
    · exact .silent (same.trans ⟨rfl, rfl, rfl⟩)

theorem fold_prints (hub : Hub) (kind : Kind) (source : Account) (epoch now : Nat) :
    hub.Prints (emission? (hub.fold kind source epoch now).1)
      (hub.fold kind source epoch now).2.2 := by
  have outcome := hub.fold_folded kind source epoch now
  generalize hub.fold kind source epoch now = result at outcome ⊢
  obtain ⟨result, told, after⟩ := result
  have stored {result : Except Panic Unit} {account : Account}
      (folded : (hub.accounts.get kind).fold source = (result, account)) :
      hub.Steady { hub with accounts := hub.accounts.set kind account } := by
    have enabled := (hub.accounts.get kind).fold_enabled source
    rw [folded] at enabled
    exact .stored enabled
  dsimp only at outcome ⊢
  cases outcome with
  | dropped idle => exact .silent (.refl hub)
  | overflowed _ failed => exact .silent (stored failed)
  | kept enabled pending folded uncounted => exact .silent (stored folded)
  | counted enabled pending folded due elapsed waiting =>
      exact .silent ((stored folded).trans ⟨rfl, rfl, rfl⟩)
  | completed enabled pending folded due elapsed complete =>
      exact .line ((stored folded).trans ⟨rfl, rfl, rfl⟩) now
  | overcounted enabled pending folded due crowded =>
      exact .silent ((stored folded).trans ⟨rfl, rfl, rfl⟩)

end Hub

namespace Recorder

variable (recorder : Recorder) (hub : Hub)

theorem foldInto_prints (kind : Kind) (now : Nat) :
    hub.Prints (emission? (recorder.foldInto hub kind now).1)
      (recorder.foldInto hub kind now).2.2 := by
  have prints := hub.fold_prints kind recorder.account recorder.epoch now
  unfold foldInto
  generalize hub.fold kind recorder.account recorder.epoch now = result at prints ⊢
  obtain ⟨_ | _, epoch, after⟩ := result
  · exact prints
  · exact prints

theorem add_prints (start now volume : Nat) :
    hub.Prints (emission? (recorder.add hub start now volume).1)
      (recorder.add hub start now volume).2.2 := by
  unfold add
  split
  · exact .silent (.refl hub)
  · dsimp only
    split
    · exact .silent (.refl hub)
    split
    · exact .silent (.refl hub)
    · exact foldInto_prints _ hub _ now

theorem merge_prints (now : Nat) :
    hub.Prints (emission? (recorder.merge hub now).1) (recorder.merge hub now).2.2 := by
  unfold merge
  split
  · exact .silent (.refl hub)
  split
  · exact recorder.foldInto_prints hub _ now
  · exact .silent (.refl hub)

end Recorder

/-- An action that neither adds a kind nor gives the lines another sink. -/
def Action.works : Action → Bool
  | .enable _ | .mirror _ => false
  | _ => true

namespace Ensemble

theorem atPlace_prints (ensemble : Ensemble) (place : Nat)
    {operation : Recorder → Hub → Except Panic (Option Emission) × Recorder × Hub}
    (prints : ∀ recorder, ensemble.hub.Prints (emission? (operation recorder ensemble.hub).1)
      (operation recorder ensemble.hub).2.2) :
    ensemble.hub.Prints (lineIn (ensemble.atPlace place operation).1)
      (ensemble.atPlace place operation).2.hub := by
  rcases found : ensemble.recorders[place]? with _ | recorder
  · rw [atPlace_of_none found]
    exact .silent (.refl _)
  · rw [atPlace_of_some found, lineIn_map]
    exact prints recorder

theorem step_prints (ensemble : Ensemble) {action : Action} (works : action.works = true) :
    ensemble.hub.Prints (lineIn (ensemble.step action).1) (ensemble.step action).2.hub := by
  cases action with
  | enable kind => cases works
  | mirror writer => cases works
  | summarize kind => exact .silent (.refl _)
  | checkpoint now => exact ensemble.hub.tryLine_prints now
  | finish now => exact .line (.refl _) now
  | attach now => exact .silent ⟨rfl, rfl, rfl⟩
  | count place => exact .silent (.refl _)
  | reset place kind now => exact ensemble.atPlace_prints place fun _ => .silent (.refl _)
  | add place start now volume =>
      exact ensemble.atPlace_prints place fun recorder =>
        recorder.add_prints ensemble.hub start now volume
  | merge place now =>
      exact ensemble.atPlace_prints place fun recorder => recorder.merge_prints ensemble.hub now
  | drop place now =>
      unfold step
      dsimp only
      split
      · exact .silent (.refl _)
      · dsimp only
        rw [lineIn_map]
        exact ensemble.hub.detach_prints _ now

/-- The lines that some actions cause, in the order in which they come. -/
def emissions (ensemble : Ensemble) : List Action → List Emission
  | [] => []
  | action :: actions =>
    (lineIn (ensemble.step action).1).toList ++ (ensemble.step action).2.emissions actions

end Ensemble

def written (sink : String) (emissions : List Emission) : String :=
  String.join ((emissions.filter (·.mirror = some sink)).map Emission.csv)

/-- Lines for these kinds that all went to a sink; the first one has the heading, unless that was
written before. -/
inductive Sheet (sink : String) (kinds : List Kind) : Bool → List Emission → Prop where
  | nil {headed : Bool} : Sheet sink kinds headed []
  | cons {headed : Bool} {emission : Emission} {emissions : List Emission}
      (mirror : emission.mirror = some sink)
      (heading : emission.heading = if headed then none else some kinds)
      (cells : emission.line.cells.map Cell.kind = kinds) (rest : Sheet sink kinds true emissions) :
      Sheet sink kinds headed (emission :: emissions)

theorem Ensemble.emissions_sheet {sink : String} {actions : List Action} (ensemble : Ensemble)
    (mirrored : ensemble.hub.timeline = some ⟨sink, none⟩)
    (works : ∀ action ∈ actions, action.works = true) :
    Sheet sink ensemble.hub.kinds ensemble.hub.headed (ensemble.emissions actions) := by
  induction actions generalizing ensemble with
  | nil => exact .nil
  | cons action actions ih =>
      have prints := ensemble.step_prints (works action List.mem_cons_self)
      have later (other : Action) (member : other ∈ actions) : other.works = true :=
        works other (List.mem_cons_of_mem _ member)
      unfold emissions
      have rest := fun same => ih (ensemble.step action).2 same later
      generalize lineIn (ensemble.step action).1 = emission at prints ⊢
      generalize (ensemble.step action).2.emissions actions = emissions at rest ⊢
      generalize (ensemble.step action).2.hub = next at prints rest
      cases prints with
      | silent steady =>
          have sheet := rest (steady.timeline.trans mirrored)
          rwa [steady.kinds, steady.headed] at sheet
      | @line mid steady now =>
          have sink : mid.timeline = some ⟨sink, none⟩ := steady.timeline.trans mirrored
          have sheet := rest (by simp only [Hub.emit, sink, Writer.offer])
          have kinds : (mid.emit now).2.kinds = ensemble.hub.kinds :=
            (List.filter_congr fun kind _ => mid.emit_enabled now kind).trans steady.kinds
          rw [kinds] at sheet
          refine .cons ?_ ?_ ?_ sheet
          · simp only [Hub.emit, sink, Writer.offer, if_true]
          · rw [← steady.headed, ← steady.kinds]
            rfl
          · rw [← steady.kinds]
            change (mid.kinds.map mid.cell).map Cell.kind = mid.kinds
            rw [List.map_map]
            exact List.map_id mid.kinds

namespace Sheet

variable {sink : String} {kinds : List Kind} {headed : Bool} {emissions : List Emission}

theorem mirrors (sheet : Sheet sink kinds headed emissions) :
    ∀ emission ∈ emissions, emission.mirror = some sink := by
  induction sheet with
  | nil => exact fun _ member => absurd member List.not_mem_nil
  | cons mirror heading cells rest ih => exact List.forall_mem_cons.mpr ⟨mirror, ih⟩

theorem cells (sheet : Sheet sink kinds headed emissions) :
    ∀ emission ∈ emissions, emission.line.cells.map Cell.kind = kinds := by
  induction sheet with
  | nil => exact fun _ member => absurd member List.not_mem_nil
  | cons mirror heading cells rest ih => exact List.forall_mem_cons.mpr ⟨cells, ih⟩

theorem rows_of_headed (sheet : Sheet sink kinds true emissions) :
    emissions.flatMap Emission.rows = emissions.map (·.line.fields) := by
  generalize told : true = headed at sheet
  induction sheet with
  | nil => rfl
  | cons mirror heading cells rest ih =>
      subst told
      rw [if_pos rfl] at heading
      rw [List.flatMap_cons, ih rfl, Emission.rows, heading]
      rfl

theorem written_eq (sheet : Sheet sink kinds headed emissions) :
    written sink emissions = String.join (emissions.map Emission.csv) := by
  rw [written, List.filter_eq_self.mpr fun emission member =>
    decide_eq_true (sheet.mirrors emission member)]

theorem table_written (sheet : Sheet sink kinds false emissions) :
    table (written sink emissions) =
      if emissions = [] then [] else headingFields kinds :: emissions.map (·.line.fields) := by
  rw [sheet.written_eq, table_emissions]
  cases sheet with
  | nil => rfl
  | @cons _ emission emissions mirror heading cells rest =>
      rw [if_neg Bool.false_ne_true] at heading
      rw [List.flatMap_cons, rest.rows_of_headed, Emission.rows, heading, if_neg (by simp)]
      rfl

end Sheet

/-- The fields of a line in which every kind has samples, each with the name of its column. -/
def Line.columns (line : Line) : List (String × String) :=
  ("\ttime", Decimal.scientific (durationSeconds line.time)) ::
    line.cells.flatMap fun cell =>
      (cell.figures.map (Figures.columns line.wallSeconds cell.kind)).getD []

theorem Line.columns_of_busy {line : Line} {kinds : List Kind}
    (cells : line.cells.map Cell.kind = kinds)
    (busy : ∀ cell ∈ line.cells, cell.figures ≠ none) :
    line.columns.map Prod.fst = headingFields kinds ∧ line.columns.map Prod.snd = line.fields := by
  subst cells
  unfold columns headingFields fields
  rw [List.map_cons, List.map_cons, List.flatMap_map, List.map_flatMap, List.map_flatMap]
  refine ⟨congrArg _ (List.flatMap_congr fun cell member => ?_),
    congrArg _ (List.flatMap_congr fun cell member => ?_)⟩
  · obtain ⟨figures, some⟩ := Option.ne_none_iff_exists'.mp (busy cell member)
    rw [some]
    rfl
  · obtain ⟨figures, some⟩ := Option.ne_none_iff_exists'.mp (busy cell member)
    rw [Cell.fields, some]
    rfl

/-- The text in a sink, read as a table, for these kinds and lines.  A row is short by a field for
every kind without samples. -/
structure Tabulated (text : String) (kinds : List Kind) (emissions : List Emission) : Prop where
  rows : table text =
    if emissions = [] then [] else headingFields kinds :: emissions.map (·.line.fields)
  heading : (headingFields kinds).length = 1 + 5 * kinds.length
  cells : ∀ emission ∈ emissions, emission.line.cells.map Cell.kind = kinds
  short : ∀ emission ∈ emissions,
    emission.line.fields.length + emission.line.cells.countP (·.figures = none) =
      (headingFields kinds).length
  aligned : ∀ emission ∈ emissions, (∀ cell ∈ emission.line.cells, cell.figures ≠ none) →
    emission.line.columns.map Prod.fst = headingFields kinds ∧
      emission.line.columns.map Prod.snd = emission.line.fields

/-- From the first line on, a sink that takes every line holds one heading and one row per line,
whatever is recorded, folded, asked for or forced, and whatever panics.  The rows in which every
kind has samples are as wide as the heading and line up with it. -/
theorem timeline_tabulated (ensemble : Ensemble) (sink : String) (actions : List Action)
    (mirrored : ensemble.hub.timeline = some ⟨sink, none⟩) (fresh : ensemble.hub.headed = false)
    (works : ∀ action ∈ actions, action.works = true) :
    Tabulated (written sink (ensemble.emissions actions)) ensemble.hub.kinds
      (ensemble.emissions actions) := by
  have sheet := ensemble.emissions_sheet mirrored works
  rw [fresh] at sheet
  refine
    { rows := sheet.table_written
      heading := length_headingFields _
      cells := sheet.cells
      short := ?_
      aligned := fun emission member busy =>
        Line.columns_of_busy (sheet.cells emission member) busy }
  intro emission member
  rw [emission.line.length_fields, length_headingFields, ← sheet.cells emission member,
    List.length_map]

/-- A hub that collects two kinds and mirrors its lines. -/
def mirroring : Ensemble :=
  (Ensemble.new 1000 0).run [.enable .set, .enable .get, .mirror ⟨"lines", none⟩]

/-- A worker of one kind, whose samples fill the second of three lines. -/
def oneSided : List Action :=
  [.attach 0, .reset 0 .set 0, .finish 10, .add 0 20 25 1, .add 0 30 39 1, .merge 0 40, .finish 50,
    .drop 0 60, .finish 70]

theorem timeline_tabulated_oneSided :
    (mirroring.hub.timeline = some ⟨"lines", none⟩ ∧ mirroring.hub.headed = false ∧
      (∀ action ∈ oneSided, action.works = true) ∧
      Tabulated (written "lines" (mirroring.emissions oneSided)) mirroring.hub.kinds
        (mirroring.emissions oneSided)) ∧
      mirroring.hub.kinds = [.set, .get] ∧ (mirroring.emissions oneSided).length = 3 :=
  ⟨⟨rfl, rfl, by decide, timeline_tabulated mirroring "lines" oneSided rfl rfl (by decide)⟩,
    by decide +kernel, by decide +kernel⟩

/-- Not every row is as wide as the heading: that of an idle kind is short. -/
theorem idle_row_short : ¬ ∀ (ensemble : Ensemble) (sink : String) (actions : List Action),
    ensemble.hub.timeline = some ⟨sink, none⟩ → ensemble.hub.headed = false →
      (∀ action ∈ actions, action.works = true) →
        ∀ row ∈ table (written sink (ensemble.emissions actions)),
          row.length = 1 + 5 * ensemble.hub.kinds.length := by
  intro rectangular
  have wide := rectangular mirroring "lines" [.finish 0] rfl rfl (by decide)
  have sheet := @Ensemble.emissions_sheet "lines" [.finish 0] mirroring rfl (by decide)
  have printed : mirroring.emissions [.finish 0] = [(mirroring.hub.emit 0).1] := rfl
  rw [sheet.table_written, printed, if_neg (List.cons_ne_nil _ _)] at wide
  have width :=
    wide (mirroring.hub.emit 0).1.line.fields (List.mem_cons_of_mem _ List.mem_cons_self)
  have cells : (mirroring.hub.emit 0).1.line.cells = [⟨.set, none⟩, ⟨.get, none⟩] := by
    decide +kernel
  have kinds : mirroring.hub.kinds = [.set, .get] := by decide +kernel
  rw [Line.fields, cells, kinds] at width
  exact absurd width (by decide)

end StoreBench.Latency
