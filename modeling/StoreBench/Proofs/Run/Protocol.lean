import StoreBench.Proofs.Run.Fulfilling
import StoreBench.Proofs.Run.Outcome

/-! The order of the calls of a worker.

A worker makes a context, hands it the options, speaks to it in brackets and disposes of it.
Brackets are not nested, only the last one can be spoilt, and it alone can lack its `done`.
-/

namespace StoreBench.Run

open StoreBench.Engine (Answer Call Exchange)

variable {settings : Settings} {context : Nat}

namespace Segment

/-- No answer of the bracket was an error that is not tolerated. -/
def clean (settings : Settings) (segment : Segment) : Bool :=
  segment.made.all (Exchange.fine settings segment.kind)

/-- The bracket ends in its `done`. -/
def Closed (context : Nat) (segment : Segment) : Prop :=
  ∃ said ended, segment.made = said ++ [⟨.done context segment.kind, ended⟩]

/-- A `begin`, then nothing but steps, then the `done` unless it is missing. -/
def Flat (context : Nat) (segment : Segment) : Prop :=
  ∃ begun steps closing,
    segment.made = ⟨.begin context segment.kind, begun⟩ :: (steps ++ closing) ∧
    (∀ exchange ∈ steps, ∃ step pair, exchange.call = .next context step pair) ∧
    (closing = [] ∨ ∃ ended, closing = [⟨.done context segment.kind, ended⟩])

end Segment

/-- Brackets that were said one after the other in some passes.  All but the last are complete and
free of errors; one without `done` was cut by an error that is not tolerated, and after such an
error there is at most the `done` of a bracket of one key. -/
structure Orderly (settings : Settings) (context share : Nat) (rounds : List (List Segment))
    (verdict : Verdict) : Prop where
  passes : settings.continuous = false → rounds.length ≤ settings.passes
  ascending : ∀ round ∈ rounds, (round.map (·.kind.index)).Pairwise (· ≤ ·)
  bracket : ∀ segment ∈ rounds.flatten, ∃ left used, left ≤ share ∧ 0 < used ∧
    Bracket settings context left segment.kind segment.made used
  flat : ∀ segment ∈ rounds.flatten, segment.Flat context
  sound : ∀ earlier segment later, rounds.flatten = earlier ++ segment :: later → later ≠ [] →
    segment.clean settings = true ∧ segment.Closed context
  cut : ∀ segment ∈ rounds.flatten, ¬ segment.Closed context →
    verdict = .failed ∧ segment.kind.isPoint = false ∧
      ∃ said last, segment.made = said ++ [last] ∧
        said.all (Exchange.fine settings segment.kind) = true ∧
        Exchange.fine settings segment.kind last = false
  quiet : ∀ segment ∈ rounds.flatten, ∀ said exchange more,
    segment.made = said ++ exchange :: more →
    Exchange.fine settings segment.kind exchange = false →
      verdict = .failed ∧ (more = [] ∨
        segment.kind.isPoint = true ∧ ∃ ended, more = [⟨.done context segment.kind, ended⟩])

section Scripts

variable {fine : Exchange → Bool} {script : List Call} {made : List Exchange} {whole : Bool}

theorem Scripted.cut_last (broken : Scripted fine script made false) :
    ∃ said last, made = said ++ [last] ∧ said.all fine = true ∧ fine last = false := by
  generalize none : false = every at broken
  induction broken with
  | complete => cases none
  | cut unfine => exact ⟨[], _, rfl, rfl, unfine⟩
  | said well _ ih =>
      obtain ⟨said, last, rfl, fine, unfine⟩ := ih none
      exact ⟨_ :: said, last, rfl, by simp [well, fine], unfine⟩

theorem Scripted.split_last {last : Call} (scripted : Scripted fine (script ++ [last]) made whole) :
    ∃ steps closing, made = steps ++ closing ∧ steps.map Exchange.call <+: script ∧
      (closing = [] ∨ ∃ ended, closing = [⟨last, ended⟩]) := by
  induction script generalizing made with
  | nil =>
      cases scripted with
      | cut unfine => exact ⟨[], _, rfl, List.prefix_refl [], .inr ⟨_, rfl⟩⟩
      | said well rest =>
          cases rest with
          | complete => exact ⟨[], _, rfl, List.prefix_refl [], .inr ⟨_, rfl⟩⟩
  | cons call script ih =>
      cases scripted with
      | cut unfine => exact ⟨[_], [], rfl, ⟨script, rfl⟩, .inl rfl⟩
      | said well rest =>
          obtain ⟨steps, closing, rfl, ahead, ends⟩ := ih rest
          exact ⟨_ :: steps, closing, rfl, List.prefix_cons_inj _ |>.mpr ahead, ends⟩

theorem Scripted.ends_last {last : Call} (scripted : Scripted fine (script ++ [last]) made true) :
    ∃ said ended, made = said ++ [⟨last, ended⟩] := by
  obtain ⟨said, closing, rfl, _, closes⟩ := List.map_eq_append_iff.mp scripted.calls_eq
  obtain ⟨ended, rfl, rfl⟩ := List.map_eq_singleton_iff.mp closes
  exact ⟨said, ended.answer, rfl⟩

theorem Scripted.single (fine : Exchange → Bool) (call : Call) (answer : Answer) :
    ∃ whole, Scripted fine [call] [⟨call, answer⟩] whole := by
  cases told : fine ⟨call, answer⟩ with
  | true => exact ⟨true, .said told .complete⟩
  | false => exact ⟨false, .cut told⟩

theorem Taken.scripted {records rest : List Exchange} (taken : Taken context records)
    (scripted : Scripted (Exchange.fine settings .iterate) script rest whole) :
    Scripted (Exchange.fine settings .iterate)
      (List.replicate records.length (.next context .iterate .empty) ++ script) (records ++ rest)
      whole := by
  induction records with
  | nil => exact scripted
  | cons record records ih =>
      obtain ⟨call, answer⟩ := record
      obtain ⟨rfl, _⟩ := taken _ List.mem_cons_self
      have every := List.all_eq_true.mp (@Taken.fine settings context _ taken)
      exact .said (every _ List.mem_cons_self)
        (ih fun exchange member => taken exchange (List.mem_cons_of_mem _ member))

/-- The calls are steps inside a bracket. -/
def Steps (context : Nat) (calls : List Call) : Prop :=
  ∀ call ∈ calls, ∃ step pair, call = .next context step pair

theorem steps_quadruples (context : Nat) (pairs : List (Pair × Pair)) :
    Steps context (pairs.flatMap (quadrupleCalls context)) := by
  intro call member
  obtain ⟨pair, _, within⟩ := List.mem_flatMap.mp member
  simp only [quadrupleCalls, List.mem_cons, List.not_mem_nil, or_false] at within
  rcases within with rfl | rfl | rfl | rfl
  · exact ⟨_, _, rfl⟩
  · exact ⟨_, _, rfl⟩
  · exact ⟨_, _, rfl⟩
  · exact ⟨_, _, rfl⟩

theorem steps_cursor (context count : Nat) :
    Steps context (List.replicate count (.next context .iterate .empty)) := by
  intro call member
  obtain rfl := List.eq_of_mem_replicate member
  exact ⟨_, _, rfl⟩

end Scripts

namespace Bracket

variable {kind : Kind} {left used : Nat} {made : List Exchange}

theorem scripted (bracket : Bracket settings context left kind made used)
    (several : kind.isPoint = false) : ∃ steps whole, Steps context steps ∧
      Scripted (Exchange.fine settings kind)
        (.begin context kind :: (steps ++ [.done context kind])) made whole := by
  cases bracket with
  | refused point refuses => cases several.symm.trans point
  | point point opens => cases several.symm.trans point
  | crud pairs said => exact ⟨_, _, steps_quadruples context [pairs], said⟩
  | batch pairs filled said => exact ⟨_, _, steps_quadruples context pairs, said⟩
  | @unopened begun cause refuses =>
      refine ⟨[], false, steps_cursor context 0, .cut ?_⟩
      cases cause with
      | notFound => simp [Exchange.fine, refuses, Kind.isPoint]
      | unsupported what => simp [Exchange.fine, refuses]
      | failed reason => simp [Exchange.fine, refuses]
  | @spent begun ended opened records opens taken all =>
      obtain ⟨whole, closing⟩ :=
        Scripted.single (Exchange.fine settings .iterate) (.done context .iterate) ended
      exact ⟨_, whole, steps_cursor context records.length,
        .said (Exchange.fine_ok opens) (taken.scripted closing)⟩
  | @exhausted begun last ended opened records opens taken some stops =>
      obtain ⟨whole, closing⟩ :=
        Scripted.single (Exchange.fine settings .iterate) (.done context .iterate) ended
      have stops :
          Exchange.fine settings .iterate ⟨.next context .iterate .empty, last⟩ = true := by
        simp [Exchange.fine, stops]
      have said := @Scripted.said _ _ _ _ _ _ stops closing
      refine ⟨_, whole, steps_cursor context (records.length + 1), ?_⟩
      rw [List.replicate_succ', List.append_assoc]
      exact .said (Exchange.fine_ok opens) (taken.scripted said)
  | @lost begun last opened cause records opens taken some broken unknown =>
      have breaks :
          Exchange.fine settings .iterate ⟨.next context .iterate .empty, last⟩ = false := by
        cases cause with
        | notFound => exact absurd rfl unknown
        | unsupported what => simp [Exchange.fine, broken]
        | failed reason => simp [Exchange.fine, broken]
      have cut := @Scripted.cut _ _ _ [.done context .iterate] breaks
      refine ⟨_, false, steps_cursor context (records.length + 1), ?_⟩
      rw [List.replicate_succ', List.append_assoc]
      exact .said (Exchange.fine_ok opens) (taken.scripted cut)

theorem flat (bracket : Bracket settings context left kind made used) :
    Segment.Flat context ⟨kind, made⟩ := by
  cases several : kind.isPoint with
  | false =>
      obtain ⟨script, whole, steps, said⟩ := bracket.scripted several
      cases said with
      | cut unfine => exact ⟨_, [], [], rfl, by simp, .inl rfl⟩
      | said well rest =>
          obtain ⟨taken, closing, rfl, ahead, ends⟩ := rest.split_last
          refine ⟨_, taken, closing, rfl, ?_, ends⟩
          intro exchange member
          exact steps _ (ahead.subset (List.mem_map_of_mem member))
  | true =>
      cases bracket with
      | refused point refuses => exact ⟨_, [], _, rfl, by simp, .inr ⟨_, rfl⟩⟩
      | point point opens => exact ⟨_, [_], _, rfl, by simp, .inr ⟨_, rfl⟩⟩
      | _ => cases several

theorem closed_or_cut (bracket : Bracket settings context left kind made used) :
    Segment.Closed context ⟨kind, made⟩ ∨ kind.isPoint = false ∧
      ∃ said last, made = said ++ [last] ∧ said.all (Exchange.fine settings kind) = true ∧
        Exchange.fine settings kind last = false := by
  cases several : kind.isPoint with
  | false =>
      obtain ⟨script, whole, _, said⟩ := bracket.scripted several
      cases whole with
      | true => exact .inl (@Scripted.ends_last _ (_ :: script) _ _ said)
      | false => exact .inr ⟨rfl, said.cut_last⟩
  | true =>
      cases bracket with
      | refused point refuses => exact .inl ⟨[_], _, rfl⟩
      | point point opens => exact .inl ⟨[_, _], _, rfl⟩
      | _ => cases several

/-- After an error that is not tolerated there are no more steps in the bracket. -/
theorem quiet (bracket : Bracket settings context left kind made used) {said more : List Exchange}
    {exchange : Exchange} (around : made = said ++ exchange :: more)
    (unfine : Exchange.fine settings kind exchange = false) :
    more = [] ∨ kind.isPoint = true ∧ ∃ ended, more = [⟨.done context kind, ended⟩] := by
  cases several : kind.isPoint with
  | false =>
      obtain ⟨script, whole, _, scripted⟩ := bracket.scripted several
      exact .inl (scripted.unfine_last around unfine)
  | true =>
      cases bracket with
      | refused point refuses =>
          rcases said with _ | ⟨_, _ | ⟨_, said⟩⟩
          · obtain ⟨rfl, rfl⟩ := List.cons.inj around
            exact .inr ⟨rfl, _, rfl⟩
          · simp at around
            exact .inl around.2.2
          · simp at around
      | point point opens =>
          rcases said with _ | ⟨_, _ | ⟨_, _ | ⟨_, said⟩⟩⟩
          · obtain ⟨rfl, rfl⟩ := List.cons.inj around
            cases unfine.symm.trans (Exchange.fine_ok opens)
          · simp at around
            exact .inr ⟨rfl, _, around.2.2.symm⟩
          · simp at around
            exact .inl around.2.2.2
          · simp at around
      | _ => cases several

end Bracket

/-- The brackets of passes with the same share; the last one is spoilt if the passes failed. -/
structure Smooth (settings : Settings) (context share : Nat) (segments : List Segment)
    (verdict : Verdict) : Prop where
  bracket : ∀ segment ∈ segments, ∃ left used, left ≤ share ∧ 0 < left ∧
    Bracket settings context left segment.kind segment.made used
  clean : verdict ≠ .failed → ∀ segment ∈ segments, segment.clean settings = true
  spoilt : verdict = .failed → ∃ earlier last, segments = earlier ++ [last] ∧
    (∀ segment ∈ earlier, segment.clean settings = true) ∧ last.clean settings = false

namespace Smooth

variable {share : Nat} {segments later : List Segment} {verdict : Verdict}

theorem nil (settings : Settings) (context share : Nat) (fine : verdict ≠ .failed) :
    Smooth settings context share [] verdict where
  bracket := by simp
  clean := by simp
  spoilt failed := absurd failed fine

theorem append (first : Smooth settings context share segments .whole)
    (second : Smooth settings context share later verdict) :
    Smooth settings context share (segments ++ later) verdict where
  bracket segment member := by
    rcases List.mem_append.mp member with early | late
    · exact first.bracket segment early
    · exact second.bracket segment late
  clean fine segment member := by
    rcases List.mem_append.mp member with early | late
    · exact first.clean (by simp) segment early
    · exact second.clean fine segment late
  spoilt failed := by
    obtain ⟨earlier, last, rfl, clean, spoilt⟩ := second.spoilt failed
    refine ⟨segments ++ earlier, last, (List.append_assoc ..).symm, ?_, spoilt⟩
    intro segment member
    rcases List.mem_append.mp member with early | late
    · exact first.clean (by simp) segment early
    · exact clean segment late

theorem one {segment : Segment} {left used : Nat} (within : left ≤ share) (some : 0 < left)
    (bracket : Bracket settings context left segment.kind segment.made used) :
    Smooth settings context share [segment]
      (if segment.clean settings then .whole else .failed) where
  bracket other member := by
    obtain rfl := List.mem_singleton.mp member
    exact ⟨left, used, within, some, bracket⟩
  clean fine other member := by
    obtain rfl := List.mem_singleton.mp member
    by_contra spoilt
    exact fine (if_neg spoilt)
  spoilt failed := by
    refine ⟨[], segment, rfl, by simp, ?_⟩
    by_contra clean
    rw [Bool.not_eq_false] at clean
    rw [if_pos clean] at failed
    cases failed

theorem halt (smooth : Smooth settings context share segments .whole) :
    Smooth settings context share segments .halted where
  bracket := smooth.bracket
  clean _ := smooth.clean (by simp)
  spoilt failed := by cases failed

end Smooth

section Runs

variable {share left : Nat} {kind : Kind} {kinds : List Kind} {brackets : List (List Exchange)}
  {whole : Bool} {segments : List Segment} {rounds : List (List Segment)} {verdict : Verdict}

theorem KindRun.smooth (run : KindRun settings context kind left brackets whole)
    (within : left ≤ share) :
    Smooth settings context share (brackets.map (Segment.mk kind))
      (if whole then .whole else .failed) := by
  induction run with
  | complete => exact .nil settings context share (by simp)
  | @broken left used made bracket unclean =>
      have one := @Smooth.one settings context share ⟨kind, made⟩ _ _ within left.succ_pos bracket
      rw [Segment.clean, unclean] at one
      exact one
  | @step left used made brackets whole bracket clean rest ih =>
      have one := @Smooth.one settings context share ⟨kind, made⟩ _ _ within left.succ_pos bracket
      rw [Segment.clean, clean] at one
      exact one.append (ih (by omega))

theorem PassRun.smooth (run : PassRun settings context share kinds segments verdict) :
    Smooth settings context share segments verdict := by
  induction run with
  | complete => exact .nil settings context share (by simp)
  | halted => exact .nil settings context share (by simp)
  | failed run => exact run.smooth le_rfl
  | step run rest ih => exact (run.smooth le_rfl).append ih

theorem Rounds.smooth {made : Nat} (run : Rounds settings context kinds share made rounds verdict) :
    Smooth settings context share rounds.flatten verdict := by
  induction run with
  | complete enough => exact .nil settings context share (by simp)
  | broken wanted round short => simpa using round.smooth
  | halted wanted round => simpa using round.smooth.halt
  | step wanted round rest ih => exact round.smooth.append ih

theorem level_map (kind : Kind) (brackets : List (List Exchange)) :
    ((brackets.map (Segment.mk kind)).map (·.kind.index)).Pairwise (· ≤ ·) := by
  rw [List.map_map, List.pairwise_map]
  exact List.pairwise_of_forall fun _ _ => le_rfl

theorem PassRun.ascending (run : PassRun settings context share kinds segments verdict)
    (ordered : kinds.Pairwise (·.index < ·.index)) :
    (∀ segment ∈ segments, segment.kind ∈ kinds) ∧
      (segments.map (·.kind.index)).Pairwise (· ≤ ·) := by
  induction run with
  | complete => simp
  | halted => simp
  | failed run => exact ⟨by simp, level_map _ _⟩
  | @step kind kinds brackets segments verdict run rest ih =>
      obtain ⟨before, ordered⟩ := List.pairwise_cons.mp ordered
      obtain ⟨among, ascending⟩ := ih ordered
      constructor
      · intro segment member
        rcases List.mem_append.mp member with early | late
        · obtain ⟨made, _, rfl⟩ := List.mem_map.mp early
          exact List.mem_cons_self
        · exact List.mem_cons_of_mem _ (among segment late)
      · rw [List.map_append, List.pairwise_append]
        refine ⟨level_map kind brackets, ascending, ?_⟩
        intro first early second late
        obtain ⟨_, member, rfl⟩ := List.mem_map.mp early
        obtain ⟨made, _, rfl⟩ := List.mem_map.mp member
        obtain ⟨segment, member, rfl⟩ := List.mem_map.mp late
        exact le_of_lt (before _ (among segment member))

theorem Rounds.pass {made : Nat} (run : Rounds settings context kinds share made rounds verdict) :
    ∀ round ∈ rounds, ∃ verdict, PassRun settings context share kinds round verdict := by
  induction run with
  | complete enough => simp
  | broken wanted round short => simpa using ⟨_, round⟩
  | halted wanted round => simpa using ⟨_, round⟩
  | step wanted round rest ih => simpa using ⟨⟨_, round⟩, ih⟩

theorem Rounds.bounded {made : Nat} (run : Rounds settings context kinds share made rounds verdict)
    (once : settings.continuous = false) (early : made ≤ settings.passes) :
    made + rounds.length ≤ settings.passes := by
  have more {made : Nat} (wanted : made < settings.passes ∨ settings.continuous = true) :
      made < settings.passes := by
    simpa [once] using wanted
  induction run with
  | complete enough => exact early
  | broken wanted round short => exact more wanted
  | halted wanted round => exact more wanted
  | step wanted round rest ih =>
      have := ih (more wanted)
      rw [List.length_cons]
      omega

end Runs

theorem Bracket.used_pos {kind : Kind} {left used : Nat} {made : List Exchange}
    (bracket : Bracket settings context left kind made used) (some : 0 < left)
    (batches : kind = .batch → 0 < settings.batchLength) : 0 < used := by
  cases bracket with
  | batch pairs filled said =>
      rw [filled]
      exact Nat.lt_min.mpr ⟨some, batches rfl⟩
  | refused point refuses => exact Nat.one_pos
  | point point opens => exact Nat.one_pos
  | crud pairs said => exact Nat.one_pos
  | unopened refuses => exact some
  | spent opens taken all => exact some
  | exhausted opens taken few stops => exact some
  | lost opens taken few broken unknown => exact some

theorem Rounds.orderly {kinds : KindSet} {share : Nat} {rounds : List (List Segment)}
    {verdict : Verdict} (run : Rounds settings context kinds.toList share 0 rounds verdict)
    (batches : kinds.contains .batch = true → 0 < settings.batchLength) :
    Orderly settings context share rounds verdict where
  passes once := by simpa using run.bounded once (Nat.zero_le _)
  ascending round member := by
    obtain ⟨_, pass⟩ := run.pass round member
    exact (pass.ascending kinds.ascending_toList).2
  bracket segment member := by
    obtain ⟨left, used, within, some, bracket⟩ := run.smooth.bracket segment member
    refine ⟨left, used, within, bracket.used_pos some ?_, bracket⟩
    intro batch
    obtain ⟨round, among, inside⟩ := List.mem_flatten.mp member
    obtain ⟨_, pass⟩ := run.pass round among
    have mine := (pass.ascending kinds.ascending_toList).1 segment inside
    rw [batch] at mine
    exact batches ((KindSet.mem_toList _ _).mp mine)
  flat segment member := by
    obtain ⟨_, _, _, _, bracket⟩ := run.smooth.bracket segment member
    exact bracket.flat
  sound earlier segment later around more := by
    obtain ⟨_, _, _, _, bracket⟩ := run.smooth.bracket segment (by simp [around])
    have clean : segment.clean settings = true := by
      by_cases failed : verdict = .failed
      · obtain ⟨before, last, same, clean, _⟩ := run.smooth.spoilt failed
        refine clean segment ?_
        obtain ⟨later, final, rfl⟩ := (List.eq_nil_or_concat' later).resolve_left more
        rw [around, ← List.cons_append, ← List.append_assoc] at same
        rw [← (List.append_inj' same rfl).1]
        simp
      · exact run.smooth.clean failed segment (by simp [around])
    refine ⟨clean, bracket.closed_or_cut.resolve_right ?_⟩
    rintro ⟨_, said, last, same, _, unfine⟩
    rw [Segment.clean, same, List.all_append] at clean
    simp [unfine] at clean
  cut segment member open_ := by
    obtain ⟨_, _, _, _, bracket⟩ := run.smooth.bracket segment member
    obtain ⟨several, said, last, same, well, unfine⟩ := bracket.closed_or_cut.resolve_left open_
    refine ⟨?_, several, said, last, same, well, unfine⟩
    by_contra fine
    have clean := run.smooth.clean fine segment member
    rw [Segment.clean, same, List.all_append] at clean
    simp [unfine] at clean
  quiet segment member said exchange more around unfine := by
    obtain ⟨_, _, _, _, bracket⟩ := run.smooth.bracket segment member
    refine ⟨?_, bracket.quiet around unfine⟩
    by_contra fine
    have clean := run.smooth.clean fine segment member
    rw [Segment.clean, around, List.all_append] at clean
    simp [unfine] at clean

/-- A worker called on its context in the order of the protocol: what is said is the context, its
options, the brackets of the rounds and the end of it, once.  It left out passes only if the run was
stopped before the end of its own. -/
structure Mannered (settings : Settings) (context : Nat) (desk : Desk)
    (rounds : List (List Segment)) (made : List Exchange) (succeeded : Prop) : Prop where
  calm : ∀ exchange ∈ made, ∀ reason, exchange.answer.reply ≠ .panic reason
  spoken : ∃ verdict, Conversation settings context desk.worker.kinds.toList desk.worker.share
      rounds made verdict ∧
    Orderly settings context desk.worker.share rounds verdict ∧
    (succeeded ↔ verdict ≠ .failed) ∧
    (verdict = .halted →
      (desk.shared.stopped || made.dropLast.any (·.answer.interrupted)) = true)
  disposed : (∃ opened cause, opened.reply = .error cause ∧
      made = [⟨.newContext context, opened⟩]) ∨
    ∃ said disposed, made = said ++ [⟨.dispose context, disposed⟩] ∧
      ∀ exchange ∈ said, exchange.call ≠ .dispose context

theorem Segment.Flat.no_dispose {segment : Segment} (flat : segment.Flat context)
    {exchange : Exchange} (member : exchange ∈ segment.made) :
    exchange.call ≠ .dispose context := by
  obtain ⟨begun, steps, closing, same, inner, ends⟩ := flat
  rw [same] at member
  rcases List.mem_cons.mp member with rfl | member
  · simp
  rcases List.mem_append.mp member with early | late
  · obtain ⟨step, pair, same⟩ := inner exchange early
    simp [same]
  · rcases ends with rfl | ⟨ended, rfl⟩
    · cases late
    · obtain rfl := List.mem_singleton.mp late
      simp

theorem Scripted.no_dispose {fine : Exchange → Bool} {options : List String}
    {offered : List Exchange} {whole : Bool}
    (scripted : Scripted fine (options.map (Call.contextOption context)) offered whole)
    {exchange : Exchange} (member : exchange ∈ offered) : exchange.call ≠ .dispose context := by
  have among := scripted.calls_prefix.subset (List.mem_map_of_mem member)
  obtain ⟨option, _, same⟩ := List.mem_map.mp among
  simp [← same]

/-- A worker that went through its passes did so in the order of the protocol. -/
theorem Fulfilled.mannered {r : Reckoning settings} {desk left : Desk}
    {rounds : List (List Segment)} {made : List Exchange} {verdict : Verdict} {ok : Bool}
    (fulfilled : Fulfilled r context rounds verdict made ok desk left)
    (batches : desk.worker.kinds.contains .batch = true → 0 < settings.batchLength)
    (calm : ∀ exchange ∈ made, ∀ reason, exchange.answer.reply ≠ .panic reason) :
    Mannered settings context desk rounds made (ok = true) := by
  have said := fulfilled.said
  have success : ok = true ↔ verdict ≠ .failed := by simp [fulfilled.failed]
  have silent : Orderly settings context desk.worker.share [] verdict :=
    { passes := by simp
      ascending := by simp
      bracket := by simp
      flat := by simp
      sound := by simp
      cut := by simp
      quiet := by simp }
  refine ⟨calm, ⟨verdict, said, ?_, success, fulfilled.halted⟩, ?_⟩
  · cases said with
    | refused refuses => exact silent
    | rejected opens options => exact silent
    | worked opens options work => exact work.orderly batches
  · clear fulfilled
    cases said with
    | refused refuses => exact .inl ⟨_, _, refuses, rfl⟩
    | rejected opens options =>
        refine .inr ⟨_ :: _, _, rfl, ?_⟩
        intro exchange member
        rcases List.mem_cons.mp member with rfl | among
        · simp
        · exact options.no_dispose among
    | @worked opened disposed pair offered rounds verdict opens options work =>
        refine .inr ⟨⟨.newContext context, opened⟩ ::
          (offered ++ rounds.flatten.flatMap Segment.made), disposed, by simp, ?_⟩
        intro exchange member
        rcases List.mem_cons.mp member with rfl | among
        · simp
        rcases List.mem_append.mp among with early | late
        · exact options.no_dispose early
        · obtain ⟨segment, of, inside⟩ := List.mem_flatMap.mp late
          exact ((work.orderly batches).flat segment of).no_dispose inside

/-- Whatever the engine answers, a worker that does not end in a panic calls in the order of the
protocol, and an error that is not tolerated makes it fail.  A panic comes from the engine, or the
sums, the pools or the passes of the worker are larger than anything can be. -/
theorem calls_in_order {W : Type} {stage : Stage (StateM W)} {record : W → List Exchange}
    (heard : stage.Heard record) (settings : Settings) (context : Nat) {desk : Desk}
    (paired : desk.Paired)
    (batches : desk.worker.kinds.contains .batch = true → 0 < settings.batchLength) (world : W) :
    ∃ made result,
      record (runFrom (fulfil stage settings context) desk world).2 = record world ++ made ∧
      (runFrom (fulfil stage settings context) desk world).1.1 = result ∧
      ((∃ cause, result = .error (.panic cause) ∧
          Excuse (Strain (desk.reckoning settings)) made cause) ∨
        (∀ cause, result ≠ .error (.panic cause)) ∧
          ∃ rounds, Mannered settings context desk rounds made (result = .ok ())) := by
  obtain ⟨made, said, meets⟩ :=
    @fulfil_yields _ stage _ _ context _ _ (desk.enduring settings paired) world
  refine ⟨made, _, said record heard, rfl, ?_⟩
  generalize (runFrom (fulfil stage settings context) desk world).1 = ended at meets
  rcases ended with ⟨(cause | cause) | done, after⟩
  · obtain ⟨calm, rounds, verdict, left, _, fulfilled⟩ := meets
    have mannered := fulfilled.mannered batches calm.never
    exact .inr ⟨by simp, rounds, by simpa using mannered⟩
  · exact .inl ⟨cause, rfl, meets⟩
  · obtain ⟨calm, rounds, verdict, left, _, fulfilled⟩ := meets
    have mannered := fulfilled.mannered batches calm.never
    exact .inr ⟨by simp, rounds, by simpa using mannered⟩

/-- The second worker of the rehearsal before its work. -/
def rehearsedDesk : Option Desk :=
  seatedDesk rehearsed 1

/-- An engine that loses the store at one call, whatever the call is. -/
def losing (moment : Nat) (said : List Exchange) (_ : Call) : Answer :=
  if said.length = moment then ⟨.error (.failed "lost"), 3, false⟩ else ⟨.ok .empty, 3, false⟩

theorem calls_in_order_lost : ∃ desk rounds made, rehearsedDesk = some desk ∧
    (runFrom (fulfil (Stage.scribe (losing 40)) rehearsed 0) desk []).1.1 =
      .error (.failure (.engine (.failed "lost"))) ∧
    (runFrom (fulfil (Stage.scribe (losing 40)) rehearsed 0) desk []).2 = made ∧
    made.length = 42 ∧ Mannered rehearsed 0 desk rounds made False := by
  have checked : (rehearsedDesk.any fun desk => desk.Paired ∧
      (runFrom (fulfil (Stage.scribe (losing 40)) rehearsed 0) desk []).1.1 =
        .error (.failure (.engine (.failed "lost"))) ∧
      (runFrom (fulfil (Stage.scribe (losing 40)) rehearsed 0) desk []).2.length = 42) = true := by
    decide +kernel
  obtain ⟨desk, enlisted, told⟩ := (Option.any_eq_true _ _).mp checked
  obtain ⟨paired, ends, length⟩ := of_decide_eq_true told
  obtain ⟨made, result, said, ended, panics | ⟨_, rounds, mannered⟩⟩ :=
    calls_in_order (Stage.scribe_heard (losing 40)) rehearsed 0 paired (fun _ => by decide) []
  · obtain ⟨cause, panicked, _⟩ := panics
    rw [← ended, ends] at panicked
    cases panicked
  · change _ = made at said
    refine ⟨desk, rounds, made, enlisted, ends, said, ?_, ?_⟩
    · rw [← said]
      exact length
    · rw [← ended, ends] at mannered
      simpa using mannered

/-- Batches whose pools are longer than any buffer. -/
def crammed : Settings :=
  { Settings.default with kinds := [.batch], keys := 7, batchLength := 2 ^ 58 }

/-- The pools limit the length of a batch: with such settings the worker makes a context and panics,
and no call of a pass nor the end of the context is said. -/
theorem crammed_context_kept : ∃ desk made, seatedDesk crammed 0 = some desk ∧ desk.Paired ∧
    (runFrom (fulfil (Stage.scribe fun _ _ => ⟨.ok .empty, 3, false⟩) crammed 0) desk []).1.1 =
      .error (.panic .allocation) ∧
    (runFrom (fulfil (Stage.scribe fun _ _ => ⟨.ok .empty, 3, false⟩) crammed 0) desk []).2 = made ∧
    made.map Exchange.call = [.newContext 0] ∧
    ∀ rounds succeeded, ¬ Mannered crammed 0 desk rounds made succeeded := by
  have checked : ((seatedDesk crammed 0).any fun desk => desk.Paired ∧
      (runFrom (fulfil (Stage.scribe fun _ _ => ⟨.ok .empty, 3, false⟩) crammed 0) desk []).1.1 =
        .error (.panic .allocation) ∧
      (runFrom (fulfil (Stage.scribe fun _ _ => ⟨.ok .empty, 3, false⟩) crammed 0) desk []).2 =
        [⟨.newContext 0, ⟨.ok .empty, 3, false⟩⟩]) = true := by
    decide +kernel
  obtain ⟨desk, enlisted, told⟩ := (Option.any_eq_true _ _).mp checked
  obtain ⟨paired, ends, said⟩ := of_decide_eq_true told
  refine ⟨desk, _, enlisted, paired, ends, said, rfl, fun rounds succeeded mannered => ?_⟩
  rcases mannered.disposed with ⟨opened, cause, refused, same⟩ | ⟨said, disposed, same, _⟩
  · cases same
    cases refused
  · cases said <;> simp at same

end StoreBench.Run
