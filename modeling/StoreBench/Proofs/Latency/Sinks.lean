import Mathlib.Data.List.TakeWhile
import StoreBench.Proofs.Latency.Columns

/-! Sinks that stop accepting lines.

A hub offers each of its lines to its sink and forgets a sink that refuses one.  Nothing else
depends on the sink, so two histories that differ only in who is given the lines are alike for
everybody but the sinks; and a sink that takes a number of lines and no more has the first ones of
those that a sink with unlimited room would have.
-/

namespace StoreBench.Latency

/-- The line by itself, whoever took it. -/
def Emission.plain (emission : Emission) : Emission :=
  { emission with mirror := none }

def Checkpoint.plain : Checkpoint → Checkpoint
  | .emitted emission => .emitted emission.plain
  | checkpoint => checkpoint

def Answer.plain : Answer → Answer
  | .outcome checkpoint => .outcome checkpoint.plain
  | .line emission => .line (emission.map Emission.plain)
  | answer => answer

theorem ite_map {α β : Type} {part : Prop} [Decidable part] {map : α → β} {yes no : α}
    {mapped other : β} (first : mapped = map yes) (second : other = map no) :
    (if part then mapped else other) = map (if part then yes else no) := by
  split
  · exact first
  · exact second

/-- The hub as if nobody had asked for its lines. -/
def Hub.unmirrored (hub : Hub) : Hub :=
  { hub with timeline := none }

namespace Hub

variable (hub : Hub)

theorem emit_unmirrored (now : Nat) :
    hub.unmirrored.emit now = (hub.emit now).map Emission.plain unmirrored := by
  cases hub.timeline with
  | none => rfl
  | some writer => rfl

theorem tryLine_unmirrored (now : Nat) :
    hub.unmirrored.tryLine now =
      (hub.tryLine now).map (Except.map Checkpoint.plain) unmirrored := by
  have emits := emit_unmirrored { hub with counted := hub.counted + 1 } now
  refine ite_map rfl (ite_map rfl (ite_map rfl ?_))
  exact congrArg (fun emitted => (Except.ok (Checkpoint.emitted emitted.1), emitted.2)) emits

theorem detach_unmirrored (epoch now : Nat) :
    hub.unmirrored.detach epoch now =
      (hub.detach epoch now).map (Except.map (Option.map Emission.plain)) unmirrored := by
  refine ite_map rfl ?_
  have left : (if epoch = hub.unmirrored.epoch + 1 then
      { hub.unmirrored with counted := hub.unmirrored.counted - 1 } else hub.unmirrored) =
      unmirrored (if epoch = hub.epoch + 1 then { hub with counted := hub.counted - 1 } else hub) :=
    ite_map rfl rfl
  rw [left]
  generalize (if epoch = hub.epoch + 1 then { hub with counted := hub.counted - 1 } else hub) = rest
  refine ite_map rfl (ite_map ?_ rfl)
  exact congrArg (fun emitted => (Except.ok (some emitted.1), emitted.2))
    (emit_unmirrored { rest with attached := rest.attached - 1 } now)

theorem fold_unmirrored (kind : Kind) (source : Account) (epoch now : Nat) :
    hub.unmirrored.fold kind source epoch now =
      (hub.fold kind source epoch now).map (Except.map (Option.map Emission.plain))
        (Prod.map id unmirrored) := by
  have accounts : hub.unmirrored.accounts = hub.accounts := rfl
  unfold fold
  rw [accounts]
  refine ite_map rfl ?_
  rcases (hub.accounts.get kind).fold source with ⟨panic | _, account⟩
  · rfl
  refine ite_map rfl ?_
  have asks : { hub.unmirrored with accounts := hub.accounts.set kind account }.tryLine now =
      (tryLine { hub with accounts := hub.accounts.set kind account } now).map
        (Except.map Checkpoint.plain) unmirrored :=
    tryLine_unmirrored { hub with accounts := hub.accounts.set kind account } now
  rw [asks]
  rcases tryLine { hub with accounts := hub.accounts.set kind account } now
    with ⟨panic | checkpoint, next⟩
  · rfl
  · cases checkpoint with
    | early => rfl
    | pending => rfl
    | emitted emission => rfl

end Hub

namespace Recorder

variable (recorder : Recorder) (hub : Hub)

theorem foldInto_unmirrored (kind : Kind) (now : Nat) :
    recorder.foldInto hub.unmirrored kind now =
      (recorder.foldInto hub kind now).map (Except.map (Option.map Emission.plain))
        (Prod.map id Hub.unmirrored) := by
  unfold foldInto
  rw [hub.fold_unmirrored]
  rcases hub.fold kind recorder.account recorder.epoch now with ⟨panic | emission, told, next⟩
  · rfl
  · rfl

theorem add_unmirrored (start now volume : Nat) :
    recorder.add hub.unmirrored start now volume =
      (recorder.add hub start now volume).map (Except.map (Option.map Emission.plain))
        (Prod.map id Hub.unmirrored) := by
  unfold add
  rcases recorder.account.record start now volume with ⟨panic | _, account⟩
  · rfl
  rcases recorder.kind with _ | kind
  · rfl
  · exact ite_map rfl (foldInto_unmirrored _ hub kind now)

theorem merge_unmirrored (now : Nat) :
    recorder.merge hub.unmirrored now =
      (recorder.merge hub now).map (Except.map (Option.map Emission.plain))
        (Prod.map id Hub.unmirrored) := by
  unfold merge
  rcases recorder.kind with _ | kind
  · rfl
  · exact ite_map (recorder.foldInto_unmirrored hub kind now) rfl

end Recorder

/-- An action that gives the lines another sink. -/
def Action.redirects : Action → Bool
  | .mirror _ => true
  | _ => false

namespace Ensemble

variable (ensemble : Ensemble)

def unmirrored : Ensemble :=
  { ensemble with hub := ensemble.hub.unmirrored }

theorem atPlace_unmirrored (place : Nat)
    (operation : Recorder → Hub → Except Panic (Option Emission) × Recorder × Hub)
    (same : ∀ recorder, operation recorder ensemble.hub.unmirrored =
      (operation recorder ensemble.hub).map (Except.map (Option.map Emission.plain))
        (Prod.map id Hub.unmirrored)) :
    ensemble.unmirrored.atPlace place operation =
      (ensemble.atPlace place operation).map (Except.map Answer.plain) unmirrored := by
  rcases found : ensemble.recorders[place]? with _ | recorder
  · rw [atPlace_of_none found, @atPlace_of_none ensemble.unmirrored place found]
    rfl
  · have like : operation recorder ensemble.unmirrored.hub = _ := same recorder
    rw [atPlace_of_some found, @atPlace_of_some ensemble.unmirrored place recorder found, like]
    rcases operation recorder ensemble.hub with ⟨panic | emission, after, next⟩
    · rfl
    · rfl

theorem step_unmirrored {action : Action} (keeps : action.redirects = false) :
    ensemble.unmirrored.step action =
      (ensemble.step action).map (Except.map Answer.plain) unmirrored := by
  cases action with
  | mirror writer => cases keeps
  | enable kind =>
      refine congrArg (fun hub => (Except.ok Answer.done, Ensemble.mk hub ensemble.recorders)) ?_
      exact ite_map rfl rfl
  | summarize kind => rfl
  | checkpoint now =>
      have like : ensemble.unmirrored.hub.tryLine now = _ := ensemble.hub.tryLine_unmirrored now
      simp only [step, like]
      rcases ensemble.hub.tryLine now with ⟨panic | checkpoint, next⟩
      · rfl
      · rfl
  | finish now =>
      have like : ensemble.unmirrored.hub.emit now = _ := ensemble.hub.emit_unmirrored now
      simp only [step, like]
      rfl
  | attach now => rfl
  | count place => rfl
  | reset place kind now =>
      exact ensemble.atPlace_unmirrored place
        (fun recorder hub => (.ok none, recorder.reset kind now, hub)) fun _ => rfl
  | add place start now volume =>
      exact ensemble.atPlace_unmirrored place
        (fun recorder hub => recorder.add hub start now volume) fun recorder =>
          recorder.add_unmirrored ensemble.hub start now volume
  | merge place now =>
      exact ensemble.atPlace_unmirrored place (fun recorder hub => recorder.merge hub now)
        fun recorder => recorder.merge_unmirrored ensemble.hub now
  | drop place now =>
      have recorders : ensemble.unmirrored.recorders = ensemble.recorders := rfl
      simp only [step, recorders]
      rcases ensemble.recorders[place]? with _ | recorder
      · rfl
      · have like : recorder.drop ensemble.unmirrored.hub now =
            (recorder.drop ensemble.hub now).map (Except.map (Option.map Emission.plain))
              Hub.unmirrored := ensemble.hub.detach_unmirrored recorder.epoch now
        simp only [like]
        rcases recorder.drop ensemble.hub now with ⟨panic | emission, next⟩
        · rfl
        · rfl

theorem lineIn_plain (result : Except Panic Answer) :
    lineIn (result.map Answer.plain) = (lineIn result).map Emission.plain := by
  rcases result with panic | answer
  · rfl
  · cases answer with
    | outcome checkpoint =>
        cases checkpoint with
        | early => rfl
        | pending => rfl
        | emitted emission => rfl
    | done => rfl
    | line emission => rfl
    | samples count => rfl
    | summary summary => rfl

theorem map_plain_plain (result : Except Panic Answer) :
    (result.map Answer.plain).map Answer.plain = result.map Answer.plain := by
  rcases result with panic | answer
  · rfl
  · cases answer with
    | outcome checkpoint =>
        cases checkpoint with
        | early => rfl
        | pending => rfl
        | emitted emission => rfl
    | done => rfl
    | line emission =>
        cases emission with
        | none => rfl
        | some emission => rfl
    | samples count => rfl
    | summary summary => rfl

/-- What the actions answer, the lines by themselves.  Nothing is answered to one that gives the
lines another sink. -/
def replies (ensemble : Ensemble) : List Action → List (Except Panic Answer)
  | [] => []
  | action :: actions =>
    (if action.redirects then [] else [(ensemble.step action).1.map Answer.plain]) ++
      (ensemble.step action).2.replies actions

end Ensemble

/-- The same actions without any sink. -/
def silenced (actions : List Action) : List Action :=
  actions.filter fun action => !action.redirects

namespace Ensemble

variable {ensemble : Ensemble} {left right : List Action}

theorem run_silenced (ensemble : Ensemble) (actions : List Action) :
    (ensemble.run actions).unmirrored = ensemble.unmirrored.run (silenced actions) ∧
      ensemble.replies actions = ensemble.unmirrored.replies (silenced actions) ∧
      (ensemble.emissions actions).map Emission.plain =
        ensemble.unmirrored.emissions (silenced actions) := by
  induction actions generalizing ensemble with
  | nil => exact ⟨rfl, rfl, rfl⟩
  | cons action actions ih =>
      obtain ⟨run, replies, emissions⟩ := ih (ensemble.step action).2
      cases redirects : action.redirects with
      | true =>
          have same : silenced (action :: actions) = silenced actions :=
            List.filter_cons_of_neg (by simp [redirects])
          have still : (ensemble.step action).2.unmirrored = ensemble.unmirrored ∧
              lineIn (ensemble.step action).1 = none := by
            cases action with
            | mirror writer => exact ⟨rfl, rfl⟩
            | _ => cases redirects
          rw [still.1] at run replies emissions
          rw [same]
          refine ⟨run, ?_, ?_⟩
          · rw [Ensemble.replies, redirects, if_pos rfl, List.nil_append, replies]
          · rw [Ensemble.emissions, still.2, Option.toList_none, List.nil_append, emissions]
      | false =>
          have same : silenced (action :: actions) = action :: silenced actions :=
            List.filter_cons_of_pos (by simp [redirects])
          have like := ensemble.step_unmirrored redirects
          rw [same]
          refine ⟨?_, ?_, ?_⟩
          · rw [Ensemble.run, Ensemble.run, run, like]
            rfl
          · rw [Ensemble.replies, Ensemble.replies, replies, like, redirects]
            simp [map_plain_plain]
          · rw [Ensemble.emissions, Ensemble.emissions, List.map_append, emissions, like]
            simp [lineIn_plain, Option.toList_map]

/-- Nobody but the sinks can tell two histories apart. -/
structure Alike (ensemble : Ensemble) (left right : List Action) : Prop where
  replies : ensemble.replies left = ensemble.replies right
  printed : (ensemble.emissions left).flatMap Emission.text =
    (ensemble.emissions right).flatMap Emission.text
  hub : (ensemble.run left).hub.unmirrored = (ensemble.run right).hub.unmirrored
  recorders : (ensemble.run left).recorders = (ensemble.run right).recorders
  epoch : (ensemble.run left).hub.epoch = (ensemble.run right).hub.epoch
  counted : (ensemble.run left).hub.counted = (ensemble.run right).hub.counted
  summaries : (ensemble.run left).hub.summaries = (ensemble.run right).hub.summaries

theorem text_plain (emissions : List Emission) :
    (emissions.map Emission.plain).flatMap Emission.text = emissions.flatMap Emission.text := by
  rw [List.flatMap_map]
  rfl

theorem alike_of_silenced (same : silenced left = silenced right) : ensemble.Alike left right := by
  obtain ⟨run, replies, emissions⟩ := ensemble.run_silenced left
  obtain ⟨runToo, repliesToo, emissionsToo⟩ := ensemble.run_silenced right
  rw [same] at run replies emissions
  have ends : (ensemble.run left).unmirrored = (ensemble.run right).unmirrored :=
    run.trans runToo.symm
  have agree {β : Type} (reading : Ensemble → β) : reading (ensemble.run left).unmirrored =
      reading (ensemble.run right).unmirrored := congrArg reading ends
  exact
    { replies := replies.trans repliesToo.symm
      printed := by rw [← text_plain, emissions, ← emissionsToo, text_plain]
      hub := agree Ensemble.hub
      recorders := agree Ensemble.recorders
      epoch := agree (·.hub.epoch)
      counted := agree (·.hub.counted)
      summaries := agree (·.hub.summaries) }

end Ensemble

/-- The lines that the sink of this name took. -/
def accepted (sink : String) (emissions : List Emission) : List Emission :=
  emissions.filter (·.mirror = some sink)

theorem written_eq_csv (sink : String) (emissions : List Emission) :
    written sink emissions =
      String.join (((accepted sink emissions).map Emission.plain).map Emission.csv) := by
  rw [List.map_map]
  rfl

/-- The lines before anybody gives them another sink. -/
def Ensemble.own (ensemble : Ensemble) (actions : List Action) : List Emission :=
  ensemble.emissions (actions.takeWhile fun action => !action.redirects)

/-- The lines that were offered to the sink of this name. -/
def Ensemble.offered (sink : String) (ensemble : Ensemble) : List Action → List Emission
  | [] => []
  | action :: actions =>
    (if ensemble.hub.timeline.any (·.sink = sink) then (lineIn (ensemble.step action).1).toList
      else []) ++ (ensemble.step action).2.offered sink actions

section Offers

variable {sink : String} {actions : List Action} {action : Action}

theorem Ensemble.step_offers (ensemble : Ensemble) (keeps : action.redirects = false) :
    (lineIn (ensemble.step action).1 = none ∧
      (ensemble.step action).2.hub.timeline = ensemble.hub.timeline) ∨
    ∃ mid : Hub, ∃ now, mid.timeline = ensemble.hub.timeline ∧
      lineIn (ensemble.step action).1 = some (mid.emit now).1 ∧
      (ensemble.step action).2.hub.timeline = (mid.emit now).2.timeline := by
  by_cases works : action.works = true
  · have prints := ensemble.step_prints works
    generalize lineIn (ensemble.step action).1 = emission at prints ⊢
    generalize (ensemble.step action).2.hub = next at prints ⊢
    cases prints with
    | silent steady => exact .inl ⟨rfl, steady.timeline⟩
    | @line mid steady now => exact .inr ⟨mid, now, steady.timeline, rfl, rfl⟩
  · cases action with
    | enable kind =>
        left
        refine ⟨rfl, ?_⟩
        change (ensemble.hub.enable kind).timeline = _
        unfold Hub.enable
        split
        · rfl
        · rfl
    | mirror writer => cases keeps
    | _ => exact absurd rfl works

/-- The lines go to another sink than that of this name, or to none. -/
def Hub.Spares (hub : Hub) (sink : String) : Prop :=
  ∀ writer ∈ hub.timeline, writer.sink ≠ sink

theorem Hub.Spares.emit {hub : Hub} (spares : hub.Spares sink) (now : Nat) :
    (hub.emit now).1.mirror ≠ some sink ∧ (hub.emit now).2.Spares sink := by
  rcases given : hub.timeline with _ | ⟨other, _ | _ | room⟩
  all_goals
    simp only [Spares, given] at spares
    simp [Hub.emit, Spares, Writer.offer, given]
  · exact spares _ rfl
  · exact spares _ rfl

theorem Ensemble.spared (ensemble : Ensemble) (spares : ensemble.hub.Spares sink)
    (fresh : ∀ writer, .mirror writer ∈ actions → writer.sink ≠ sink) :
    accepted sink (ensemble.emissions actions) = [] ∧ ensemble.offered sink actions = [] := by
  induction actions generalizing ensemble with
  | nil => exact ⟨rfl, rfl⟩
  | cons action actions ih =>
      have quiet : ensemble.hub.timeline.any (·.sink = sink) = false := by
        rcases given : ensemble.hub.timeline with _ | writer
        · rfl
        · simp [spares writer given]
      have later (writer : Writer) (member : .mirror writer ∈ actions) : writer.sink ≠ sink :=
        fresh writer (List.mem_cons_of_mem _ member)
      rw [emissions, offered, quiet, if_neg Bool.false_ne_true, List.nil_append, accepted,
        List.filter_append]
      cases redirects : action.redirects with
      | true =>
          cases action with
          | mirror writer =>
              refine ih _ (fun other given => ?_) later
              obtain rfl := Option.some.inj given
              exact fresh writer List.mem_cons_self
          | _ => cases redirects
      | false =>
          rcases ensemble.step_offers redirects with ⟨silent, same⟩ | ⟨mid, now, same, line, next⟩
          · rw [silent]
            exact ih _ (by rw [Hub.Spares, same]; exact spares) later
          · have spares : mid.Spares sink := by rw [Hub.Spares, same]; exact spares
            obtain ⟨mirror, spared⟩ := spares.emit now
            obtain ⟨none, nothing⟩ := ih (ensemble.step action).2
              (by rw [Hub.Spares, next]; exact spared) later
            rw [accepted] at none
            rw [line, none, nothing]
            simp [mirror]

/-- As many as there is room for. -/
def upTo (room : Option Nat) (lines : List Emission) : List Emission :=
  room.elim lines lines.take

@[simp] theorem upTo_nil (room : Option Nat) : upTo room [] = [] := by
  cases room with
  | none => rfl
  | some room => exact List.take_nil

theorem Ensemble.offered_own (ensemble : Ensemble) {room : Option Nat}
    (mirrored : ensemble.hub.timeline = some ⟨sink, room⟩)
    (fresh : ∀ writer, .mirror writer ∈ actions → writer.sink ≠ sink) :
    accepted sink (ensemble.emissions actions) = upTo room (ensemble.own actions) ∧
      ensemble.offered sink actions = upTo (room.map (· + 1)) (ensemble.own actions) ∧
      ∀ place emission, (ensemble.offered sink actions)[place]? = some emission →
        (emission.mirror = some sink ↔ ∀ most ∈ room, place < most) := by
  induction actions generalizing ensemble room with
  | nil =>
      exact ⟨(upTo_nil room).symm, (upTo_nil _).symm, fun place emission found => by cases found⟩
  | cons action actions ih =>
      have asked : ensemble.hub.timeline.any (·.sink = sink) = true := by
        simp [mirrored]
      have later (writer : Writer) (member : .mirror writer ∈ actions) : writer.sink ≠ sink :=
        fresh writer (List.mem_cons_of_mem _ member)
      rw [emissions, offered, asked, if_pos rfl, accepted, List.filter_append]
      cases redirects : action.redirects with
      | true =>
          have own : ensemble.own (action :: actions) = [] := by
            rw [Ensemble.own, List.takeWhile_cons_of_neg (by simp [redirects])]
            rfl
          cases action with
          | mirror writer =>
              obtain ⟨none, unasked⟩ := (ensemble.step (.mirror writer)).2.spared
                (fun other given => by
                  obtain rfl := Option.some.inj given
                  exact fresh writer List.mem_cons_self) later
              rw [accepted] at none
              rw [own, upTo_nil, upTo_nil, none, unasked]
              exact ⟨rfl, rfl, fun place emission found => by cases found⟩
          | _ => cases redirects
      | false =>
          have own : ensemble.own (action :: actions) =
              (lineIn (ensemble.step action).1).toList ++ (ensemble.step action).2.own actions := by
            rw [Ensemble.own, List.takeWhile_cons_of_pos (by simp [redirects])]
            rfl
          rw [own]
          rcases ensemble.step_offers redirects with ⟨silent, same⟩ | ⟨mid, now, same, line, next⟩
          · rw [silent]
            exact ih _ (same.trans mirrored) later
          rw [line]
          rw [← same] at mirrored
          rcases room with _ | _ | room
          · have took : (mid.emit now).1.mirror = some sink := by
              simp [Hub.emit, mirrored, Writer.offer]
            have stays : (mid.emit now).2.timeline = some ⟨sink, none⟩ := by
              simp [Hub.emit, mirrored, Writer.offer]
            obtain ⟨taken, offers, refused⟩ := ih _ (next.trans stays) later
            rw [accepted] at taken
            refine ⟨?_, ?_, ?_⟩
            · rw [taken]
              simp [took, upTo]
            · rw [offers]
              rfl
            · intro place emission found
              cases place with
              | zero =>
                  obtain rfl := Option.some.inj found
                  simp [took]
              | succ place => simpa using refused place emission found
          · have refused : (mid.emit now).1.mirror = none := by
              simp [Hub.emit, mirrored, Writer.offer]
            have gone : (mid.emit now).2.timeline = none := by
              simp [Hub.emit, mirrored, Writer.offer]
            obtain ⟨none, unasked⟩ := (ensemble.step action).2.spared
              (fun other given => by cases (next.trans gone).symm.trans given) later
            rw [accepted] at none
            refine ⟨?_, ?_, ?_⟩
            · rw [none]
              simp [refused, upTo]
            · rw [unasked]
              simp [upTo]
            · intro place emission found
              rw [unasked] at found
              cases place with
              | zero =>
                  obtain rfl := Option.some.inj found
                  simp [refused]
              | succ place => cases found
          · have took : (mid.emit now).1.mirror = some sink := by
              simp [Hub.emit, mirrored, Writer.offer]
            have stays : (mid.emit now).2.timeline = some ⟨sink, some room⟩ := by
              simp [Hub.emit, mirrored, Writer.offer]
            obtain ⟨taken, offers, refused⟩ := ih _ (next.trans stays) later
            rw [accepted] at taken
            refine ⟨?_, ?_, ?_⟩
            · rw [taken]
              simp [took, upTo]
            · rw [offers]
              simp [upTo]
            · intro place emission found
              cases place with
              | zero =>
                  obtain rfl := Option.some.inj found
                  simp [took]
              | succ place => simpa using refused place emission found

end Offers

namespace Ensemble

variable {sink : String} {room : Option Nat} {before after : List Action}

theorem emissions_append (ensemble : Ensemble) (before after : List Action) :
    ensemble.emissions (before ++ after) =
      ensemble.emissions before ++ (ensemble.run before).emissions after := by
  induction before generalizing ensemble with
  | nil => rfl
  | cons action before ih =>
      rw [List.cons_append, emissions, emissions, ih, List.append_assoc]
      rfl

theorem offered_append (ensemble : Ensemble) (before after : List Action) :
    ensemble.offered sink (before ++ after) =
      ensemble.offered sink before ++ (ensemble.run before).offered sink after := by
  induction before generalizing ensemble with
  | nil => rfl
  | cons action before ih =>
      rw [List.cons_append, offered, offered, ih, List.append_assoc]
      rfl

theorem own_plain (ensemble : Ensemble) (actions : List Action) :
    (ensemble.own actions).map Emission.plain = ensemble.unmirrored.own actions := by
  have kept : silenced (actions.takeWhile fun action => !action.redirects) =
      actions.takeWhile fun action => !action.redirects :=
    List.filter_eq_self.mpr fun _ => List.mem_takeWhile_imp
  obtain ⟨_, _, emissions⟩ :=
    ensemble.run_silenced (actions.takeWhile fun action => !action.redirects)
  rwa [kept] at emissions

theorem upTo_map (room : Option Nat) (lines : List Emission) :
    (upTo room lines).map Emission.plain = upTo room (lines.map Emission.plain) := by
  cases room with
  | none => rfl
  | some room => exact List.map_take

/-- What becomes of these lines, which are offered to a sink with so much room. -/
structure Offers (sink : String) (room : Option Nat) (lines emissions offered : List Emission) :
    Prop where
  taken : (accepted sink emissions).map Emission.plain = upTo room lines
  attempts : offered.map Emission.plain = upTo (room.map (· + 1)) lines
  refused : ∀ place emission, offered[place]? = some emission →
    (emission.mirror = some sink ↔ ∀ most ∈ room, place < most)

theorem set_offers (ensemble : Ensemble)
    (fresh : ∀ writer, .mirror writer ∈ after → writer.sink ≠ sink) :
    Offers sink room (ensemble.unmirrored.own after)
      (ensemble.emissions (.mirror ⟨sink, room⟩ :: after))
      (ensemble.offered sink (.mirror ⟨sink, room⟩ :: after)) := by
  obtain ⟨next, set⟩ : ∃ next, next = (ensemble.step (.mirror ⟨sink, room⟩)).2 := ⟨_, rfl⟩
  have mirrored : next.hub.timeline = some ⟨sink, room⟩ := by
    rw [set]
    rfl
  have plain : (next.own after).map Emission.plain = ensemble.unmirrored.own after := by
    rw [own_plain, set]
    rfl
  obtain ⟨taken, offers, refused⟩ := next.offered_own mirrored fresh
  have emissions : ensemble.emissions (.mirror ⟨sink, room⟩ :: after) = next.emissions after := by
    rw [Ensemble.emissions, ← set]
    rfl
  have offered : ensemble.offered sink (.mirror ⟨sink, room⟩ :: after) =
      next.offered sink after := by
    rw [Ensemble.offered, ← set]
    exact (congrArg (· ++ _) (ite_self _)).trans (List.nil_append _)
  rw [emissions, offered]
  exact
    { taken := by rw [taken, upTo_map, plain]
      attempts := by rw [offers, upTo_map, plain]
      refused := refused }

theorem set_between_offers (ensemble : Ensemble) (spares : ensemble.hub.Spares sink)
    (fresh : ∀ writer, .mirror writer ∈ before ++ after → writer.sink ≠ sink) :
    Offers sink room ((ensemble.run before).unmirrored.own after)
      (ensemble.emissions (before ++ .mirror ⟨sink, room⟩ :: after))
      (ensemble.offered sink (before ++ .mirror ⟨sink, room⟩ :: after)) := by
  obtain ⟨none, unasked⟩ := ensemble.spared spares fun writer member =>
    fresh writer (List.mem_append_left _ member)
  obtain ⟨taken, offers, refused⟩ := @set_offers sink room after (ensemble.run before)
    fun writer member => fresh writer (List.mem_append_right _ member)
  rw [emissions_append, offered_append, unasked, List.nil_append]
  refine ⟨?_, offers, refused⟩
  rw [accepted] at none taken ⊢
  rw [List.filter_append, none, List.nil_append, taken]

end Ensemble

/-- What a sink is given that takes so many of these lines, next to one that takes them all; nothing
is offered after the line that is refused. -/
structure Curtailed (sink : String) (room : Nat) (lines failing offered reliable : List Emission) :
    Prop where
  whole : written sink reliable = String.join (lines.map Emission.csv)
  part : written sink failing = String.join ((lines.take room).map Emission.csv)
  rest : written sink reliable =
    written sink failing ++ String.join ((lines.drop room).map Emission.csv)
  attempts : offered.map Emission.plain = lines.take (room + 1)
  refused : ∀ place emission, offered[place]? = some emission →
    (emission.mirror = some sink ↔ place < room)

theorem curtailed_of_offers {sink : String} {room : Nat}
    {lines failing offered reliable others : List Emission}
    (part : Ensemble.Offers sink (some room) lines failing offered)
    (whole : Ensemble.Offers sink none lines reliable others) :
    Curtailed sink room lines failing offered reliable where
  whole := by
    rw [written_eq_csv, whole.taken]
    rfl
  part := by
    rw [written_eq_csv, part.taken]
    rfl
  rest := by
    rw [written_eq_csv, written_eq_csv, whole.taken, part.taken, ← String.join_append,
      ← List.map_append]
    exact congrArg (fun given => String.join (given.map Emission.csv))
      (List.take_append_drop room lines).symm
  attempts := part.attempts
  refused place emission found := by simpa using part.refused place emission found

namespace Ensemble

/-- A sink with room for so many lines, set between two parts of a history, affects nobody else. -/
structure Contained (ensemble : Ensemble) (sink : String) (room : Nat)
    (before after : List Action) : Prop where
  reliable : ensemble.Alike (before ++ .mirror ⟨sink, some room⟩ :: after)
    (before ++ .mirror ⟨sink, none⟩ :: after)
  bare : ensemble.Alike (before ++ .mirror ⟨sink, some room⟩ :: after) (silenced (before ++ after))
  text : Curtailed sink room ((ensemble.run before).unmirrored.own after)
    (ensemble.emissions (before ++ .mirror ⟨sink, some room⟩ :: after))
    (ensemble.offered sink (before ++ .mirror ⟨sink, some room⟩ :: after))
    (ensemble.emissions (before ++ .mirror ⟨sink, none⟩ :: after))

/-- A sink that stops taking lines changes nothing but its own text, whatever happens before and
after it is set, be it to other sinks. -/
theorem failing_sink_contained (interval start room : Nat) (sink : String)
    (before after : List Action)
    (fresh : ∀ writer, .mirror writer ∈ before ++ after → writer.sink ≠ sink) :
    (Ensemble.new interval start).Contained sink room before after where
  reliable := alike_of_silenced (by simp [silenced, Action.redirects])
  bare := alike_of_silenced (by simp [silenced, Action.redirects])
  text := by
    have spares : (Ensemble.new interval start).hub.Spares sink := fun writer given => by cases given
    exact curtailed_of_offers (set_between_offers _ spares fresh) (set_between_offers _ spares fresh)

/-- The first line is emitted before the sink is set. -/
def opening : List Action :=
  [.enable .set, .attach 0, .reset 0 .set 0, .add 0 0 5 1, .finish 10]

/-- There are three lines before another sink is set. -/
def sequel : List Action :=
  [.finish 20, .add 0 20 29 1, .merge 0 30, .finish 40, .finish 50, .mirror ⟨"others", none⟩,
    .finish 60]

theorem failing_sink_contained_once :
    ((∀ writer, .mirror writer ∈ opening ++ sequel → writer.sink ≠ "lines") ∧
      (Ensemble.new 1000 0).Contained "lines" 1 opening sequel) ∧
      (((Ensemble.new 1000 0).run opening).unmirrored.own sequel).length = 3 ∧
      ((Ensemble.new 1000 0).offered "lines"
        (opening ++ .mirror ⟨"lines", some 1⟩ :: sequel)).map (·.mirror) = [some "lines", none] := by
  have fresh : ∀ writer, .mirror writer ∈ opening ++ sequel → writer.sink ≠ "lines" := by
    intro writer member
    have other : writer = ⟨"others", none⟩ := by simpa [opening, sequel] using member
    rw [other]
    decide
  exact ⟨⟨fresh, failing_sink_contained 1000 0 1 "lines" opening sequel fresh⟩, by decide +kernel,
    by decide +kernel⟩

end Ensemble

end StoreBench.Latency
