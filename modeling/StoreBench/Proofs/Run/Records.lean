import StoreBench.Engine.Probe
import StoreBench.Proofs.Engine.Contents
import StoreBench.Proofs.Engine.Cursor
import StoreBench.Proofs.Run.Effects

/-! The records of a pass of the cursor.

A pass over an ordered engine whose map stays as it is takes the least pairs of the map, as many as
its share allows, and comes to the end of the store only if the share is not spent by then.
-/

namespace StoreBench.Engine

namespace Exchange

/-- What was said, without the time it took. -/
def entry (exchange : Exchange) : Entry :=
  ⟨exchange.call, exchange.answer.reply⟩

end Exchange

namespace Ordered

variable {engine other : Ordered} {context : Nat}

theorem answer_store (engine : Ordered) {call : Call} (scans : call.kind? = some .iterate) :
    (engine.answer call).2.store = engine.store := by
  cases call with
  | begin owner kind =>
      cases scans
      rfl
  | done owner kind =>
      cases scans
      rfl
  | next owner kind pair =>
      cases scans
      rw [answer_iterate]
      split
      · rfl
      · rfl
  | _ => cases scans

theorem answer_congr (sorted : engine.store.Sorted)
    (stored : other.store.toList = engine.store.toList)
    (placed : other.cursor? context = engine.cursor? context) {call : Call}
    (scans : call.kind? = some .iterate) (own : call.context? = some context) :
    (other.answer call).1 = (engine.answer call).1 ∧
      (other.answer call).2.cursor? context = (engine.answer call).2.cursor? context := by
  cases call with
  | begin owner kind =>
      cases scans
      cases own
      refine ⟨rfl, ?_⟩
      change (other.clearCursor context).cursor? context = (engine.clearCursor context).cursor? context
      rw [cursor?_clear, cursor?_clear, if_pos rfl, if_pos rfl]
  | done owner kind =>
      cases scans
      cases own
      refine ⟨rfl, ?_⟩
      change (other.clearCursor context).cursor? context = (engine.clearCursor context).cursor? context
      rw [cursor?_clear, cursor?_clear, if_pos rfl, if_pos rfl]
  | next owner kind pair =>
      cases scans
      cases own
      have sortedToo : other.store.Sorted := by
        unfold Store.Sorted
        rw [stored]
        exact sorted
      have same : other.store.seek? (other.cursor? context) =
          engine.store.seek? (engine.cursor? context) := by
        rw [Store.seek?_eq sortedToo, Store.seek?_eq sorted, stored, placed]
      rw [answer_iterate, answer_iterate, same]
      cases engine.store.seek? (engine.cursor? context) with
      | none => exact ⟨rfl, placed⟩
      | some found =>
          refine ⟨rfl, ?_⟩
          dsimp only
          rw [cursor?_set, cursor?_set, if_pos rfl, if_pos rfl]
  | _ => cases scans

/-- What is said when some calls are made. -/
def entries (engine : Ordered) : List Call → List Entry
  | [] => []
  | call :: calls => ⟨call, (engine.answer call).1⟩ :: (engine.answer call).2.entries calls

theorem entries_append (calls more : List Call) :
    engine.entries (calls ++ more) = engine.entries calls ++ (engine.after calls).entries more := by
  induction calls generalizing engine with
  | nil => rfl
  | cons call calls ih =>
      rw [List.cons_append, entries, ih]
      rfl

theorem sorted_after (sorted : engine.store.Sorted) (calls : List Call) :
    (engine.after calls).store.Sorted := by
  have represents : engine.Represents fun key => engine.store.find? key := ⟨sorted, fun _ => rfl⟩
  exact (represents.after calls).sorted

theorem after_append (calls more : List Call) :
    engine.after (calls ++ more) = (engine.after calls).after more :=
  List.foldl_append

/-- The pairs that a cursor has before it. -/
def ahead (engine : Ordered) (context : Nat) : List Pair :=
  engine.store.toList.filter (Beyond (engine.cursor? context) ·.key)

theorem ahead_of_none (start : engine.cursor? context = none) :
    engine.ahead context = engine.store.toList := by
  unfold ahead
  rw [start]
  exact List.filter_eq_self.mpr fun _ _ => rfl

theorem answer_of_ahead_nil (sorted : engine.store.Sorted) (nothing : engine.ahead context = [])
    (asked : Pair) :
    engine.answer (.next context .iterate asked) = (.error .notFound, engine) := by
  rw [answer_iterate, Store.seek?_eq sorted, ← List.head?_filter]
  unfold ahead at nothing
  rw [nothing]
  rfl

theorem answer_of_ahead_cons (sorted : engine.store.Sorted) {first : Pair} {rest : List Pair}
    (before : engine.ahead context = first :: rest) (asked : Pair) :
    engine.answer (.next context .iterate asked) = (.ok first, engine.setCursor context first.key) ∧
      (engine.setCursor context first.key).ahead context = rest := by
  refine ⟨?_, ?_⟩
  · rw [answer_iterate, Store.seek?_eq sorted, ← List.head?_filter]
    unfold ahead at before
    rw [before]
    rfl
  · have ascends : (first :: rest).Pairwise fun left right => left.key < right.key := by
      rw [← before]
      exact sorted.filter _
    obtain ⟨above, _⟩ := List.pairwise_cons.mp ascends
    have reached : Beyond (engine.cursor? context) first.key := by
      have member : first ∈ engine.ahead context := by
        rw [before]
        exact List.mem_cons_self
      simpa [ahead] using (List.mem_filter.mp member).2
    have further : (engine.setCursor context first.key).ahead context =
        (engine.ahead context).filter fun pair => decide (first.key < pair.key) := by
      unfold ahead
      rw [cursor?_set, if_pos rfl, List.filter_filter]
      refine List.filter_congr fun pair _ => ?_
      have stands : Beyond (some first.key) pair.key ↔ first.key < pair.key := Iff.rfl
      have implied : first.key < pair.key → Beyond (engine.cursor? context) pair.key := reached.trans
      simp only [stands, ← Bool.decide_and, decide_eq_decide]
      exact ⟨fun less => ⟨less, implied less⟩, And.left⟩
    rw [further, before, List.filter_cons_of_neg (by simp), List.filter_eq_self]
    intro pair member
    exact decide_eq_true (above pair member)

theorem entries_scan (sorted : engine.store.Sorted) (count : Nat) :
    engine.entries (List.replicate count (.next context .iterate .empty)) =
      ((engine.ahead context).take count).map
          (fun pair => ⟨.next context .iterate .empty, .ok pair⟩) ++
        List.replicate (count - (engine.ahead context).length)
          ⟨.next context .iterate .empty, .error .notFound⟩ := by
  induction count generalizing engine with
  | zero => simp [entries]
  | succ count ih =>
      rw [List.replicate_succ, entries]
      rcases before : engine.ahead context with _ | ⟨first, rest⟩
      · have ended := answer_of_ahead_nil sorted before .empty
        rw [ended, ih sorted, before]
        simp [List.replicate_succ]
      · obtain ⟨returned, further⟩ := answer_of_ahead_cons sorted before .empty
        rw [returned, ih (by exact sorted), further]
        simp [Nat.succ_sub_succ]

theorem begin_ahead (engine : Ordered) (context : Nat) :
    (engine.clearCursor context).ahead context = engine.store.toList := by
  refine ahead_of_none ?_
  rw [cursor?_clear, if_pos rfl]

theorem entries_walk (sorted : engine.store.Sorted) (context count : Nat) (calls : List Call) :
    ∃ later : Ordered,
      engine.entries (.begin context .iterate ::
          (List.replicate count (.next context .iterate .empty) ++ calls)) =
        ⟨.begin context .iterate, .success⟩ :: ((engine.store.toList.take count).map
            (fun pair => ⟨.next context .iterate .empty, .ok pair⟩) ++
          List.replicate (count - engine.store.toList.length)
            ⟨.next context .iterate .empty, .error .notFound⟩ ++ later.entries calls) := by
  have begun : engine.answer (.begin context .iterate) = (.success, engine.clearCursor context) :=
    rfl
  have scans := @entries_scan (engine.clearCursor context) context sorted count
  rw [begin_ahead] at scans
  refine ⟨(engine.clearCursor context).after
    (List.replicate count (.next context .iterate .empty)), ?_⟩
  rw [entries, begun, entries_append, scans]

end Ordered

/-- The entry of a record that a cursor came to. -/
def Entry.isRecord (entry : Entry) : Bool :=
  match entry.call, entry.reply with
  | .next _ .iterate _, .ok _ => true
  | _, _ => false

theorem countP_isRecord (made : List Exchange) :
    made.countP Exchange.isRecord = (made.map Exchange.entry).countP Entry.isRecord := by
  rw [List.countP_map]
  rfl

/-- What is said in a pass of a cursor over these pairs. -/
def cursorEntries (context share : Nat) (pairs : List Pair) : List Entry :=
  ⟨.begin context .iterate, .success⟩ ::
    ((pairs.take share).map (fun pair => ⟨.next context .iterate .empty, .ok pair⟩) ++
      (if pairs.length < share then [⟨.next context .iterate .empty, .error .notFound⟩] else []) ++
      [⟨.done context .iterate, .success⟩])

end StoreBench.Engine

namespace StoreBench.Run

open StoreBench.Engine (Answer Call Entry Exchange Ordered cursorEntries)

variable {W : Type} {stage : Stage (StateM W)} {settings : Settings} {context : Nat}

/-- A context cannot tell the two engines apart by its cursor. -/
structure Alike (context : Nat) (engine other : Ordered) : Prop where
  stored : other.store.toList = engine.store.toList
  placed : other.cursor? context = engine.cursor? context

/-- The calls of a context are answered as by the ordered engine in view.  In between, other
contexts may move cursors of their own, but they leave the map as it is. -/
structure Stage.Backed (stage : Stage (StateM W)) (context : Nat) (view : W → Ordered) : Prop where
  reply : ∀ call world, call.context? = some context →
    (stage.engine call world).1.reply = ((view world).answer call).1
  called : ∀ call world, call.context? = some context →
    Alike context ((view world).answer call).2 (view (stage.engine call world).2)
  published : ∀ emission world,
    Alike context (view world) (view (stage.publish emission world).2)

/-- Some exchanges are what the first engine says, and lead to one like the last. -/
structure Scanned (context : Nat) (first : Ordered) (made : List Exchange) (last : Ordered) :
    Prop where
  said : made.map Exchange.entry = first.entries (made.map Exchange.call)
  alike : Alike context (first.after (made.map Exchange.call)) last

namespace Scanned

variable {first engine last : Ordered} {made : List Exchange}

theorem nil (context : Nat) (first : Ordered) : Scanned context first [] first :=
  ⟨rfl, ⟨rfl, rfl⟩⟩

theorem idle (scanned : Scanned context first made engine) (alike : Alike context engine last) :
    Scanned context first made last :=
  ⟨scanned.said, ⟨alike.stored.trans scanned.alike.stored, alike.placed.trans scanned.alike.placed⟩⟩

theorem call (sorted : first.store.Sorted) (scanned : Scanned context first made engine)
    {exchange : Exchange} (scans : exchange.call.kind? = some .iterate)
    (own : exchange.call.context? = some context)
    (replied : exchange.answer.reply = (engine.answer exchange.call).1)
    (alike : Alike context (engine.answer exchange.call).2 last) :
    Scanned context first (made ++ [exchange]) last := by
  have same := Ordered.answer_congr (Ordered.sorted_after sorted _) scanned.alike.stored
    scanned.alike.placed scans own
  refine ⟨?_, ?_⟩
  · rw [List.map_append, List.map_append, Ordered.entries_append, scanned.said]
    simp only [List.map_cons, List.map_nil, Ordered.entries, Exchange.entry, replied, same.1]
  · rw [List.map_append, Ordered.after_append]
    refine ⟨?_, alike.placed.trans same.2⟩
    change last.store.toList = ((first.after _).answer exchange.call).2.store.toList
    rw [alike.stored, Ordered.answer_store _ scans, Ordered.answer_store _ scans,
      scanned.alike.stored]

end Scanned

/-- What a context heard from the engine in view, as long as its calls were those of a cursor. -/
def Watched (context : Nat) (record : W → List Exchange) (view : W → Ordered) (start : W)
    (state : Desk × W) : Prop :=
  ∃ made, record state.2 = record start ++ made ∧
    (∀ exchange ∈ made, ∀ reason, exchange.answer.reply ≠ .panic reason) ∧
    ((∀ exchange ∈ made, exchange.call.kind? = some .iterate) →
      Scanned context (view start) made (view state.2))

theorem Effect.watched {record : W → List Exchange} {view : W → Ordered}
    (heard : stage.Heard record) (backed : stage.Backed context view) {start : W}
    (sorted : (view start).store.Sorted) {before after : Desk × W}
    (effect : Effect stage context before after)
    (watched : Watched context record view start before) :
    Watched context record view start after := by
  obtain ⟨made, listed, calm, scanned⟩ := watched
  cases effect with
  | @called desk world call own =>
      refine ⟨made ++ [⟨call, (stage.engine call world).1⟩], ?_, ?_, ?_⟩
      · rw [heard.engine, ← List.append_assoc]
        exact congrArg (· ++ _) listed
      · refine List.forall_mem_append.mpr ⟨calm, List.forall_mem_singleton.mpr ?_⟩
        intro reason
        rw [backed.reply call world own]
        exact Ordered.answer_ne_panic _ call reason
      · intro scans
        obtain ⟨earlier, last⟩ := List.forall_mem_append.mp scans
        exact (scanned earlier).call sorted (last _ (List.mem_singleton_self _)) own
          (backed.reply call world own) (backed.called call world own)
  | published emission =>
      refine ⟨made, (heard.publish emission _).trans listed, calm, fun scans => ?_⟩
      exact (scanned scans).idle (backed.published emission _)
  | _ => exact ⟨made, listed, calm, scanned⟩

section Brackets

variable {left used : Nat} {made : List Exchange} {first : Ordered}

theorem Taken.calls {records : List Exchange} (taken : Taken context records) :
    records.map Exchange.call =
      List.replicate records.length (.next context .iterate .empty) := by
  rw [List.eq_replicate_iff]
  refine ⟨List.length_map .., ?_⟩
  rw [List.forall_mem_map]
  exact fun exchange member => (taken exchange member).1

theorem Taken.countP {records : List Exchange} (taken : Taken context records) :
    records.countP Exchange.isRecord = records.length :=
  List.countP_eq_length.mpr fun exchange member => (taken exchange member).2

theorem Bracket.scans (bracket : Bracket settings context left .iterate made used) :
    ∀ exchange ∈ made, exchange.call.kind? = some .iterate := by
  have taken_scans {records : List Exchange} (taken : Taken context records) :
      ∀ exchange ∈ records, exchange.call.kind? = some .iterate := by
    intro exchange member
    rw [(taken exchange member).1]
    rfl
  cases bracket with
  | refused point => cases point
  | point point => cases point
  | unopened refuses => exact List.forall_mem_singleton.mpr rfl
  | spent opens taken all =>
      simp only [List.cons_append, List.forall_mem_cons, List.forall_mem_append]
      exact ⟨rfl, taken_scans taken, rfl, nofun⟩
  | exhausted opens taken some stops =>
      simp only [List.cons_append, List.forall_mem_cons, List.forall_mem_append]
      exact ⟨rfl, taken_scans taken, rfl, rfl, nofun⟩
  | lost opens taken some broken unknown =>
      simp only [List.cons_append, List.forall_mem_cons, List.forall_mem_append]
      exact ⟨rfl, taken_scans taken, rfl, nofun⟩

theorem countP_walk (count : Nat) (pairs : List Pair) (more : List Entry) :
    (Entry.mk (.begin context .iterate) .success :: ((pairs.take count).map
          (fun pair => Entry.mk (.next context .iterate .empty) (.ok pair)) ++
        List.replicate (count - pairs.length)
          (Entry.mk (.next context .iterate .empty) (.error .notFound)) ++ more)).countP
      Entry.isRecord = min count pairs.length + more.countP Entry.isRecord := by
  have begins : Entry.isRecord ⟨.begin context .iterate, .success⟩ = false := rfl
  have ends : Entry.isRecord ⟨.next context .iterate .empty, .error .notFound⟩ = false := rfl
  have all : (pairs.take count).countP
      (Entry.isRecord ∘ fun pair => ⟨.next context .iterate .empty, .ok pair⟩) =
        (pairs.take count).length := List.countP_eq_length.mpr fun _ _ => rfl
  rw [List.countP_cons, List.countP_append, List.countP_append, List.countP_map,
    List.countP_replicate, all, List.length_take, begins, ends]
  simp

theorem Taken.said (sorted : first.store.Sorted) {records : List Exchange}
    (taken : Taken context records) (begun : Answer) (more : Nat) (tail : List Exchange)
    (calls : List Call) (asked : tail.map Exchange.call =
      List.replicate more (.next context .iterate .empty) ++ calls)
    (said : (⟨.begin context .iterate, begun⟩ :: records ++ tail).map Exchange.entry =
      first.entries ((⟨.begin context .iterate, begun⟩ :: records ++ tail).map Exchange.call)) :
    ∃ later : Ordered,
      (⟨.begin context .iterate, begun⟩ :: records ++ tail).map Exchange.entry =
        ⟨.begin context .iterate, .success⟩ ::
          ((first.store.toList.take (records.length + more)).map
              (fun pair => ⟨.next context .iterate .empty, .ok pair⟩) ++
            List.replicate (records.length + more - first.store.toList.length)
              ⟨.next context .iterate .empty, .error .notFound⟩ ++ later.entries calls) ∧
      records.length + tail.countP Exchange.isRecord =
        min (records.length + more) first.store.toList.length +
          (later.entries calls).countP Entry.isRecord := by
  obtain ⟨later, walk⟩ :=
    Ordered.entries_walk sorted context (records.length + more) calls
  have script : (⟨.begin context .iterate, begun⟩ :: records ++ tail : List Exchange).map
      Exchange.call = .begin context .iterate ::
        (List.replicate (records.length + more) (.next context .iterate .empty) ++ calls) := by
    rw [List.cons_append, List.map_cons, List.map_append, taken.calls, asked, ← List.append_assoc,
      List.replicate_append_replicate]
  rw [script, walk] at said
  refine ⟨later, said, ?_⟩
  have counted := congrArg (·.countP Entry.isRecord) said
  have begins : Exchange.isRecord ⟨.begin context .iterate, begun⟩ = false := rfl
  rw [← Engine.countP_isRecord, countP_walk, List.cons_append, List.countP_cons, begins,
    List.countP_append, taken.countP] at counted
  simpa using counted

theorem Bracket.entries (sorted : first.store.Sorted)
    (bracket : Bracket settings context left .iterate made used)
    (said : made.map Exchange.entry = first.entries (made.map Exchange.call)) :
    used = left ∧ made.map Exchange.entry = cursorEntries context left first.store.toList := by
  have closing (later : Ordered) : later.entries [.done context .iterate] =
      [⟨.done context .iterate, .success⟩] := rfl
  have closes : Entry.isRecord ⟨.done context .iterate, .success⟩ = false := rfl
  cases bracket with
  | refused point => cases point
  | point point => cases point
  | unopened refuses =>
      have replied := congrArg (·.map Entry.reply) said
      simp [Exchange.entry, refuses, Ordered.entries, Ordered.answer, Engine.Reply.success] at replied
  | @spent begun ended opened records opens taken all =>
      obtain ⟨later, told, counted⟩ := taken.said sorted begun 0 [⟨.done context .iterate, ended⟩]
        [.done context .iterate] rfl said
      rw [closing] at told counted
      have enough : left ≤ first.store.toList.length := by
        simp [Exchange.isRecord, closes] at counted
        omega
      rw [told, cursorEntries, Nat.add_zero, all, Nat.sub_eq_zero_of_le enough,
        if_neg (Nat.not_lt.mpr enough)]
      exact ⟨rfl, rfl⟩
  | @exhausted begun last ended opened records opens taken some stops =>
      obtain ⟨later, told, counted⟩ := taken.said sorted begun 1
        [⟨.next context .iterate .empty, last⟩, ⟨.done context .iterate, ended⟩]
        [.done context .iterate] rfl said
      rw [closing] at told counted
      have drained : first.store.toList.length = records.length := by
        simp [Exchange.isRecord, closes, stops] at counted
        omega
      have short : first.store.toList.length < left := by omega
      rw [told, cursorEntries, if_pos short, List.take_of_length_le (by omega),
        List.take_of_length_le (by omega), drained, Nat.add_sub_cancel_left]
      exact ⟨rfl, rfl⟩
  | @lost begun last opened cause records opens taken some broken unknown =>
      obtain ⟨later, told, _⟩ := taken.said sorted begun 1
        [⟨.next context .iterate .empty, last⟩] [] rfl said
      have member : (⟨.next context .iterate .empty, .error cause⟩ : Entry) ∈
          (⟨.begin context .iterate, begun⟩ :: records ++
            [⟨.next context .iterate .empty, last⟩] : List Exchange).map Exchange.entry := by
        simp [Exchange.entry, broken]
      rw [told] at member
      simp only [Ordered.entries, List.append_nil, List.mem_cons, List.mem_append, List.mem_map,
        List.mem_replicate] at member
      rcases member with begins | ⟨pair, _, returned⟩ | ⟨_, ended⟩
      · cases begins
      · cases returned
      · exact absurd (Engine.Reply.error.inj (congrArg Entry.reply ended)) unknown

theorem fine_of_cursorEntries {pairs : List Pair}
    (said : made.map Exchange.entry = cursorEntries context left pairs) :
    made.all (Exchange.fine settings .iterate) = true := by
  rw [List.all_eq_true]
  intro exchange member
  have listed : exchange.entry ∈ cursorEntries context left pairs := by
    rw [← said]
    exact List.mem_map_of_mem member
  have granted {call : Call} {pair : Pair} (same : exchange.entry = ⟨call, .ok pair⟩) :
      exchange.fine settings .iterate = true :=
    Exchange.fine_ok (congrArg Entry.reply same)
  simp only [cursorEntries, List.mem_cons, List.mem_append, List.mem_map] at listed
  rcases listed with begins | (⟨pair, _, returned⟩ | ended) | done
  · exact granted begins
  · exact granted returned.symm
  · split at ended
    · have same := List.mem_singleton.mp ended
      have call := congrArg Entry.call same
      have reply := congrArg Entry.reply same
      simp only [Exchange.entry] at call reply
      simp [Exchange.fine, call, reply]
    · cases ended
  · rcases done with same | none
    · exact granted same
    · cases none

theorem KindRun.entries {share : Nat} {brackets : List (List Exchange)} {whole : Bool}
    {last : Ordered} (sorted : first.store.Sorted)
    (run : KindRun settings context .iterate share brackets whole)
    (said : (∀ exchange ∈ brackets.flatten, exchange.call.kind? = some .iterate) →
      Scanned context first brackets.flatten last) :
    whole = true ∧ brackets.flatten.map Exchange.entry =
      if share = 0 then [] else cursorEntries context share first.store.toList := by
  cases run with
  | complete => exact ⟨rfl, rfl⟩
  | @broken left used made bracket unclean =>
      rw [List.flatten_singleton] at said
      obtain ⟨_, told⟩ := bracket.entries sorted (said bracket.scans).said
      rw [fine_of_cursorEntries told] at unclean
      cases unclean
  | @step left used made brackets whole bracket clean rest =>
      -- a bracket of a cursor is for all that is left
      have all : used = left + 1 := by
        cases bracket with
        | refused point => cases point
        | point point => cases point
        | _ => rfl
      rw [all, Nat.sub_self] at rest
      cases rest
      rw [List.flatten_singleton] at said ⊢
      obtain ⟨_, told⟩ := bracket.entries sorted (said bracket.scans).said
      exact ⟨rfl, by rw [told, if_neg (Nat.succ_ne_zero left)]⟩

end Brackets

theorem countP_cursorEntries (context share : Nat) (pairs : List Pair) :
    (cursorEntries context share pairs).countP Entry.isRecord = min share pairs.length := by
  have all : (pairs.take share).countP
      (Entry.isRecord ∘ fun pair => ⟨.next context .iterate .empty, .ok pair⟩) =
        (pairs.take share).length := List.countP_eq_length.mpr fun _ _ => rfl
  have begins : Entry.isRecord ⟨.begin context .iterate, .success⟩ = false := rfl
  have ends : Entry.isRecord ⟨.next context .iterate .empty, .error .notFound⟩ = false := rfl
  have closes : Entry.isRecord ⟨.done context .iterate, .success⟩ = false := rfl
  rw [cursorEntries, List.countP_cons, List.countP_append, List.countP_append, List.countP_map, all,
    List.length_take, begins]
  split
  · simp [ends, closes]
  · simp [closes]

/-- A pass of the cursor over these pairs came to its end: it said what it should, and it recorded
as many samples as it took pairs. -/
structure CursorPassed (record : W → List Exchange) (context : Nat) (pairs : List Pair) (desk : Desk)
    (world : W) (ended : (Except Stop Unit × Desk) × W) : Prop where
  succeeds : ended.1.1 = .ok ()
  said : ∃ made, record ended.2 = record world ++ made ∧ made.map Exchange.entry =
    if desk.worker.share = 0 then [] else cursorEntries context desk.worker.share pairs
  samples : (ended.1.2.shared.hub.accounts.get .iterate).total.count =
    (desk.shared.hub.accounts.get .iterate).total.count + min desk.worker.share pairs.length

/-- A pass of a kind ended in a panic, as its sums or its pools were too large. -/
def Overrun (settings : Settings) (record : W → List Exchange) (kind : Kind) (desk : Desk)
    (world : W) (ended : (Except Stop Unit × Desk) × W) : Prop :=
  ∃ cause made, ended.1.1 = .error (.panic cause) ∧ record ended.2 = record world ++ made ∧
    Strain (desk.reckoningOf settings kind) made cause

theorem runKind_cursor {record : W → List Exchange} {view : W → Ordered} {desk : Desk} {world : W}
    (heard : stage.Heard record) (backed : stage.Backed context view)
    (sorted : (view world).store.Sorted) (paired : desk.Paired)
    (mine : desk.worker.kinds.contains .iterate = true) (collected : desk.Collects .iterate) :
    Overrun settings record .iterate desk world
        (runFrom (runKind stage settings context .iterate) desk world) ∨
      CursorPassed record context (view world).store.toList desk world
        (runFrom (runKind stage settings context .iterate) desk world) := by
  have step (before after : Desk × W) (effect : Effect stage context before after)
      (watched : Watched context record view world before) :
      Watched context record view world after := effect.watched heard backed sorted watched
  have start : Watched context record view world (desk, world) :=
    ⟨[], (List.append_nil _).symm, nofun, fun _ => .nil context (view world)⟩
  have acts : Acts stage context (runKind stage settings context .iterate) desk :=
    (runKind_conduct .iterate).acts fun _ _ _ => Alters.effect
  obtain ⟨made, listed, calm, scanned⟩ := acts.keeps step start
  obtain ⟨said, further, meets⟩ := (@runKind_yields _ stage _ _ context .iterate _ _
    (desk.affordedOf settings .iterate paired) mine (List.mem_singleton_self _)) world
  obtain rfl : said = made := List.append_cancel_left ((further record heard).symm.trans listed)
  generalize runFrom (runKind stage settings context .iterate) desk world = ended at *
  obtain ⟨⟨result, after⟩, left⟩ := ended
  have passed {outcome : Except Failure Unit} (shape : ∃ brackets,
      said = (brackets.map (Segment.mk .iterate)).flatMap Segment.made ∧
      KindRun settings context .iterate desk.worker.share brackets outcome.isOk ∧
      Worked (desk.reckoningOf settings .iterate) (brackets.map (Segment.mk .iterate)) said desk
        after) :
      outcome.isOk = true ∧ CursorPassed record context (view world).store.toList desk world
        ((.ok (), after), left) := by
    obtain ⟨brackets, rfl, run, worked⟩ := shape
    rw [Segment.made_map] at scanned listed
    obtain ⟨whole, told⟩ := run.entries sorted scanned
    refine ⟨whole, rfl, ⟨_, listed, told⟩, ?_⟩
    have records : (brackets.map (samples .iterate)).sum =
        (brackets.flatten.map Exchange.entry).countP Entry.isRecord := by
      rw [← Engine.countP_isRecord, List.countP_flatten]
      rfl
    rw [worked.count .iterate collected, Segment.total_self, records, told]
    split
    · next none => simp [none]
    · rw [countP_cursorEntries]
  rcases result with (cause | cause) | value
  · have impossible := (passed meets.2).1
    cases impossible
  · refine .inl ⟨cause, said, rfl, listed, ?_⟩
    rcases meets with strain | ⟨exchange, member, reason, told, _⟩
    · exact strain
    · exact absurd told (calm exchange member reason)
  · exact .inr (passed meets.2).2

/-- The cursors of the ordered engine after some calls of any contexts: steps of one key are answered
as on one map, a walk of a cursor is exact during further calls, and so is a pass of one. -/
structure ExactCursors (stage : Stage (StateM W)) (record : W → List Exchange) (view : W → Ordered)
    (context : Nat) (earlier during : List Call) : Prop where
  points : ∀ other kind pair reply, (Engine.Mapping.after earlier).reply? kind pair = some reply →
    ((Ordered.new.after earlier).answer (.next other kind pair)).1 = reply
  walk : Ordered.CursorWalk context earlier during
  pass : ∀ (settings : Settings) (desk : Desk) (world : W), desk.Paired →
    desk.worker.kinds.contains .iterate = true → desk.Collects .iterate →
    (view world).store.toList = (Ordered.new.after earlier).store.toList →
    Overrun settings record .iterate desk world
        (runFrom (runKind stage settings context .iterate) desk world) ∨
      CursorPassed record context (Ordered.new.after earlier).store.toList desk world
        (runFrom (runKind stage settings context .iterate) desk world)

/-- A cursor is exact while other contexts change the store.  As every moment of a walk is the end
of a shorter one, what is said of its next step holds of all of its steps. -/
theorem ordered_cursors_exact {record : W → List Exchange} {view : W → Ordered}
    (heard : stage.Heard record) (backed : stage.Backed context view) {earlier during : List Call}
    (kept : ∀ call ∈ during, call.resets context = false) :
    ExactCursors stage record view context earlier during where
  points other _ _ _ known := Ordered.point_answer earlier other known
  walk := Ordered.cursor_walk kept
  pass _ _ world paired mine collected same := by
    have sorted : (view world).store.Sorted := by
      unfold Engine.Store.Sorted
      rw [same]
      exact (Ordered.Represents.new.after earlier).sorted
    rw [← same]
    exact runKind_cursor heard backed sorted paired mine collected

/-- A stage on an ordered engine that takes no time, with a record of what was said. -/
def Stage.ledger : Stage (StateM (Ordered × List Exchange)) where
  engine call := fun world =>
    let (reply, engine) := world.1.answer call
    (.instant reply, engine, world.2 ++ [⟨call, .instant reply⟩])
  publish _ := fun world => ((), world)

theorem Stage.ledger_heard : ledger.Heard Prod.snd where
  engine _ _ := rfl
  publish _ _ := rfl

theorem Stage.ledger_backed (context : Nat) : ledger.Backed context Prod.fst where
  reply _ _ _ := rfl
  called _ _ _ := ⟨rfl, rfl⟩
  published _ _ := ⟨rfl, rfl⟩

/-- The desk of the first worker of these settings, before its work. -/
def firstDesk (settings : Settings) : Option Desk :=
  seatedDesk settings 0

def stocked : List Call :=
  [.newContext 0, .next 0 .set ⟨[2], [20]⟩, .next 1 .set ⟨[1], [10]⟩, .next 0 .set ⟨[5], [50]⟩,
   .next 1 .set ⟨[2], [21]⟩]

/-- A walk during which its own key goes, others come before and after it, and another context walks
as well. -/
def disturbed : List Call :=
  [.next 0 .iterate .empty, .next 1 .delete ⟨[1], []⟩, .next 1 .set ⟨[0], [0]⟩,
   .begin 1 .iterate, .next 1 .iterate .empty, .next 0 .iterate .empty, .next 1 .set ⟨[3], [30]⟩,
   .next 0 .iterate .empty, .done 1 .iterate, .next 0 .iterate .empty]

def scanning : Settings :=
  { Settings.default with kinds := [.iterate], count := 2, keys := 5, folder := "/tmp" }

theorem ordered_cursors_exact_disturbed :
    (∀ call ∈ disturbed, call.resets 0 = false) ∧
      ((Ordered.begun stocked 0).returned 0 disturbed).map (·.key) = [[1], [2], [3], [5]] ∧
      Ordered.CursorWalk 0 stocked disturbed ∧
      ∃ desk, firstDesk scanning = some desk ∧
        CursorPassed Prod.snd 0 [⟨[1], [10]⟩, ⟨[2], [21]⟩, ⟨[5], [50]⟩] desk
          (Ordered.new.after stocked, [])
          (runFrom (runKind Stage.ledger scanning 0 .iterate) desk
            (Ordered.new.after stocked, [])) := by
  have kept : ∀ call ∈ disturbed, call.resets 0 = false := by decide
  have exact : ExactCursors Stage.ledger Prod.snd Prod.fst 0 stocked disturbed :=
    ordered_cursors_exact Stage.ledger_heard (Stage.ledger_backed 0) kept
  have checked : ((firstDesk scanning).any fun desk => desk.Paired ∧
      desk.worker.kinds.contains .iterate = true ∧ desk.Collects .iterate ∧
      (runFrom (runKind Stage.ledger scanning 0 .iterate) desk
        (Ordered.new.after stocked, [])).1.1.isOk = true) = true := by
    decide +kernel
  obtain ⟨desk, enlisted, told⟩ := (Option.any_eq_true _ _).mp checked
  obtain ⟨paired, mine, collected, ends⟩ := of_decide_eq_true told
  refine ⟨kept, by decide +kernel, exact.walk, desk, enlisted, ?_⟩
  rcases exact.pass scanning desk (Ordered.new.after stocked, []) paired mine collected rfl with
    ⟨cause, _, panicked, _⟩ | passed
  · rw [panicked] at ends
    cases ends
  · exact passed

end StoreBench.Run
