import Mathlib.Logic.Function.Basic
import StoreBench.Engine.BuiltIn
import StoreBench.Proofs.Engine.Search

/-! The cursors of the ordered engine.

All contexts share one store, and a cursor remembers only the key that it returned last.  Whatever
the contexts do to the store meanwhile, each step of a cursor seeks from that key in the store as it
is at that moment.
-/

namespace StoreBench.Engine

theorem Store.find?_insert {store : Store} (sorted : store.Sorted) (new : Pair) (key : Bytes) :
    (store.insert new).find? key = if key = new.key then some new.value else store.find? key := by
  refine Option.ext fun value => ?_
  rw [Store.find?_eq_some_iff (Store.sorted_insert sorted new), Store.mem_insert sorted]
  split
  · next same =>
    subst same
    constructor
    · intro given
      rcases given with same | ⟨_, different⟩
      · rw [← same]
      · exact absurd rfl different
    · intro same
      cases same
      exact .inl rfl
  · next different =>
    rw [Store.find?_eq_some_iff sorted]
    constructor
    · intro given
      rcases given with same | ⟨member, _⟩
      · exact absurd (congrArg Pair.key same) different
      · exact member
    · exact fun member => .inr ⟨member, different⟩

theorem Store.find?_erase {store : Store} (sorted : store.Sorted) (gone key : Bytes) :
    (store.erase gone).find? key = if key = gone then none else store.find? key := by
  refine Option.ext fun value => ?_
  rw [Store.find?_eq_some_iff (Store.sorted_erase sorted gone), Store.mem_erase sorted]
  split
  · next same =>
    subst same
    simp
  · next different =>
    rw [Store.find?_eq_some_iff sorted]
    exact ⟨And.left, fun member => ⟨member, different⟩⟩

/-- A map of byte strings. -/
abbrev Mapping := Bytes → Option Bytes

namespace Mapping

/-- The map after a call of any context. -/
def next (mapping : Mapping) : Call → Mapping
  | .next _ .set pair => Function.update mapping pair.key (some pair.value)
  | .next _ .delete pair => Function.update mapping pair.key none
  | _ => mapping

/-- The map after some calls of any contexts, from the empty one. -/
def after (calls : List Call) : Mapping :=
  calls.foldl next fun _ => none

/-- How a step of one key is answered on the map; other kinds have no such steps. -/
def reply? (mapping : Mapping) (kind : Kind) (pair : Pair) : Option Reply :=
  match kind with
  | .set => some (.ok pair)
  | .delete => some (if mapping pair.key = none then .error .notFound else .ok pair)
  | .get =>
    match mapping pair.key with
    | some value => some (.ok ⟨pair.key, value⟩)
    | none => some (.error .notFound)
  | .iterate | .batch | .crud => none

theorem after_append (calls more : List Call) : after (calls ++ more) = more.foldl next (after calls) :=
  List.foldl_append

end Mapping

/-- Beyond the key that a cursor returned last, if it returned one. -/
def Beyond : Option Bytes → Bytes → Prop
  | none, _ => True
  | some bound, key => bound < key

instance : (last : Option Bytes) → (key : Bytes) → Decidable (Beyond last key)
  | none, _ => .isTrue trivial
  | some bound, key => inferInstanceAs (Decidable (bound < key))

theorem Beyond.trans {last : Option Bytes} {key further : Bytes} (beyond : Beyond last key)
    (less : key < further) : Beyond last further := by
  cases last with
  | none => trivial
  | some bound => exact List.lt_trans beyond less

/-- The least pair beyond a key. -/
def Store.seek? (store : Store) : Option Bytes → Option Pair
  | none => store.least?
  | some bound => store.leastAbove? bound

theorem Store.seek?_eq {store : Store} (sorted : store.Sorted) (last : Option Bytes) :
    store.seek? last = store.toList.find? (Beyond last ·.key) := by
  cases last with
  | none =>
      rw [seek?, least?_eq]
      cases store.toList with
      | nil => rfl
      | cons first rest => rfl
  | some bound => exact leastAbove?_eq sorted bound

theorem Store.seek?_least {store : Store} (sorted : store.Sorted) {last : Option Bytes}
    {pair other : Pair} (found : store.seek? last = some pair) (member : other ∈ store.toList)
    (beyond : Beyond last other.key) : ¬ other.key < pair.key := by
  rw [seek?_eq sorted] at found
  obtain ⟨_, before, after, around, skipped⟩ := List.find?_eq_some_iff_append.mp found
  intro less
  rw [Sorted, around, List.pairwise_append, List.pairwise_cons] at sorted
  rw [around, List.mem_append, List.mem_cons] at member
  rcases member with early | rfl | late
  · have missed := skipped other early
    rw [Bool.not_eq_true', decide_eq_false_iff_not] at missed
    exact missed beyond
  · exact List.lt_irrefl _ less
  · exact List.lt_asymm less (sorted.2.1.1 other late)

/-- How a cursor answers on a map: with the least key beyond the last one, or with the end if no
such key is stored. -/
inductive CursorReply (mapping : Mapping) (last : Option Bytes) : Reply → Prop where
  | found {pair : Pair} (stored : mapping pair.key = some pair.value)
      (beyond : Beyond last pair.key)
      (least : ∀ key, mapping key ≠ none → Beyond last key → ¬ key < pair.key) :
      CursorReply mapping last (.ok pair)
  | ended (nothing : ∀ key, mapping key ≠ none → ¬ Beyond last key) :
      CursorReply mapping last (.error .notFound)

theorem CursorReply.ended_iff {mapping : Mapping} {last : Option Bytes} {reply : Reply}
    (answered : CursorReply mapping last reply) :
    reply = .error .notFound ↔ ∀ key, mapping key ≠ none → ¬ Beyond last key := by
  cases answered with
  | found stored beyond least =>
      refine ⟨nofun, fun nothing => absurd beyond (nothing _ ?_)⟩
      rw [stored]
      exact Option.some_ne_none _
  | ended nothing => exact ⟨fun _ => nothing, fun _ => rfl⟩

namespace Call

/-- The call sets the cursor of a context back to the start. -/
def resets (context : Nat) : Call → Bool
  | .begin other .iterate | .done other .iterate | .newContext other | .dispose other =>
    other == context
  | _ => false

/-- The pair that the cursor of a context returned by this call, if it did. -/
def returned? (context : Nat) (call : Call) (reply : Reply) : Option Pair :=
  match call, reply with
  | .next other .iterate _, .ok pair => if other = context then some pair else none
  | _, _ => none

theorem returned?_eq_some {context : Nat} {call : Call} {reply : Reply} {pair : Pair}
    (returns : call.returned? context reply = some pair) :
    (∃ asked, call = .next context .iterate asked) ∧ reply = .ok pair := by
  unfold returned? at returns
  split at returns
  · split at returns
    · next same =>
      cases returns
      exact ⟨⟨_, by rw [same]⟩, rfl⟩
    · cases returns
  · cases returns

end Call

namespace Ordered

/-- The engine after some calls of any contexts. -/
def after (engine : Ordered) (calls : List Call) : Ordered :=
  calls.foldl (fun engine call => (engine.answer call).2) engine

/-- The pairs that the cursor of a context returns during some calls of any contexts. -/
def returned (engine : Ordered) (context : Nat) : List Call → List Pair
  | [] => []
  | call :: calls =>
    (call.returned? context (engine.answer call).1).toList ++
      (engine.answer call).2.returned context calls

section Cursors

variable {context other : Nat}

theorem lookup_filter (cursors : List (Nat × Bytes)) (other context : Nat) :
    (cursors.filter (·.1 != other)).lookup context =
      if other = context then none else cursors.lookup context := by
  induction cursors with
  | nil => simp
  | cons cursor cursors ih =>
      obtain ⟨owner, key⟩ := cursor
      by_cases mine : owner = other
      · rw [List.filter_cons_of_neg (by simpa using mine), ih, List.lookup_cons]
        split
        · rfl
        · next different =>
          rw [beq_eq_false_iff_ne.mpr (by omega)]
      · rw [List.filter_cons_of_pos (by simpa using mine), List.lookup_cons, List.lookup_cons, ih]
        by_cases found : context = owner
        · have apart : ¬ other = context := fun same => mine (found.symm.trans same.symm)
          simp only [beq_iff_eq.mpr found, if_neg apart]
        · rw [beq_eq_false_iff_ne.mpr found]

theorem cursor?_clear (engine : Ordered) (other context : Nat) :
    (engine.clearCursor other).cursor? context =
      if other = context then none else engine.cursor? context :=
  lookup_filter engine.cursors other context

theorem cursor?_set (engine : Ordered) (other context : Nat) (key : Bytes) :
    (engine.setCursor other key).cursor? context =
      if other = context then some key else engine.cursor? context := by
  have looked : (engine.setCursor other key).cursor? context =
      ((other, key) :: (engine.clearCursor other).cursors).lookup context := rfl
  have cleared := engine.cursor?_clear other context
  unfold cursor? at cleared
  rw [looked, List.lookup_cons, cleared]
  by_cases same : other = context
  · rw [if_pos same, if_pos same, beq_iff_eq.mpr same.symm]
  · rw [if_neg same, if_neg same, beq_eq_false_iff_ne.mpr (Ne.symm same)]
    rfl

end Cursors

/-- The engine holds the pairs of a map. -/
structure Represents (engine : Ordered) (mapping : Mapping) : Prop where
  sorted : engine.store.Sorted
  find? : ∀ key, engine.store.find? key = mapping key

namespace Represents

variable {engine : Ordered} {mapping : Mapping}

theorem new : Ordered.new.Represents fun _ => none :=
  ⟨Store.sorted_empty, fun _ => rfl⟩

theorem mem_iff (represents : engine.Represents mapping) (pair : Pair) :
    pair ∈ engine.store.toList ↔ mapping pair.key = some pair.value := by
  rw [← represents.find?, Store.find?_eq_some_iff represents.sorted]

theorem stored_iff (represents : engine.Represents mapping) (key : Bytes) :
    mapping key ≠ none ↔ ∃ pair ∈ engine.store.toList, pair.key = key := by
  rw [Option.ne_none_iff_exists']
  constructor
  · intro given
    obtain ⟨value, stored⟩ := given
    exact ⟨⟨key, value⟩, (represents.mem_iff _).mpr stored, rfl⟩
  · intro given
    obtain ⟨pair, member, rfl⟩ := given
    exact ⟨pair.value, (represents.mem_iff _).mp member⟩

theorem congr {other : Ordered} (represents : engine.Represents mapping)
    (same : other.store = engine.store) : other.Represents mapping :=
  ⟨by rw [same]; exact represents.sorted, by rw [same]; exact represents.find?⟩

theorem set (represents : engine.Represents mapping) (pair : Pair) :
    ({ engine with store := engine.store.insert pair } : Ordered).Represents
      (Function.update mapping pair.key (some pair.value)) where
  sorted := Store.sorted_insert represents.sorted pair
  find? key := by
    rw [Store.find?_insert represents.sorted, represents.find?, Function.update_apply]

theorem delete (represents : engine.Represents mapping) (gone : Bytes) :
    ({ engine with store := engine.store.erase gone } : Ordered).Represents
      (Function.update mapping gone none) where
  sorted := Store.sorted_erase represents.sorted gone
  find? key := by
    rw [Store.find?_erase represents.sorted, represents.find?, Function.update_apply]

theorem answer (represents : engine.Represents mapping) (call : Call) :
    (engine.answer call).2.Represents (mapping.next call) := by
  have kept (iterates : Prop) [Decidable iterates] (context : Nat) :
      (if iterates then engine.clearCursor context else engine).Represents mapping := by
    split
    · exact represents.congr rfl
    · exact represents
  cases call with
  | openStore folder => exact represents
  | close => exact represents
  | option argument => exact represents
  | newContext context => exact represents.congr rfl
  | contextOption context argument => exact represents
  | begin context kind => exact kept _ context
  | done context kind => exact kept _ context
  | dispose context => exact represents.congr rfl
  | next context kind pair =>
      cases kind with
      | set => exact represents.set pair
      | delete =>
          have found := represents.find? pair.key
          simp only [Ordered.answer, step, Mapping.next, found]
          cases absent : mapping pair.key with
          | none =>
              have same : Function.update mapping pair.key none = mapping := by
                rw [← absent, Function.update_eq_self]
              rw [same]
              exact represents
          | some value => exact represents.delete pair.key
      | get =>
          simp only [Ordered.answer, step]
          split
          · exact represents
          · exact represents
      | iterate =>
          simp only [Ordered.answer, step]
          split
          · exact represents.congr rfl
          · exact represents
      | batch => exact represents
      | crud => exact represents

theorem after (represents : engine.Represents mapping) (calls : List Call) :
    (engine.after calls).Represents (calls.foldl Mapping.next mapping) := by
  induction calls generalizing engine mapping with
  | nil => exact represents
  | cons call calls ih => exact ih (represents.answer call)

theorem reply? (represents : engine.Represents mapping) (context : Nat) {kind : Kind} {pair : Pair}
    {reply : Reply} (known : mapping.reply? kind pair = some reply) :
    (engine.answer (.next context kind pair)).1 = reply := by
  have found := represents.find? pair.key
  cases kind with
  | set => exact Option.some.inj known
  | delete =>
      simp only [Mapping.reply?] at known
      simp only [Ordered.answer, step, found]
      rcases stored : mapping pair.key with _ | value
      · rw [stored] at known
        exact Option.some.inj known
      · rw [stored] at known
        exact Option.some.inj known
  | get =>
      simp only [Mapping.reply?] at known
      simp only [Ordered.answer, step, found]
      rcases stored : mapping pair.key with _ | value
      · rw [stored] at known
        exact Option.some.inj known
      · rw [stored] at known
        exact Option.some.inj known
  | iterate => cases known
  | batch => cases known
  | crud => cases known

end Represents

theorem answer_iterate (engine : Ordered) (context : Nat) (pair : Pair) :
    engine.answer (.next context .iterate pair) =
      match engine.store.seek? (engine.cursor? context) with
      | some found => (.ok found, engine.setCursor context found.key)
      | none => (.error .notFound, engine) := by
  simp only [answer, step]
  cases engine.cursor? context <;> rfl

theorem Represents.iterate {engine : Ordered} {mapping : Mapping}
    (represents : engine.Represents mapping) (context : Nat) (pair : Pair) :
    CursorReply mapping (engine.cursor? context)
      (engine.answer (.next context .iterate pair)).1 := by
  rw [answer_iterate]
  rcases found : engine.store.seek? (engine.cursor? context) with _ | pair
  · refine .ended fun key stored beyond => ?_
    obtain ⟨pair, member, rfl⟩ := (represents.stored_iff key).mp stored
    rw [Store.seek?_eq represents.sorted] at found
    exact List.find?_eq_none.mp found pair member (decide_eq_true beyond)
  · have sought := found
    rw [Store.seek?_eq represents.sorted] at sought
    have beyond : Beyond (engine.cursor? context) pair.key :=
      by simpa using List.find?_some sought
    have member := List.mem_of_find?_eq_some sought
    refine .found ((represents.mem_iff pair).mp member) beyond fun key stored further => ?_
    obtain ⟨other, otherMember, rfl⟩ := (represents.stored_iff key).mp stored
    exact Store.seek?_least represents.sorted found otherMember further

theorem cursor?_answer (engine : Ordered) {context : Nat} {call : Call}
    (kept : call.resets context = false) :
    (engine.answer call).2.cursor? context =
      ((call.returned? context (engine.answer call).1).map (·.key)).or (engine.cursor? context) := by
  have cleared {other : Nat} (apart : (other == context) = false) :
      (engine.clearCursor other).cursor? context = engine.cursor? context := by
    rw [cursor?_clear, if_neg (by simpa using apart)]
  cases call with
  | openStore folder => rfl
  | close => rfl
  | option argument => rfl
  | newContext other => exact cleared kept
  | contextOption other argument => rfl
  | begin other kind =>
      cases kind with
      | iterate => exact cleared kept
      | _ => rfl
  | done other kind =>
      cases kind with
      | iterate => exact cleared kept
      | _ => rfl
  | dispose other => exact cleared kept
  | next other kind pair =>
      cases kind with
      | set => rfl
      | delete =>
          simp only [answer, step, Call.returned?]
          split
          · rfl
          · rfl
      | get =>
          simp only [answer, step, Call.returned?]
          split
          · rfl
          · rfl
      | iterate =>
          rw [answer_iterate]
          rcases engine.store.seek? (engine.cursor? other) with _ | found
          · rfl
          · simp only [Call.returned?, cursor?_set]
            split
            · rfl
            · rfl
      | batch => rfl
      | crud => rfl

section Walks

variable {engine : Ordered} {mapping : Mapping} {context : Nat} {calls : List Call}

theorem Represents.returned (represents : engine.Represents mapping) {call : Call} {pair : Pair}
    (returns : call.returned? context (engine.answer call).1 = some pair) :
    mapping pair.key = some pair.value ∧ Beyond (engine.cursor? context) pair.key ∧
      ∀ key, mapping key ≠ none → Beyond (engine.cursor? context) key → ¬ key < pair.key := by
  obtain ⟨⟨asked, rfl⟩, replied⟩ := Call.returned?_eq_some returns
  have answered := represents.iterate context asked
  rw [replied] at answered
  cases answered with
  | found stored beyond least => exact ⟨stored, beyond, least⟩

theorem cursor?_after (kept : ∀ call ∈ calls, call.resets context = false) :
    (engine.after calls).cursor? context =
      ((engine.returned context calls).getLast?.map (·.key)).or (engine.cursor? context) := by
  induction calls generalizing engine with
  | nil => rfl
  | cons call calls ih =>
      have moved := engine.cursor?_answer (kept call List.mem_cons_self)
      have rest := @ih (engine.answer call).2 fun other member =>
        kept other (List.mem_cons_of_mem call member)
      change ((engine.answer call).2.after calls).cursor? context = _
      rw [rest, moved, returned, List.getLast?_append]
      cases call.returned? context (engine.answer call).1 with
      | none => simp
      | some pair =>
          cases ((engine.answer call).2.returned context calls).getLast? with
          | none => simp
          | some last => simp

theorem returned_ascending (represents : engine.Represents mapping)
    (kept : ∀ call ∈ calls, call.resets context = false) :
    (∀ pair ∈ engine.returned context calls, Beyond (engine.cursor? context) pair.key) ∧
      (engine.returned context calls).Pairwise fun left right => left.key < right.key := by
  induction calls generalizing engine mapping with
  | nil => exact ⟨nofun, .nil⟩
  | cons call calls ih =>
      have moved := engine.cursor?_answer (kept call List.mem_cons_self)
      obtain ⟨beyond, ascending⟩ := ih (represents.answer call) fun other member =>
        kept other (List.mem_cons_of_mem call member)
      rw [moved] at beyond
      unfold returned
      rcases returns : call.returned? context (engine.answer call).1 with _ | first
      · rw [returns] at beyond
        exact ⟨beyond, ascending⟩
      · rw [returns] at beyond
        have ahead := (represents.returned returns).2.1
        refine ⟨?_, List.pairwise_cons.mpr ⟨beyond, ascending⟩⟩
        intro pair member
        rcases List.mem_cons.mp member with rfl | member
        · exact ahead
        · exact ahead.trans (beyond pair member)

/-- A key that is stored at every moment is passed by no cursor that comes to its end. -/
theorem mem_returned (represents : engine.Represents mapping)
    (kept : ∀ call ∈ calls, call.resets context = false) {key : Bytes}
    (present : ∀ moment, moment <+: calls → moment.foldl Mapping.next mapping key ≠ none)
    (beyond : Beyond (engine.cursor? context) key) {asked : Pair}
    (ended : ((engine.after calls).answer (.next context .iterate asked)).1 = .error .notFound) :
    key ∈ (engine.returned context calls).map (·.key) := by
  induction calls generalizing engine mapping with
  | nil =>
      have nothing := (represents.iterate context asked).ended_iff.mp ended
      exact absurd beyond (nothing key (present [] List.nil_prefix))
  | cons call calls ih =>
      have moved := engine.cursor?_answer (kept call List.mem_cons_self)
      have further (ahead : Beyond ((engine.answer call).2.cursor? context) key) :
          key ∈ ((engine.answer call).2.returned context calls).map (·.key) :=
        ih (represents.answer call)
          (fun other member => kept other (List.mem_cons_of_mem call member))
          (fun moment early => present (call :: moment) (List.cons_prefix_cons.mpr ⟨rfl, early⟩))
          ahead ended
      unfold returned
      rw [moved] at further
      rcases returns : call.returned? context (engine.answer call).1 with _ | first
      · rw [returns] at further
        exact further beyond
      · rw [returns] at further
        have least := (represents.returned returns).2.2 key (present [] List.nil_prefix) beyond
        by_cases passed : first.key < key
        · exact List.mem_cons_of_mem _ (further passed)
        · have same : first.key = key := List.le_antisymm least passed
          rw [← same]
          exact List.mem_cons_self

theorem not_mem_returned (represents : engine.Represents mapping) {key : Bytes}
    (absent : ∀ moment, moment <+: calls → moment.foldl Mapping.next mapping key = none) :
    key ∉ (engine.returned context calls).map (·.key) := by
  induction calls generalizing engine mapping with
  | nil => exact nofun
  | cons call calls ih =>
      have later := ih (represents.answer call) fun moment early =>
        absent (call :: moment) (List.cons_prefix_cons.mpr ⟨rfl, early⟩)
      unfold returned
      rcases returns : call.returned? context (engine.answer call).1 with _ | first
      · exact later
      · intro member
        rcases List.mem_cons.mp member with same | member
        · subst same
          have stored := (represents.returned returns).1
          have nothing : mapping first.key = none := absent [] List.nil_prefix
          rw [nothing] at stored
          cases stored
        · exact later member

end Walks

/-- The engine when a context has just begun a walk, after other calls. -/
def begun (earlier : List Call) (context : Nat) : Ordered :=
  Ordered.new.after (earlier ++ [.begin context .iterate])

/-- What the cursor of a context returns since it began, during the calls of all contexts. -/
structure CursorWalk (context : Nat) (earlier during : List Call) : Prop where
  ascending : ((begun earlier context).returned context during).Pairwise fun left right =>
    left.key < right.key
  reply : ∀ asked, CursorReply (Mapping.after (earlier ++ .begin context .iterate :: during))
    (((begun earlier context).returned context during).getLast?.map (·.key))
    (((begun earlier context).after during).answer (.next context .iterate asked)).1
  complete : ∀ asked,
    (((begun earlier context).after during).answer (.next context .iterate asked)).1 =
      .error .notFound →
    ∀ key, (∀ moment, moment <+: during →
      Mapping.after (earlier ++ .begin context .iterate :: moment) key ≠ none) →
    (((begun earlier context).returned context during).map (·.key)).count key = 1
  sound : ∀ key, (∀ moment, moment <+: during →
      Mapping.after (earlier ++ .begin context .iterate :: moment) key = none) →
    key ∉ ((begun earlier context).returned context during).map (·.key)

/-- A walk is right whatever was done before it, and whatever is done during it by any context, as
long as its own context does not start another one. -/
theorem cursor_walk {context : Nat} {earlier during : List Call}
    (kept : ∀ call ∈ during, call.resets context = false) : CursorWalk context earlier during := by
  have represents : (begun earlier context).Represents
      (Mapping.after (earlier ++ [.begin context .iterate])) := Represents.new.after _
  have moments (moment : List Call) : Mapping.after (earlier ++ .begin context .iterate :: moment) =
      moment.foldl Mapping.next (Mapping.after (earlier ++ [.begin context .iterate])) := by
    rw [← Mapping.after_append, List.append_assoc, List.singleton_append]
  have fresh : (begun earlier context).cursor? context = none := by
    have cleared : begun earlier context = (Ordered.new.after earlier).clearCursor context := by
      unfold begun after
      rw [List.foldl_append]
      rfl
    rw [cleared, cursor?_clear, if_pos rfl]
  have ascending := (returned_ascending represents kept).2
  refine ⟨ascending, ?_, ?_, ?_⟩
  · intro asked
    have answered := (represents.after during).iterate context asked
    rw [cursor?_after kept, fresh, Option.or_none, ← moments] at answered
    exact answered
  · intro asked ended key present
    refine List.count_eq_one_of_mem ?_ ?_
    · rw [List.Nodup, List.pairwise_map]
      refine ascending.imp ?_
      intro left right less same
      exact List.lt_irrefl _ (same ▸ less)
    · refine mem_returned represents kept ?_ ?_ ended
      · intro moment early
        rw [← moments]
        exact present moment early
      · rw [fresh]
        trivial
  · intro key absent
    refine not_mem_returned represents ?_
    intro moment early
    rw [← moments]
    exact absent moment early

theorem point_answer (calls : List Call) (context : Nat) {kind : Kind} {pair : Pair} {reply : Reply}
    (known : (Mapping.after calls).reply? kind pair = some reply) :
    ((Ordered.new.after calls).answer (.next context kind pair)).1 = reply :=
  (Represents.new.after calls).reply? context known

end Ordered

end StoreBench.Engine
