import StoreBench.Proofs.Run.Protocol

/-! The hub agrees with the calls.

What the hub gains by the work of a worker can be read off what was said to the engine: a sample for
every `begin`, or for every record of a cursor, and the time of the calls since the `begin`.
-/

namespace StoreBench

namespace Engine.Exchange

/-- The call is none of a bracket. -/
def aside (exchange : Exchange) : Bool :=
  match exchange.call with
  | .begin _ _ | .next _ _ _ | .done _ _ => false
  | _ => true

variable {exchange : Exchange} {context : Nat}

theorem begins_aside (kind : Kind) (apart : exchange.aside = true) :
    exchange.begins kind = false := by
  obtain ⟨call, answer⟩ := exchange
  cases call with
  | begin context opened => cases apart
  | _ => rfl

theorem isRecord_aside (apart : exchange.aside = true) : exchange.isRecord = false := by
  obtain ⟨call, answer⟩ := exchange
  cases call with
  | next context step pair => cases apart
  | _ => rfl

theorem isRecord_other (other : ∀ context pair, exchange.call ≠ .next context .iterate pair) :
    exchange.isRecord = false := by
  obtain ⟨call, answer⟩ := exchange
  cases call with
  | next context step pair =>
      cases step with
      | iterate => exact absurd rfl (other context pair)
      | _ => rfl
  | _ => rfl

end Engine.Exchange

namespace Engine

/-- The time of the calls in the brackets of a kind; `current` is the bracket that is open. -/
def spentOn (kind : Kind) : Option Kind → List Exchange → Nat
  | _, [] => 0
  | current, exchange :: made =>
    match exchange.call with
    | .begin _ opened =>
      (if opened = kind then exchange.answer.took else 0) + spentOn kind (some opened) made
    | .next _ _ _ | .done _ _ =>
      (if current = some kind then exchange.answer.took else 0) + spentOn kind current made
    | _ => spentOn kind current made

theorem spentOn_aside {kind : Kind} {current : Option Kind} {made : List Exchange}
    (apart : ∀ exchange ∈ made, exchange.aside = true) (rest : List Exchange) :
    spentOn kind current (made ++ rest) = spentOn kind current rest := by
  induction made with
  | nil => rfl
  | cons exchange made ih =>
      have first := apart exchange List.mem_cons_self
      have others := ih fun exchange member => apart exchange (List.mem_cons_of_mem _ member)
      obtain ⟨call, answer⟩ := exchange
      cases call with
      | begin context opened => cases first
      | next context step pair => cases first
      | done context opened => cases first
      | _ => exact others

theorem spentOn_steps {kind : Kind} {current : Option Kind} {made : List Exchange}
    (inner : ∀ exchange ∈ made, (∃ context step pair, exchange.call = .next context step pair) ∨
      ∃ context opened, exchange.call = .done context opened) (rest : List Exchange) :
    spentOn kind current (made ++ rest) =
      (if current = some kind then elapsed made else 0) + spentOn kind current rest := by
  induction made with
  | nil => simp
  | cons exchange made ih =>
      have others := ih fun exchange member => inner exchange (List.mem_cons_of_mem _ member)
      have first : spentOn kind current (exchange :: (made ++ rest)) =
          (if current = some kind then exchange.answer.took else 0) +
            spentOn kind current (made ++ rest) := by
        obtain ⟨call, answer⟩ := exchange
        rcases inner _ List.mem_cons_self with ⟨context, step, pair, same⟩ | ⟨context, opened, same⟩
        · subst same
          rfl
        · subst same
          rfl
      rw [List.cons_append, first, others, elapsed_cons]
      split
      · exact (Nat.add_assoc ..).symm
      · simp

end Engine

namespace Run

open StoreBench.Engine (Answer Call Exchange elapsed spentOn)

variable {settings : Settings} {context : Nat}

namespace Segment

variable {segment : Segment} {segments : List Segment} {kind : Kind}

theorem total_cons (kind : Kind) (weight : List Exchange → Nat) (segment : Segment)
    (segments : List Segment) :
    total kind weight (segment :: segments) =
      (if segment.kind = kind then weight segment.made else 0) + total kind weight segments := by
  by_cases same : segment.kind = kind
  · simp [total, same]
  · simp [total, same]

/-- A weight of exchanges that is nothing outside the brackets of a kind is that of these. -/
theorem countP_flatMap {p : Exchange → Bool} {weight : List Exchange → Nat}
    (each : ∀ segment ∈ segments,
      segment.made.countP p = if segment.kind = kind then weight segment.made else 0) :
    (segments.flatMap made).countP p = total kind weight segments := by
  induction segments with
  | nil => rfl
  | cons segment segments ih =>
      rw [List.flatMap_cons, List.countP_append, each segment List.mem_cons_self,
        ih fun segment member => each segment (List.mem_cons_of_mem _ member), total_cons]

theorem Flat.begins (flat : segment.Flat context) (kind : Kind) :
    segment.made.countP (Exchange.begins kind) = if segment.kind = kind then 1 else 0 := by
  obtain ⟨begun, steps, closing, same, inner, ends⟩ := flat
  have later : (steps ++ closing).countP (Exchange.begins kind) = 0 := by
    rw [List.countP_eq_zero]
    intro exchange member
    rcases List.mem_append.mp member with early | late
    · obtain ⟨step, pair, same⟩ := inner exchange early
      simp [Exchange.begins, same]
    · rcases ends with rfl | ⟨ended, rfl⟩
      · cases late
      · obtain rfl := List.mem_singleton.mp late
        simp [Exchange.begins]
  rw [same, List.countP_cons, later, Nat.zero_add]
  simp [Exchange.begins]

theorem Flat.spent (flat : segment.Flat context) (kind : Kind) (current : Option Kind)
    (rest : List Exchange) :
    spentOn kind current (segment.made ++ rest) =
      (if segment.kind = kind then elapsed segment.made else 0) +
        spentOn kind (some segment.kind) rest := by
  obtain ⟨begun, steps, closing, same, inner, ends⟩ := flat
  have stepping : ∀ exchange ∈ steps ++ closing,
      (∃ context step pair, exchange.call = .next context step pair) ∨
        ∃ context opened, exchange.call = .done context opened := by
    intro exchange member
    rcases List.mem_append.mp member with early | late
    · obtain ⟨step, pair, same⟩ := inner exchange early
      exact .inl ⟨context, step, pair, same⟩
    · rcases ends with rfl | ⟨ended, rfl⟩
      · cases late
      · obtain rfl := List.mem_singleton.mp late
        exact .inr ⟨context, _, rfl⟩
  have later := @Engine.spentOn_steps kind (some segment.kind) _ stepping rest
  have first : spentOn kind current (segment.made ++ rest) =
      (if segment.kind = kind then begun.took else 0) +
        spentOn kind (some segment.kind) (steps ++ closing ++ rest) := by
    rw [same]
    rfl
  rw [first, later, same, Engine.elapsed_cons]
  by_cases mine : segment.kind = kind
  · simp [mine, Nat.add_assoc]
  · simp [mine]

theorem spent_flatMap (flat : ∀ segment ∈ segments, segment.Flat context) (kind : Kind)
    (current : Option Kind) (rest : List Exchange) : ∃ latest,
      spentOn kind current (segments.flatMap made ++ rest) =
        total kind elapsed segments + spentOn kind latest rest := by
  induction segments generalizing current with
  | nil => exact ⟨current, (Nat.zero_add _).symm⟩
  | cons segment segments ih =>
      obtain ⟨latest, others⟩ :=
        ih (fun segment member => flat segment (List.mem_cons_of_mem _ member)) (some segment.kind)
      refine ⟨latest, ?_⟩
      rw [List.flatMap_cons, List.append_assoc, (flat segment List.mem_cons_self).spent, others,
        total_cons, Nat.add_assoc]

end Segment

/-- There are no records in a bracket of another kind than the cursor's. -/
theorem Bracket.recordless {kind : Kind} {left used : Nat} {made : List Exchange}
    (bracket : Bracket settings context left kind made used) (counted : kind ≠ .iterate) :
    ∀ exchange ∈ made, exchange.isRecord = false := by
  have transaction {kind : Kind} {made : List Exchange} {whole : Bool} {pairs : List (Pair × Pair)}
      (said : Scripted (Exchange.fine settings kind) (transactionCalls context kind pairs) made
        whole) : ∀ exchange ∈ made, exchange.isRecord = false := by
    intro exchange member
    apply Exchange.isRecord_other
    intro context pair same
    have among := said.calls_prefix.subset (List.mem_map_of_mem member)
    rw [same] at among
    simp [transactionCalls, quadrupleCalls] at among
  cases bracket with
  | refused point refuses =>
      intro exchange member
      rcases List.mem_cons.mp member with rfl | member
      · rfl
      · obtain rfl := List.mem_singleton.mp member
        rfl
  | point point opens =>
      intro exchange member
      apply Exchange.isRecord_other
      intro context pair same
      simp only [List.mem_cons, List.not_mem_nil, or_false] at member
      rcases member with rfl | rfl | rfl
      · cases same
      · cases same
        cases point
      · cases same
  | crud pairs said => exact transaction said
  | batch pairs filled said => exact transaction said
  | unopened refuses => exact absurd rfl counted
  | spent opens taken all => exact absurd rfl counted
  | exhausted opens taken some stops => exact absurd rfl counted
  | lost opens taken some broken unknown => exact absurd rfl counted

/-- The brackets of a conversation stand between calls that are none. -/
theorem Conversation.around {kinds : List Kind} {share : Nat} {rounds : List (List Segment)}
    {made : List Exchange} {verdict : Verdict}
    (said : Conversation settings context kinds share rounds made verdict) :
    ∃ opening closing, made = opening ++ (rounds.flatten.flatMap Segment.made ++ closing) ∧
      (∀ exchange ∈ opening, exchange.aside = true) ∧
      ∀ exchange ∈ closing, exchange.aside = true := by
  have options {opened : Answer} {options : List String} {offered : List Exchange} {whole : Bool}
      (scripted : Scripted Exchange.granted (options.map (Call.contextOption context)) offered
        whole) : ∀ exchange ∈ (⟨.newContext context, opened⟩ :: offered : List Exchange),
        exchange.aside = true := by
    intro exchange member
    rcases List.mem_cons.mp member with rfl | among
    · rfl
    · obtain ⟨option, _, same⟩ :=
        List.mem_map.mp (scripted.calls_prefix.subset (List.mem_map_of_mem among))
      simp [Exchange.aside, ← same]
  have disposing (disposed : Answer) : ∀ exchange ∈
      ([⟨.dispose context, disposed⟩] : List Exchange), exchange.aside = true := by
    intro exchange member
    obtain rfl := List.mem_singleton.mp member
    rfl
  cases said with
  | refused refuses => exact ⟨_, [], (List.append_nil _).symm, @options _ [] _ _ .complete, by simp⟩
  | rejected opens offers => exact ⟨_, _, rfl, options offers, disposing _⟩
  | worked opens offers work => exact ⟨_, _, rfl, options offers, disposing _⟩

theorem Conversation.smooth {kinds : List Kind} {share : Nat} {rounds : List (List Segment)}
    {made : List Exchange} {verdict : Verdict}
    (said : Conversation settings context kinds share rounds made verdict) :
    ∀ segment ∈ rounds.flatten, ∃ left used,
      Bracket settings context left segment.kind segment.made used := by
  cases said with
  | refused refuses => simp
  | rejected opens offers => simp
  | worked opens offers work =>
      intro segment member
      obtain ⟨left, used, _, _, bracket⟩ := work.smooth.bracket segment member
      exact ⟨left, used, bracket⟩

section Sums

variable {kinds : List Kind} {share : Nat} {rounds : List (List Segment)} {made : List Exchange}
  {verdict : Verdict} {kind : Kind}

theorem Conversation.begins
    (said : Conversation settings context kinds share rounds made verdict)
    (counted : kind ≠ .iterate) :
    made.countP (Exchange.begins kind) = Segment.total kind (samples kind) rounds.flatten := by
  obtain ⟨opening, closing, same, before, after⟩ := said.around
  have none {made : List Exchange} (apart : ∀ exchange ∈ made, exchange.aside = true) :
      made.countP (Exchange.begins kind) = 0 := by
    rw [List.countP_eq_zero]
    intro exchange member
    simp [Exchange.begins_aside kind (apart exchange member)]
  rw [same, List.countP_append, List.countP_append, none before, none after, Nat.zero_add,
    Nat.add_zero]
  apply Segment.countP_flatMap
  intro segment member
  obtain ⟨_, _, bracket⟩ := said.smooth segment member
  rw [bracket.flat.begins, samples, if_neg counted]

theorem Conversation.records
    (said : Conversation settings context kinds share rounds made verdict) :
    made.countP Exchange.isRecord =
      Segment.total .iterate (samples .iterate) rounds.flatten := by
  obtain ⟨opening, closing, same, before, after⟩ := said.around
  have none {made : List Exchange} (apart : ∀ exchange ∈ made, exchange.aside = true) :
      made.countP Exchange.isRecord = 0 := by
    rw [List.countP_eq_zero]
    intro exchange member
    simp [Exchange.isRecord_aside (apart exchange member)]
  rw [same, List.countP_append, List.countP_append, none before, none after, Nat.zero_add,
    Nat.add_zero]
  apply Segment.countP_flatMap
  intro segment member
  obtain ⟨_, _, bracket⟩ := said.smooth segment member
  split
  · rfl
  · next other =>
    rw [List.countP_eq_zero]
    intro exchange inside
    simp [bracket.recordless other exchange inside]

theorem Conversation.spent
    (said : Conversation settings context kinds share rounds made verdict) :
    spentOn kind none made = Segment.total kind elapsed rounds.flatten := by
  obtain ⟨opening, closing, same, before, after⟩ := said.around
  have flat : ∀ segment ∈ rounds.flatten, segment.Flat context := by
    intro segment member
    obtain ⟨_, _, bracket⟩ := said.smooth segment member
    exact bracket.flat
  obtain ⟨latest, sum⟩ := Segment.spent_flatMap flat kind none closing
  have nothing : spentOn kind latest closing = 0 := by
    rw [← List.append_nil closing, Engine.spentOn_aside after]
    rfl
  rw [same, Engine.spentOn_aside before, sum, nothing, Nat.add_zero]

end Sums

/-- The hub gained the samples and the time that the exchanges show. -/
structure Agrees (before : Desk) (made : List Exchange) (after : Desk) : Prop where
  count : ∀ kind, kind ≠ .iterate →
    (after.shared.hub.accounts.get kind).total.count =
      (before.shared.hub.accounts.get kind).total.count + made.countP (Exchange.begins kind)
  records : (after.shared.hub.accounts.get .iterate).total.count =
    (before.shared.hub.accounts.get .iterate).total.count + made.countP Exchange.isRecord
  latency : before.shared.clock + elapsed made < wordLimit → ∀ kind, kind ≠ .iterate →
    (after.shared.hub.accounts.get kind).total.latency =
      (before.shared.hub.accounts.get kind).total.latency + spentOn kind none made
  idle : before.Idle → after.Idle

/-- Whatever the engine answers, and whether the worker fails or not: if it does not end in a panic,
then the hub agrees with the calls. -/
theorem report_agrees {W : Type} {stage : Stage (StateM W)} {record : W → List Exchange}
    (heard : stage.Heard record) (settings : Settings) (context : Nat) {desk : Desk}
    (paired : desk.Paired) (collected : ∀ kind, desk.Collects kind) (world : W) :
    ∃ made result after,
      record (runFrom (fulfil stage settings context) desk world).2 = record world ++ made ∧
      (runFrom (fulfil stage settings context) desk world).1 = (result, after) ∧
      ((∃ cause, result = .error (.panic cause) ∧
          Excuse (Strain (desk.reckoning settings)) made cause) ∨
        (∀ cause, result ≠ .error (.panic cause)) ∧ Agrees desk made after) := by
  obtain ⟨made, said, meets⟩ :=
    @fulfil_yields _ stage _ _ context _ _ (desk.enduring settings paired) world
  have agrees {rounds : List (List Segment)} {verdict : Verdict} {ok : Bool} {left : Desk}
      (fulfilled : Fulfilled (desk.reckoning settings) context rounds verdict made ok desk left) :
      Agrees desk made (left.ended ok) :=
    { count := fun kind counted => by
        rw [fulfilled.said.begins counted]
        exact fulfilled.worked.count kind (collected kind)
      records := by
        rw [fulfilled.said.records]
        exact fulfilled.worked.count .iterate (collected .iterate)
      latency := fun ahead kind timed => by
        rw [fulfilled.said.spent]
        exact fulfilled.worked.latency kind (collected kind) timed ahead
      idle := fulfilled.worked.idle }
  generalize (runFrom (fulfil stage settings context) desk world).1 = ended at meets ⊢
  obtain ⟨result, after⟩ := ended
  refine ⟨made, result, after, said record heard, rfl, ?_⟩
  rcases result with (cause | cause) | done
  · obtain ⟨_, rounds, verdict, left, rfl, fulfilled⟩ := meets
    exact .inr ⟨by simp, agrees fulfilled⟩
  · exact .inl ⟨cause, rfl, meets⟩
  · obtain ⟨_, rounds, verdict, left, rfl, fulfilled⟩ := meets
    exact .inr ⟨by simp, agrees fulfilled⟩

theorem report_agrees_lost : ∃ desk made after, rehearsedDesk = some desk ∧
    runFrom (fulfil (Stage.scribe (losing 40)) rehearsed 0) desk [] =
      ((.error (.failure (.engine (.failed "lost"))), after), made) ∧
    Agrees desk made after ∧ after.Idle ∧
    made.countP (Exchange.begins .batch) = 1 ∧ spentOn .batch none made = 12 := by
  have checked : (rehearsedDesk.any fun desk => desk.Paired ∧
      (∀ kind ∈ Kind.all, desk.Collects kind) ∧ desk.Idle ∧
      (runFrom (fulfil (Stage.scribe (losing 40)) rehearsed 0) desk []).1.1 =
        .error (.failure (.engine (.failed "lost"))) ∧
      (runFrom (fulfil (Stage.scribe (losing 40)) rehearsed 0) desk []).2.countP
        (Exchange.begins .batch) = 1 ∧
      spentOn .batch none (runFrom (fulfil (Stage.scribe (losing 40)) rehearsed 0) desk []).2 =
        12) = true := by
    decide +kernel
  obtain ⟨desk, enlisted, told⟩ := (Option.any_eq_true _ _).mp checked
  obtain ⟨paired, collected, idle, ends, begun, spent⟩ := of_decide_eq_true told
  obtain ⟨made, result, after, said, ended, panics | ⟨_, agrees⟩⟩ :=
    report_agrees (Stage.scribe_heard (losing 40)) rehearsed 0 paired
      (fun kind => collected kind (Kind.mem_all kind)) []
  · obtain ⟨cause, panicked, _⟩ := panics
    rw [ended, panicked] at ends
    cases ends
  · change _ = made at said
    rw [ended] at ends
    obtain rfl : result = _ := ends
    subst said
    exact ⟨desk, _, after, enlisted, Prod.ext ended rfl, agrees, agrees.idle idle, begun, spent⟩

end Run

end StoreBench
