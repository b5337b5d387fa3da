import StoreBench.Proofs.Run.Triple

/-! What a piece of work says to the engine.

Whatever the engine answers, and however the world behind it is built, the calls of a piece of work
and the state it leaves depend on its state and on the answers only.  The rules below describe both
together, construct by construct.  A panic needs an excuse: either the engine panicked, or the
panic is one of those that were excused beforehand.
-/

namespace StoreBench.Engine

/-- A call with its answer. -/
structure Exchange where
  call : Call
  answer : Answer
  deriving DecidableEq

end StoreBench.Engine

namespace StoreBench.Run

open StoreBench.Engine (Answer Call Exchange)

variable {W σ α β : Type}

@[simp] theorem ok_isOk (value : α) : (Except.ok value : Except β α).isOk = true := rfl

@[simp] theorem error_isOk (cause : β) : (Except.error cause : Except β α).isOk = false := rfl

/-- The record of a world lists what was said to the engine, and nothing else. -/
structure Stage.Heard (stage : Stage (StateM W)) (record : W → List Exchange) : Prop where
  engine : ∀ call world, record (stage.engine call world).2 =
    record world ++ [⟨call, (stage.engine call world).1⟩]
  publish : ∀ emission world, record (stage.publish emission world).2 = record world

/-- A stage whose world is the record; the engine answers by what was said before. -/
def Stage.scribe (answers : List Exchange → Call → Answer) : Stage (StateM (List Exchange)) where
  engine call := fun said => (answers said call, said ++ [⟨call, answers said call⟩])
  publish _ := fun said => ((), said)

theorem Stage.scribe_heard (answers : List Exchange → Call → Answer) :
    (scribe answers).Heard id where
  engine _ _ := rfl
  publish _ _ := rfl

/-- Either the engine panicked like this, or the panic was excused by what was said. -/
def Excuse (excused : List Exchange → Panic → Prop) (made : List Exchange) (cause : Panic) : Prop :=
  excused made cause ∨ ∃ exchange ∈ made, ∃ reason,
    exchange.answer.reply = .panic reason ∧ cause = .engine reason

theorem Excuse.mono {excused others : List Exchange → Panic → Prop} {made whole : List Exchange}
    {cause : Panic} (excuse : Excuse excused made cause) (among : made ⊆ whole)
    (weaker : excused made cause → others whole cause) : Excuse others whole cause := by
  rcases excuse with excuse | ⟨exchange, member, told⟩
  · exact .inl (weaker excuse)
  · exact .inr ⟨exchange, among member, told⟩

/-- Every panic is excused, where only what is said before it matters. -/
abbrev anyhow (_ : List Exchange) (_ : Panic) : Prop :=
  True

/-- Excuses for a rest of the work, of which all that was said may be told. -/
def since (excused : List Exchange → Panic → Prop) (said made : List Exchange) (cause : Panic) :
    Prop :=
  excused (said ++ made) cause

theorem since_append (excused : List Exchange → Panic → Prop) (said made : List Exchange) :
    since (since excused said) made = since excused (said ++ made) := by
  funext more cause
  unfold since
  rw [List.append_assoc]

/-- There was no panic of the engine but for those that may be excused. -/
def Calm (excused : List Exchange → Panic → Prop) (made : List Exchange) : Prop :=
  ∀ exchange ∈ made, ∀ reason, exchange.answer.reply = .panic reason →
    ∃ said, excused said (.engine reason)

/-- The end of a piece of work that said `made`. -/
def Meets (excused : List Exchange → Panic → Prop)
    (post : List Exchange → Except Failure α → σ → Prop) (made : List Exchange) :
    Except Stop α × σ → Prop
  | (.ok value, state) => Calm excused made ∧ post made (.ok value) state
  | (.error (.failure cause), state) => Calm excused made ∧ post made (.error cause) state
  | (.error (.panic cause), _) => Excuse excused made cause

theorem Calm.nil (excused : List Exchange → Panic → Prop) : Calm excused [] := by
  simp [Calm]

theorem Calm.append {excused : List Exchange → Panic → Prop} {made more : List Exchange}
    (first : Calm excused made) (second : Calm (since excused made) more) :
    Calm excused (made ++ more) := by
  intro exchange member reason panicked
  rcases List.mem_append.mp member with early | late
  · exact first exchange early reason panicked
  · obtain ⟨said, allowed⟩ := second exchange late reason panicked
    exact ⟨made ++ said, allowed⟩

/-- From this state, in any world, the work says something to the engine and ends as described;
every faithful record goes on by what was said. -/
def Yields (faithful : (W → List Exchange) → Prop) (excused : List Exchange → Panic → Prop)
    (piece : Piece W σ α) (state : σ) (post : List Exchange → Except Failure α → σ → Prop) :
    Prop :=
  ∀ world, ∃ made,
    (∀ record, faithful record → record (runFrom piece state world).2 = record world ++ made) ∧
      Meets excused post made (runFrom piece state world).1

namespace Yields

variable {faithful : (W → List Exchange) → Prop} {excused : List Exchange → Panic → Prop}
  {piece : Piece W σ α} {state : σ} {post : List Exchange → Except Failure α → σ → Prop}

theorem mono {post' : List Exchange → Except Failure α → σ → Prop}
    (yields : Yields faithful excused piece state post)
    (weaker : ∀ made outcome after, post made outcome after → post' made outcome after) :
    Yields faithful excused piece state post' := by
  intro world
  obtain ⟨made, heard, meets⟩ := yields world
  refine ⟨made, heard, ?_⟩
  generalize runFrom piece state world = ended at meets
  rcases ended with ⟨⟨(cause | cause) | value, after⟩, left⟩
  · exact meets.imp_right (weaker made _ after)
  · exact meets
  · exact meets.imp_right (weaker made _ after)

/-- Work that says nothing and leaves the world alone. -/
theorem still {ended : Except Stop α × σ}
    (runs : ∀ world, runFrom piece state world = (ended, world))
    (meets : Meets excused post [] ended) : Yields faithful excused piece state post := by
  intro world
  refine ⟨[], ?_, ?_⟩
  · intro record _
    rw [runs, List.append_nil]
  · rw [runs]
    exact meets

theorem pure {value : α} (holds : post [] (.ok value) state) :
    Yields faithful excused (Pure.pure value) state post :=
  still (fun _ => rfl) ⟨Calm.nil excused, holds⟩

theorem fails {cause : Failure} (holds : post [] (.error cause) state) :
    Yields faithful excused (MonadExcept.throw (Stop.failure cause)) state post :=
  @still _ _ _ _ _ _ _ _ (.error (.failure cause), state) (fun _ => rfl) ⟨Calm.nil excused, holds⟩

theorem panics {cause : Panic} (holds : excused [] cause) :
    Yields faithful excused (MonadExcept.throw (Stop.panic cause)) state post :=
  @still _ _ _ _ _ _ _ _ (.error (.panic cause), state) (fun _ => rfl) (.inl holds)

theorem set {next : σ} {post : List Exchange → Except Failure PUnit → σ → Prop}
    (holds : post [] (.ok ⟨⟩) next) :
    Yields faithful excused (MonadStateOf.set next) state post :=
  @still _ _ _ _ _ _ _ _ (.ok ⟨⟩, next) (fun _ => rfl) ⟨Calm.nil excused, holds⟩

theorem modifies {change : σ → σ} {post : List Exchange → Except Failure PUnit → σ → Prop}
    (holds : post [] (.ok ⟨⟩) (change state)) :
    Yields faithful excused (modify change) state post :=
  @still _ _ _ _ _ _ _ _ (.ok ⟨⟩, change state) (fun _ => rfl) ⟨Calm.nil excused, holds⟩

theorem reads {next : σ → Piece W σ α} (rest : Yields faithful excused (next state) state post) :
    Yields faithful excused (MonadState.get >>= next) state post := rest

theorem pureThen {value : α} {next : α → Piece W σ β}
    {post : List Exchange → Except Failure β → σ → Prop}
    (rest : Yields faithful excused (next value) state post) :
    Yields faithful excused (Pure.pure value >>= next) state post := rest

theorem lift {step : StateM W α} (quiet : ∀ record, faithful record →
    ∀ world, record (step world).2 = record world)
    (holds : ∀ value, post [] (.ok value) state) :
    Yields faithful excused (liftM step : Piece W σ α) state post := by
  intro world
  refine ⟨[], ?_, Calm.nil excused, holds _⟩
  intro record hears
  rw [List.append_nil]
  exact quiet record hears world

theorem bind {next : α → Piece W σ β} {post : List Exchange → Except Failure β → σ → Prop}
    (first : Yields faithful excused piece state fun made outcome after =>
      match outcome with
      | .ok value =>
        Yields faithful (since excused made) (next value) after fun more => post (made ++ more)
      | .error cause => post made (.error cause) after) :
    Yields faithful excused (piece >>= next) state post := by
  intro world
  obtain ⟨made, heard, meets⟩ := first world
  rw [runFrom_bind]
  generalize runFrom piece state world = ended at heard meets
  rcases ended with ⟨⟨(cause | cause) | value, after⟩, left⟩
  · exact ⟨made, heard, meets⟩
  · exact ⟨made, heard, meets⟩
  · obtain ⟨calm, rest⟩ := meets
    obtain ⟨more, further, ends⟩ := rest left
    refine ⟨made ++ more, ?_, ?_⟩
    · intro record hears
      rw [further record hears, heard record hears, List.append_assoc]
    · dsimp only
      generalize runFrom (next value) after left = ended at ends
      rcases ended with ⟨⟨(cause | cause) | value, after⟩, left⟩
      · exact ⟨calm.append ends.1, ends.2⟩
      · rcases ends with allowed | ⟨exchange, member, told⟩
        · exact .inl allowed
        · exact .inr ⟨exchange, List.mem_append_right made member, told⟩
      · exact ⟨calm.append ends.1, ends.2⟩

theorem attempt {post : List Exchange → Except Failure (Except Failure α) → σ → Prop}
    (yields : Yields faithful excused piece state fun made outcome => post made (.ok outcome)) :
    Yields faithful excused (Run.attempt piece) state post := by
  intro world
  obtain ⟨made, heard, meets⟩ := yields world
  refine ⟨made, ?_, ?_⟩
  · intro record hears
    rw [← heard record hears, runFrom_attempt]
    generalize runFrom piece state world = ended
    rcases ended with ⟨⟨(_ | _) | _, _⟩, _⟩ <;> rfl
  · rw [runFrom_attempt]
    generalize runFrom piece state world = ended at meets
    rcases ended with ⟨⟨(_ | _) | _, _⟩, _⟩
    · exact meets
    · exact meets
    · exact meets

theorem settle {outcome : Except Failure α} (holds : post [] outcome state) :
    Yields faithful excused (Run.settle outcome) state post := by
  cases outcome with
  | ok value => exact pure holds
  | error cause => exact fails holds

/-- The rest of the work depends on what was said before, of which it may be told. -/
theorem bindFrom {next : α → Piece W σ β} {m : List Exchange → Except Failure α → σ → Prop}
    {post : List Exchange → Except Failure β → σ → Prop}
    (first : Yields faithful excused piece state m)
    (early : ∀ made cause after, m made (.error cause) after → post made (.error cause) after)
    (rest : ∀ made value after, m made (.ok value) after →
      Yields faithful (since excused made) (next value) after fun more => post (made ++ more)) :
    Yields faithful excused (piece >>= next) state post := by
  apply bind
  apply first.mono
  intro made outcome after holds
  cases outcome with
  | ok value => exact rest made value after holds
  | error cause => exact early made cause after holds

/-- Work that is itself a rest. -/
theorem bindSince {said : List Exchange} {next : α → Piece W σ β}
    {m : List Exchange → Except Failure α → σ → Prop}
    {post : List Exchange → Except Failure β → σ → Prop}
    (first : Yields faithful (since excused said) piece state m)
    (early : ∀ made cause after, m made (.error cause) after → post made (.error cause) after)
    (rest : ∀ made value after, m made (.ok value) after →
      Yields faithful (since excused (said ++ made)) (next value) after
        fun more => post (made ++ more)) :
    Yields faithful (since excused said) (piece >>= next) state post := by
  apply first.bindFrom early
  intro made value after holds
  rw [since_append]
  exact rest made value after holds

end Yields

/-- The desk after these exchanges, if nothing else is done. -/
def Shared.answered (shared : Shared) (made : List Exchange) : Shared :=
  made.foldl (fun shared exchange => shared.afterAnswer exchange.answer) shared

def Desk.answered (desk : Desk) (made : List Exchange) : Desk :=
  { desk with shared := desk.shared.answered made }

theorem Shared.answered_append (shared : Shared) (made more : List Exchange) :
    shared.answered (made ++ more) = (shared.answered made).answered more :=
  List.foldl_append

theorem Desk.answered_append (desk : Desk) (made more : List Exchange) :
    desk.answered (made ++ more) = (desk.answered made).answered more := by
  simp only [answered, Shared.answered_append]

section Calls

variable {stage : Stage (StateM W)} {excused : List Exchange → Panic → Prop} {desk : Desk}

theorem runFrom_ask (stage : Stage (StateM W)) (call : Call) (desk : Desk) (world : W) :
    runFrom (ask stage call) desk world =
      ((match (stage.engine call world).1.reply with
        | .ok pair => .ok (.ok pair)
        | .error cause => .ok (.error cause)
        | .panic reason => .error (.panic (.engine reason)),
        desk.answered [⟨call, (stage.engine call world).1⟩]), (stage.engine call world).2) := by
  have taken : runFrom (ask stage call) desk world =
      runFrom (match (stage.engine call world).1.reply with
        | .ok pair => pure (.ok pair)
        | .error cause => pure (.error cause)
        | .panic reason => throw (.panic (.engine reason)) : Work (StateM W) _)
        (desk.answered [⟨call, (stage.engine call world).1⟩]) (stage.engine call world).2 := rfl
  rw [taken]
  cases (stage.engine call world).1.reply with
  | ok pair => rfl
  | error cause => rfl
  | panic reason => rfl

/-- A call is made, and its answer reaches the desk. -/
theorem ask_yields (call : Call) :
    Yields stage.Heard excused (ask stage call) desk fun made outcome after =>
      ∃ answer : Answer, made = [⟨call, answer⟩] ∧ after = desk.answered [⟨call, answer⟩] ∧
        ((∃ pair, answer.reply = .ok pair ∧ outcome = .ok (.ok pair)) ∨
          ∃ cause, answer.reply = .error cause ∧ outcome = .ok (.error cause)) := by
  intro world
  refine ⟨[⟨call, (stage.engine call world).1⟩], ?_, ?_⟩
  · intro record heard
    rw [runFrom_ask]
    exact heard.engine call world
  · rw [runFrom_ask]
    generalize (stage.engine call world).1 = answer
    rcases replied : answer.reply with pair | cause | reason
    · exact ⟨by simp [Calm, replied], answer, rfl, rfl, .inl ⟨pair, replied, rfl⟩⟩
    · exact ⟨by simp [Calm, replied], answer, rfl, rfl, .inr ⟨cause, replied, rfl⟩⟩
    · exact .inr ⟨_, List.mem_singleton_self _, reason, replied, rfl⟩

theorem demand_yields (call : Call) :
    Yields stage.Heard excused (demand stage call) desk fun made outcome after =>
      ∃ answer : Answer, made = [⟨call, answer⟩] ∧ after = desk.answered [⟨call, answer⟩] ∧
        ((∃ pair, answer.reply = .ok pair ∧ outcome = .ok pair) ∨
          ∃ cause, answer.reply = .error cause ∧ outcome = .error (.engine cause)) := by
  unfold demand
  apply (ask_yields call).bindFrom
  · rintro made cause after ⟨_, _, _, ⟨_, _, impossible⟩ | ⟨_, _, impossible⟩⟩
    · cases impossible
    · cases impossible
  · rintro made value after ⟨answer, rfl, rfl, ⟨pair, replied, same⟩ | ⟨cause, replied, same⟩⟩
    · cases same
      exact Yields.pure ⟨answer, rfl, rfl, .inl ⟨pair, replied, rfl⟩⟩
    · cases same
      exact Yields.fails ⟨answer, rfl, rfl, .inr ⟨cause, replied, rfl⟩⟩

/-- After some exchanges that left the rest of the desk alone, the work goes on and ends as
described by all that was said. -/
def Resumes (stage : Stage (StateM W)) (excused : List Exchange → Panic → Prop) (desk : Desk)
    (said : List Exchange) (piece : Work (StateM W) α)
    (post : List Exchange → Except Failure α → Desk → Prop) : Prop :=
  Yields stage.Heard (since excused said) piece (desk.answered said) fun more =>
    post (said ++ more)

namespace Resumes

variable {said : List Exchange} {piece : Work (StateM W) α}
  {post : List Exchange → Except Failure α → Desk → Prop}

theorem start (resumes : Resumes stage excused desk [] piece post) :
    Yields stage.Heard excused piece desk post := resumes

theorem further {more : List Exchange}
    (resumes : Resumes stage excused desk (said ++ more) piece post) :
    Yields stage.Heard (since (since excused said) more) piece
      ((desk.answered said).answered more) fun made => post (said ++ (more ++ made)) := by
  unfold Resumes at resumes
  simp only [Desk.answered_append, List.append_assoc] at resumes
  rw [since_append]
  exact resumes

theorem pure {value : α} (holds : post said (.ok value) (desk.answered said)) :
    Resumes stage excused desk said (Pure.pure value) post := by
  apply Yields.pure
  rw [List.append_nil]
  exact holds

theorem fails {cause : Failure} (holds : post said (.error cause) (desk.answered said)) :
    Resumes stage excused desk said (MonadExcept.throw (Stop.failure cause)) post := by
  apply Yields.fails
  rw [List.append_nil]
  exact holds

theorem failsThen {β : Type} {cause : Failure} {next : β → Work (StateM W) α}
    (holds : post said (.error cause) (desk.answered said)) :
    Resumes stage excused desk said (MonadExcept.throw (Stop.failure cause) >>= next) post :=
  Resumes.fails holds

theorem ask {call : Call} {next : Except EngineError Pair → Work (StateM W) α}
    (granted : ∀ answer pair, answer.reply = .ok pair →
      Resumes stage excused desk (said ++ [⟨call, answer⟩]) (next (.ok pair)) post)
    (refused : ∀ answer cause, answer.reply = .error cause →
      Resumes stage excused desk (said ++ [⟨call, answer⟩]) (next (.error cause)) post) :
    Resumes stage excused desk said (Run.ask stage call >>= next) post := by
  apply (ask_yields call).bindFrom
  · rintro made cause after ⟨_, _, _, ⟨_, _, impossible⟩ | ⟨_, _, impossible⟩⟩
    · cases impossible
    · cases impossible
  · rintro made value after ⟨answer, rfl, rfl, ⟨pair, replied, same⟩ | ⟨cause, replied, same⟩⟩
    · cases same
      exact (granted answer pair replied).further
    · cases same
      exact (refused answer cause replied).further

theorem demand {call : Call} {next : Pair → Work (StateM W) α}
    (granted : ∀ answer pair, answer.reply = .ok pair →
      Resumes stage excused desk (said ++ [⟨call, answer⟩]) (next pair) post)
    (refused : ∀ answer cause, answer.reply = .error cause →
      post (said ++ [⟨call, answer⟩]) (.error (.engine cause))
        (desk.answered (said ++ [⟨call, answer⟩]))) :
    Resumes stage excused desk said (Run.demand stage call >>= next) post := by
  apply (demand_yields call).bindFrom
  · rintro made cause after ⟨answer, rfl, rfl, ⟨_, _, impossible⟩ | ⟨_, replied, same⟩⟩
    · cases impossible
    · cases same
      rw [← Desk.answered_append]
      exact refused answer _ replied
  · rintro made value after ⟨answer, rfl, rfl, ⟨_, replied, same⟩ | ⟨_, _, impossible⟩⟩
    · cases same
      exact (granted answer _ replied).further
    · cases impossible

end Resumes

end Calls

end StoreBench.Run
