import StoreBench.Run.Runner

/-! What a piece of work ensures.

A piece of work changes the state of a run and the world around it, and ends with a value or early.
The rules below take it apart along its text: what it ensures follows from what its parts ensure.
-/

namespace StoreBench.Run

variable {W σ α β : Type}

/-- Work in a world of its own. -/
abbrev Piece (W σ α : Type) := ExceptT Stop (StateT σ (StateM W)) α

/-- The result of a piece of work, with the state and the world it leaves. -/
def runFrom (piece : Piece W σ α) (state : σ) (world : W) : (Except Stop α × σ) × W :=
  (piece.run.run state).run world

theorem runFrom_bind (piece : Piece W σ α) (next : α → Piece W σ β) (state : σ) (world : W) :
    runFrom (piece >>= next) state world =
      match runFrom piece state world with
      | ((.ok value, state), world) => runFrom (next value) state world
      | ((.error stop, state), world) => ((.error stop, state), world) := by
  have taken : runFrom (piece >>= next) state world =
      ExceptT.bindCont next (runFrom piece state world).1.1 (runFrom piece state world).1.2
        (runFrom piece state world).2 := rfl
  rw [taken]
  generalize runFrom piece state world = ended
  rcases ended with ⟨⟨_ | value, after⟩, left⟩
  · rfl
  · rfl

/-- A file that cannot be created is not written to. -/
theorem Host.write_eq (host : Host (StateM W)) (path text : String) (world : W) :
    host.write path text world =
      match (host.create path world).1 with
      | .ok () => host.append path text (host.create path world).2
      | .error cause => (.error cause, (host.create path world).2) := by
  have taken : host.write path text world =
      (match (host.create path world).1 with
        | .ok () => host.append path text
        | .error cause => pure (.error cause) : StateM W (Except FileError Unit))
        (host.create path world).2 := rfl
  rw [taken]
  cases (host.create path world).1 with
  | ok done => rfl
  | error cause => rfl

/-- The end of a piece of work is one of those described. -/
def Ends (fail : Stop → σ → W → Prop) (post : α → σ → W → Prop) :
    (Except Stop α × σ) × W → Prop
  | ((.ok value, state), world) => post value state world
  | ((.error stop, state), world) => fail stop state world

/-- From a state and a world as described, the work ends with a value, a state and a world as
described, or early as described. -/
def Ensures (fail : Stop → σ → W → Prop) (pre : σ → W → Prop) (piece : Piece W σ α)
    (post : α → σ → W → Prop) : Prop :=
  ∀ state world, pre state world → Ends fail post (runFrom piece state world)

section Rules

variable {fail : Stop → σ → W → Prop} {pre : σ → W → Prop} {post : α → σ → W → Prop}
  {piece : Piece W σ α}

theorem Ensures.pure {value : α} (holds : ∀ state world, pre state world → post value state world) :
    Ensures fail pre (Pure.pure value) post := holds

theorem Ensures.throw {stop : Stop}
    (holds : ∀ state world, pre state world → fail stop state world) :
    Ensures fail pre (MonadExcept.throw stop) post := holds

theorem Ensures.get {post : σ → σ → W → Prop}
    (holds : ∀ state world, pre state world → post state state world) :
    Ensures fail pre MonadState.get post := holds

theorem Ensures.reads {p : σ → Prop} {next : σ → Piece W σ β} {post : β → σ → W → Prop}
    (known : ∀ state world, pre state world → p state)
    (rest : ∀ found, p found → Ensures fail pre (next found) post) :
    Ensures fail pre (MonadState.get >>= next) post :=
  fun state world holds => rest state (known state world holds) state world holds

theorem Ensures.set {post : PUnit → σ → W → Prop} {next : σ}
    (holds : ∀ state world, pre state world → post ⟨⟩ next world) :
    Ensures fail pre (MonadStateOf.set next) post := holds

theorem Ensures.modify {post : PUnit → σ → W → Prop} {change : σ → σ}
    (holds : ∀ state world, pre state world → post ⟨⟩ (change state) world) :
    Ensures fail pre (modify change) post := holds

theorem Ensures.lift {step : StateM W α}
    (holds : ∀ state world, pre state world → post (step world).1 state (step world).2) :
    Ensures fail pre (liftM step : Piece W σ α) post := holds

theorem Ensures.bind {next : α → Piece W σ β} {m : α → σ → W → Prop}
    {post : β → σ → W → Prop} (first : Ensures fail pre piece m)
    (rest : ∀ value, Ensures fail (m value) (next value) post) :
    Ensures fail pre (piece >>= next) post := by
  intro state world holds
  have begun := first state world holds
  rw [runFrom_bind]
  generalize runFrom piece state world = ended at begun
  rcases ended with ⟨⟨_ | value, after⟩, left⟩
  · exact begun
  · exact rest value after left begun

theorem Ensures.bindTo {value : α} {next : α → Piece W σ β} {m : σ → W → Prop}
    {post : β → σ → W → Prop}
    (first : Ensures fail pre piece fun result state world => result = value ∧ m state world)
    (rest : Ensures fail m (next value) post) : Ensures fail pre (piece >>= next) post := by
  refine Ensures.bind first fun result => ?_
  intro state world given
  obtain ⟨rfl, holds⟩ := given
  exact rest state world holds

theorem Ensures.after {post' : α → σ → W → Prop} (ensures : Ensures fail pre piece post)
    (weaker : ∀ value state world, post value state world → post' value state world) :
    Ensures fail pre piece post' := by
  intro state world holds
  have ends := ensures state world holds
  generalize runFrom piece state world = ended at ends
  rcases ended with ⟨⟨stop | value, state⟩, world⟩
  · exact ends
  · exact weaker value state world ends

theorem Ensures.before {pre' : σ → W → Prop} (ensures : Ensures fail pre piece post)
    (stronger : ∀ state world, pre' state world → pre state world) :
    Ensures fail pre' piece post :=
  fun state world holds => ensures state world (stronger state world holds)

theorem Ensures.assume {p : Prop} (given : ∀ state world, pre state world → p)
    (ensures : p → Ensures fail pre piece post) : Ensures fail pre piece post :=
  fun state world holds => ensures (given state world holds) state world holds

theorem Ensures.learn {p : Prop} {m : σ → W → Prop} (ensures : p → Ensures fail m piece post) :
    Ensures fail (fun state world => p ∧ m state world) piece post :=
  fun state world given => ensures given.1 state world given.2

theorem Ensures.name {ι : Type} {m : ι → σ → W → Prop}
    (ensures : ∀ index, Ensures fail (m index) piece post) :
    Ensures fail (fun state world => ∃ index, m index state world) piece post :=
  fun state world ⟨index, holds⟩ => ensures index state world holds

theorem runFrom_attempt (piece : Piece W σ α) (state : σ) (world : W) :
    runFrom (attempt piece : Piece W σ (Except Failure α)) state world =
      match runFrom piece state world with
      | ((.ok value, state), world) => ((.ok (.ok value), state), world)
      | ((.error (.failure cause), state), world) => ((.ok (.error cause), state), world)
      | ((.error (.panic cause), state), world) => ((.error (.panic cause), state), world) := by
  have taken (next : Except Stop α → StateT σ (StateM W) (Except Stop (Except Failure α))) :
      runFrom (ExceptT.mk (piece.run >>= next)) state world =
        next (runFrom piece state world).1.1 (runFrom piece state world).1.2
          (runFrom piece state world).2 := rfl
  unfold attempt
  rw [taken]
  generalize runFrom piece state world = ended
  rcases ended with ⟨⟨(_ | _) | value, after⟩, left⟩
  · rfl
  · rfl
  · rfl

/-- A failure becomes a result, a panic remains one. -/
theorem attempt_ensures {fail' : Stop → σ → W → Prop} (ensures : Ensures fail pre piece post)
    (panics : ∀ cause state world, fail (.panic cause) state world →
      fail' (.panic cause) state world) :
    Ensures fail' pre (attempt piece : Piece W σ (Except Failure α)) fun outcome state world =>
      match outcome with
      | .ok value => post value state world
      | .error cause => fail (.failure cause) state world := by
  intro state world holds
  have ends := ensures state world holds
  rw [runFrom_attempt]
  generalize runFrom piece state world = ended at ends
  rcases ended with ⟨⟨(_ | cause) | value, after⟩, left⟩
  · exact ends
  · exact panics cause after left ends
  · exact ends

theorem attempt_to {value : α} {m : σ → W → Prop}
    (ensures : Ensures (fun _ _ _ => False) pre piece fun result state world =>
      result = value ∧ m state world) :
    Ensures fail pre (attempt piece : Piece W σ (Except Failure α)) fun outcome state world =>
      outcome = .ok value ∧ m state world := by
  intro state world holds
  have ends := ensures state world holds
  rw [runFrom_attempt]
  generalize runFrom piece state world = ended at ends
  rcases ended with ⟨⟨_ | result, after⟩, left⟩
  · exact ends.elim
  · obtain ⟨rfl, holds⟩ := ends
    exact ⟨rfl, holds⟩

end Rules

end StoreBench.Run
