import StoreBench.Proofs.Run.Effects

/-! What work says in any case.

A record of the world goes on by what was said also if the work panics.  The rules below describe
what is said together with the end of the work, from a given state and world.
-/

namespace StoreBench.Run

open StoreBench.Engine (Answer Call Exchange)

variable {W σ α β : Type}

/-- From this state and world, the record goes on by something that is said, and the work ends as
described. -/
def Tells (record : W → List Exchange) (piece : Piece W σ α) (state : σ) (world : W)
    (post : List Exchange → Except Stop α → σ → W → Prop) : Prop :=
  ∃ made, record (runFrom piece state world).2 = record world ++ made ∧
    post made (runFrom piece state world).1.1 (runFrom piece state world).1.2
      (runFrom piece state world).2

namespace Tells

variable {record : W → List Exchange} {piece : Piece W σ α} {state : σ} {world : W}
  {post : List Exchange → Except Stop α → σ → W → Prop}

theorem mono {post' : List Exchange → Except Stop α → σ → W → Prop}
    (tells : Tells record piece state world post)
    (weaker : ∀ made result after left, post made result after left →
      post' made result after left) : Tells record piece state world post' := by
  obtain ⟨made, heard, ends⟩ := tells
  exact ⟨made, heard, weaker _ _ _ _ ends⟩

/-- The record that is left is the record before with what was said. -/
theorem recorded (tells : Tells record piece state world post) :
    Tells record piece state world fun made result after left =>
      post made result after left ∧ record left = record world ++ made := by
  obtain ⟨made, heard, ends⟩ := tells
  exact ⟨made, heard, ends, heard⟩

/-- The end is the one that the work comes to. -/
theorem ended (tells : Tells record piece state world post) :
    Tells record piece state world fun made result after left =>
      post made result after left ∧ runFrom piece state world = ((result, after), left) := by
  obtain ⟨made, heard, ends⟩ := tells
  exact ⟨made, heard, ends, rfl⟩

/-- Work whose end is known. -/
theorem known {ended : (Except Stop α × σ) × W} {made : List Exchange}
    (runs : runFrom piece state world = ended) (heard : record ended.2 = record world ++ made)
    (holds : post made ended.1.1 ended.1.2 ended.2) : Tells record piece state world post := by
  unfold Tells
  rw [runs]
  exact ⟨made, heard, holds⟩

theorem still {ended : (Except Stop α × σ) × W} (runs : runFrom piece state world = ended)
    (silent : record ended.2 = record world) (holds : post [] ended.1.1 ended.1.2 ended.2) :
    Tells record piece state world post :=
  known runs (silent.trans (List.append_nil _).symm) holds

theorem pure {value : α} (holds : post [] (.ok value) state world) :
    Tells record (Pure.pure value) state world post :=
  @still _ _ _ _ _ _ _ _ ((.ok value, state), world) rfl rfl holds

theorem throw {stop : Stop} (holds : post [] (.error stop) state world) :
    Tells record (MonadExcept.throw stop) state world post :=
  @still _ _ _ _ _ _ _ _ ((.error stop, state), world) rfl rfl holds

theorem modifies {change : σ → σ} {post : List Exchange → Except Stop PUnit → σ → W → Prop}
    (holds : post [] (.ok ⟨⟩) (change state) world) :
    Tells record (modify change) state world post :=
  @still _ _ _ _ _ _ _ _ ((.ok ⟨⟩, change state), world) rfl rfl holds

theorem reads {next : σ → Piece W σ α} (rest : Tells record (next state) state world post) :
    Tells record (MonadState.get >>= next) state world post := rest

theorem lift {step : StateM W α} (silent : record (step world).2 = record world)
    (holds : post [] (.ok (step world).1) state (step world).2) :
    Tells record (liftM step : Piece W σ α) state world post :=
  @still _ _ _ _ _ _ _ _ ((.ok (step world).1, state), (step world).2) rfl silent holds

theorem bind {next : α → Piece W σ β} {post : List Exchange → Except Stop β → σ → W → Prop}
    (first : Tells record piece state world fun made result after left =>
      match result with
      | .ok value => Tells record (next value) after left fun more => post (made ++ more)
      | .error stop => post made (.error stop) after left) :
    Tells record (piece >>= next) state world post := by
  obtain ⟨made, heard, ends⟩ := first
  unfold Tells
  rw [runFrom_bind]
  generalize runFrom piece state world = ended at heard ends
  rcases ended with ⟨⟨stop | value, after⟩, left⟩
  · exact ⟨made, heard, ends⟩
  · obtain ⟨more, further, closes⟩ := ends
    refine ⟨made ++ more, ?_, closes⟩
    rw [← List.append_assoc, ← heard]
    exact further

/-- The rest of the work may be told what was said before. -/
theorem bindFrom {next : α → Piece W σ β} {m : List Exchange → Except Stop α → σ → W → Prop}
    {post : List Exchange → Except Stop β → σ → W → Prop}
    (first : Tells record piece state world m)
    (early : ∀ made stop after left, m made (.error stop) after left →
      post made (.error stop) after left)
    (rest : ∀ made value after left, m made (.ok value) after left →
      Tells record (next value) after left fun more => post (made ++ more)) :
    Tells record (piece >>= next) state world post := by
  apply bind
  apply first.mono
  intro made result after left holds
  cases result with
  | ok value => exact rest made value after left holds
  | error stop => exact early made stop after left holds

theorem attempt {post : List Exchange → Except Stop (Except Failure α) → σ → W → Prop}
    (tells : Tells record piece state world fun made result after left =>
      match result with
      | .ok value => post made (.ok (.ok value)) after left
      | .error (.failure cause) => post made (.ok (.error cause)) after left
      | .error (.panic cause) => post made (.error (.panic cause)) after left) :
    Tells record (Run.attempt piece) state world post := by
  obtain ⟨made, heard, ends⟩ := tells
  unfold Tells
  rw [runFrom_attempt]
  generalize runFrom piece state world = ended at heard ends
  rcases ended with ⟨⟨(cause | cause) | value, after⟩, left⟩
  · exact ⟨made, heard, ends⟩
  · exact ⟨made, heard, ends⟩
  · exact ⟨made, heard, ends⟩

theorem settle {outcome : Except Failure α}
    (holds : post [] (outcome.mapError .failure) state world) :
    Tells record (Run.settle outcome) state world post := by
  cases outcome with
  | ok value => exact pure holds
  | error cause => exact throw holds

end Tells

/-- What is said is said whatever the end is. -/
theorem Yields.tells {faithful : (W → List Exchange) → Prop}
    {excused : List Exchange → Panic → Prop} {piece : Piece W σ α} {state : σ}
    {post : List Exchange → Except Failure α → σ → Prop}
    (yields : Yields faithful excused piece state post) {record : W → List Exchange}
    (hears : faithful record) (world : W) :
    Tells record piece state world fun made result after _ =>
      Meets excused post made (result, after) := by
  obtain ⟨made, heard, meets⟩ := yields world
  exact ⟨made, heard record hears, meets⟩

section Calls

variable {stage : Stage (StateM W)} {record : W → List Exchange} {desk : Desk} {world : W}

/-- A call is heard even if the engine panics. -/
theorem ask_tells (heard : stage.Heard record) (call : Call) :
    Tells record (ask stage call) desk world fun made _ after _ =>
      ∃ answer, made = [⟨call, answer⟩] ∧ after = desk.answered made := by
  unfold Tells
  rw [runFrom_ask]
  exact ⟨_, heard.engine call world, _, rfl, rfl⟩

theorem demand_tells (heard : stage.Heard record) (call : Call) :
    Tells record (demand stage call) desk world fun made _ after _ =>
      ∃ answer, made = [⟨call, answer⟩] ∧ after = desk.answered made := by
  unfold demand
  apply (ask_tells heard call).bindFrom
  · exact fun _ _ _ _ told => told
  · rintro made reply after left ⟨answer, rfl, rfl⟩
    cases reply with
    | ok pair => exact Tells.pure ⟨answer, rfl, rfl⟩
    | error cause => exact Tells.throw ⟨answer, rfl, rfl⟩

end Calls

end StoreBench.Run
