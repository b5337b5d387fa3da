import StoreBench.Proofs.Run.Passing

/-! All that a worker says, from the making of its context to the end of it. -/

namespace StoreBench.Run

open StoreBench.Engine (Answer Call Exchange elapsed)

variable {W : Type} {stage : Stage (StateM W)} {settings : Settings} {r : Reckoning settings}
  {context : Nat} {desk : Desk} {said : List Exchange}

theorem granted_ok {call : Call} {answer : Answer} {pair : Pair}
    (replied : answer.reply = .ok pair) :
    Exchange.granted ⟨call, answer⟩ = true := by
  simp [Exchange.granted, replied]

theorem granted_error {call : Call} {answer : Answer} {cause : EngineError}
    (replied : answer.reply = .error cause) : Exchange.granted ⟨call, answer⟩ = false := by
  simp [Exchange.granted, replied]

theorem applyOptions_yields {excused : List Exchange → Panic → Prop} (options : List String) :
    Yields stage.Heard excused (applyOptions stage context options) desk
      fun made outcome after => after = desk.answered made ∧
        ((outcome = .ok () ∧
          Scripted Exchange.granted (options.map (Call.contextOption context)) made true) ∨
        ∃ cause offered disposed, outcome = .error cause ∧
          made = offered ++ [⟨.dispose context, disposed⟩] ∧
          Scripted Exchange.granted (options.map (Call.contextOption context)) offered false) := by
  induction options generalizing desk excused with
  | nil => exact Yields.pure ⟨rfl, .inl ⟨rfl, .complete⟩⟩
  | cons option options ih =>
      unfold applyOptions
      apply Resumes.start
      apply Resumes.ask
      · intro answer pair replied
        apply (@ih (desk.answered [⟨.contextOption context option, answer⟩]) _).mono
        rintro more outcome after ⟨rfl, ⟨rfl, accepted⟩ | ⟨cause, offered, disposed, rfl, rfl, cut⟩⟩
        · exact ⟨(Desk.answered_append ..).symm, .inl ⟨rfl, .said (granted_ok replied) accepted⟩⟩
        · exact ⟨(Desk.answered_append ..).symm,
            .inr ⟨cause, _, disposed, rfl, rfl, .said (granted_ok replied) cut⟩⟩
      · intro answer cause replied
        have rejected {disposed : Answer} {made : List Exchange}
            (same : made = [⟨.contextOption context option, answer⟩] ++
              [⟨.dispose context, disposed⟩]) :
            Resumes stage excused desk made (throw (.failure (.engine cause)))
              fun made outcome after => after = desk.answered made ∧
                ((outcome = .ok () ∧ Scripted Exchange.granted
                    ((option :: options).map (Call.contextOption context)) made true) ∨
                ∃ cause offered disposed, outcome = .error cause ∧
                  made = offered ++ [⟨.dispose context, disposed⟩] ∧
                  Scripted Exchange.granted
                    ((option :: options).map (Call.contextOption context)) offered false) :=
          Resumes.fails ⟨rfl, .inr ⟨_, _, disposed, rfl, same, .cut (granted_error replied)⟩⟩
        apply Resumes.ask
        · intro disposed pair _
          exact rejected rfl
        · intro disposed cause _
          exact rejected rfl

/-- The desk at the end of the work of a worker: a failure stops the run. -/
def Desk.ended (desk : Desk) (ok : Bool) : Desk :=
  { desk with shared := { desk.shared with stopped := desk.shared.stopped || !ok } }

/-- A worker went through its passes on a context of its own.  It was halted only if the run was
stopped before the end of them. -/
structure Fulfilled (r : Reckoning settings) (context : Nat) (rounds : List (List Segment))
    (verdict : Verdict) (made : List Exchange) (ok : Bool) (before after : Desk) : Prop where
  said : Conversation settings context before.worker.kinds.toList before.worker.share rounds made
    verdict
  worked : Worked r rounds.flatten made before after
  failed : verdict = .failed ↔ ok = false
  halted : verdict = .halted →
    (before.shared.stopped || made.dropLast.any (·.answer.interrupted)) = true

theorem Enduring.opened {made : List Exchange} {middle : Desk}
    (enduring : Enduring r said 0 desk) (worked : Worked r [] made desk middle) :
    Enduring r (said ++ made) 0 middle where
  afforded := worked.afforded enduring.afforded
  listed := worked.kinds ▸ enduring.listed
  idle workless := by
    unfold Desk.Workless at workless
    rw [worked.kinds, worked.share] at workless
    exact enduring.idle workless
  spoken := .inr (Nat.zero_le _)
  wanted := .inr (Nat.zero_le _)

theorem onContext_yields (enduring : Enduring r said 0 desk) :
    Yields stage.Heard (since (Strain r) said) (onContext stage settings context) desk
      fun made outcome after => ∃ rounds verdict,
        Fulfilled r context rounds verdict made outcome.isOk desk after := by
  unfold onContext
  apply Resumes.start
  apply Resumes.demand
  · intro opened pair opens
    apply (applyOptions_yields settings.engineOptions).bindFrom
    · rintro made cause after ⟨rfl, ⟨impossible, _⟩ | ⟨_, offered, disposed, _, rfl, options⟩⟩
      · cases impossible
      · refine ⟨[], .failed, .rejected opens options, ?_, by simp, by simp⟩
        rw [← Desk.answered_append]
        exact .asked r _ desk
    · rintro offered done middle ⟨rfl, ⟨_, options⟩ | ⟨_, _, _, impossible, _⟩⟩
      · have begun : Worked r [] (⟨.newContext context, opened⟩ :: offered) desk
            ((desk.answered [⟨.newContext context, opened⟩]).answered offered) := by
          rw [← Desk.answered_append]
          exact .asked r _ desk
        apply Yields.bind
        apply Yields.attempt
        have passes := @passesFrom_yields _ stage _ _ context _ _ _ wordLimit
          (enduring.opened begun) (Nat.le_add_left _ _)
        rw [← since_append] at passes
        apply Yields.mono passes
        rintro made outcome after ⟨rounds, verdict, split, work, worked, explains⟩
        have closed (disposed : Answer) : Fulfilled r context rounds verdict
            (⟨.newContext context, opened⟩ ::
              (offered ++ (made ++ [⟨.dispose context, disposed⟩]))) outcome.isOk desk
            (after.answered [⟨.dispose context, disposed⟩]) := by
          have before := begun.trans worked
          have all := before.trans (.asked r [⟨.dispose context, disposed⟩] after)
          simp only [List.nil_append, List.append_nil, List.cons_append, List.append_assoc] at all
          refine ⟨?_, all, explains.failed, fun halted => ?_⟩
          · rw [split]
            exact .worked opens options work
          · rw [← List.append_assoc, ← List.cons_append, List.dropLast_concat,
              ← List.cons_append, ← before.stopped]
            exact explains.halted halted
        apply Resumes.start
        apply Resumes.ask
        · intro disposed pair _
          exact Yields.settle ⟨rounds, verdict, closed disposed⟩
        · intro disposed cause _
          exact Yields.settle ⟨rounds, verdict, closed disposed⟩
      · cases impossible
  · intro opened cause refuses
    exact ⟨[], .failed, .refused refuses, .asked r _ desk, by simp, by simp⟩

theorem fulfil_yields (enduring : Enduring r said 0 desk) :
    Yields stage.Heard (since (Strain r) said) (fulfil stage settings context) desk
      fun made outcome after => ∃ rounds verdict left, after = left.ended outcome.isOk ∧
        Fulfilled r context rounds verdict made outcome.isOk desk left := by
  unfold fulfil
  apply Yields.bind
  apply Yields.attempt
  apply (onContext_yields enduring).mono
  rintro made outcome left ⟨rounds, verdict, fulfilled⟩
  cases outcome with
  | ok done =>
      apply Yields.pure
      rw [List.append_nil]
      refine ⟨rounds, verdict, left, ?_, fulfilled⟩
      simp [Desk.ended]
  | error cause =>
      apply Yields.bind
      apply Yields.modifies
      apply Yields.settle
      rw [List.append_nil, List.append_nil]
      refine ⟨rounds, verdict, left, ?_, fulfilled⟩
      simp [Desk.ended]

end StoreBench.Run
