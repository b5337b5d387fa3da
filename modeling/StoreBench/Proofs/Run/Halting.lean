import StoreBench.Proofs.Run.Agreement
import StoreBench.Proofs.Run.Telling

/-! Where a worker stops.

The flag that stops the run is looked at before every kind of a pass.  Once it is set, the worker
finishes the kind that it is at, if it is at one, and calls on no other.
-/

namespace StoreBench

/-- An interrupt arrived during the call. -/
def Engine.Exchange.interrupted (exchange : Exchange) : Bool :=
  exchange.answer.interrupted

namespace Run

open StoreBench.Engine (Answer Call Exchange)

variable {W α : Type} {settings : Settings} {context share : Nat}

/-- What a worker says kind after kind, if the run is stopped or not; whether all these kinds were
whole.  A stopped run has no further kinds. -/
inductive Sweeps (settings : Settings) (context share : Nat) :
    Bool → List (List Exchange) → Bool → Prop where
  | rest (stopped : Bool) : Sweeps settings context share stopped [] true
  | broken (made : List Exchange) : Sweeps settings context share false [made] false
  | step {kind : Kind} {brackets : List (List Exchange)} {sweeps : List (List Exchange)}
      {whole : Bool} (run : KindRun settings context kind share brackets true)
      (others : Sweeps settings context share (brackets.flatten.any Exchange.interrupted) sweeps
        whole) : Sweeps settings context share false (brackets.flatten :: sweeps) whole

theorem Sweeps.append {stopped whole : Bool} {first sweeps : List (List Exchange)}
    (begun : Sweeps settings context share stopped first true)
    (others : Sweeps settings context share
      (stopped || first.flatten.any Exchange.interrupted) sweeps whole) :
    Sweeps settings context share stopped (first ++ sweeps) whole := by
  generalize all : true = every at begun
  induction begun with
  | rest stopped => simpa using others
  | broken made => cases all
  | step run _ ih =>
      refine .step run (ih ?_ all)
      rw [List.flatten_cons, List.any_append] at others
      simpa using others

theorem Sweeps.eq_nil {whole : Bool} {sweeps : List (List Exchange)}
    (stopped : Sweeps settings context share true sweeps whole) : sweeps = [] := by
  cases stopped
  rfl

/-- Some kinds were said from this desk on; if all were whole, a desk like this one is left. -/
def Swept (r : Reckoning settings) (context : Nat) (desk : Desk) (made : List Exchange)
    (whole : Prop) (after : Desk) : Prop :=
  ∃ sweeps all, made = sweeps.flatten ∧
    Sweeps settings context desk.worker.share desk.shared.stopped sweeps all ∧
      (whole → all = true ∧ ∃ segments, Worked r segments made desk after)

namespace Swept

variable {r : Reckoning settings} {desk middle after : Desk} {made more : List Exchange}
  {whole : Prop}

theorem nothing (r : Reckoning settings) (context : Nat) (desk : Desk) (whole : Prop) :
    Swept r context desk [] whole desk :=
  ⟨[], true, rfl, .rest _, fun _ => ⟨rfl, [], .asked r [] desk⟩⟩

theorem append (first : Swept r context desk made True middle)
    (second : Swept r context middle more whole after) :
    Swept r context desk (made ++ more) whole after := by
  obtain ⟨sweeps, all, rfl, begun, leads⟩ := first
  obtain ⟨rfl, _, worked⟩ := leads trivial
  obtain ⟨others, all, rfl, rest, further⟩ := second
  rw [worked.share, worked.stopped] at rest
  refine ⟨sweeps ++ others, all, List.flatten_append.symm, begun.append rest, fun ended => ?_⟩
  obtain ⟨rfl, _, later⟩ := further ended
  exact ⟨rfl, _, worked.trans later⟩

end Swept

section Steps

variable {stage : Stage (StateM W)} {record : W → List Exchange} {r : Reckoning settings}
  {desk : Desk} {said : List Exchange} {world : W}

theorem runKind_tells (heard : stage.Heard record) {kind : Kind} (afforded : Afforded r said desk)
    (mine : desk.worker.kinds.contains kind = true) (listed : kind ∈ r.kinds)
    (running : desk.shared.stopped = false) :
    Tells record (runKind stage settings context kind) desk world fun made result after _ =>
      Swept r context desk made (result = .ok ()) after := by
  apply ((runKind_yields afforded mine listed).tells heard world).mono
  intro made result after _ meets
  unfold Swept
  rw [running]
  rcases result with (cause | cause) | done
  · exact ⟨[made], false, by simp, .broken made, by simp⟩
  · exact ⟨[made], false, by simp, .broken made, by simp⟩
  · obtain ⟨_, brackets, said, run, worked⟩ := meets
    rw [Segment.made_map] at said
    subst said
    exact ⟨[brackets.flatten], true, by simp, .step run (.rest _), fun _ => ⟨rfl, _, worked⟩⟩

theorem kindsOfPass_tells (heard : stage.Heard record) {kinds : List Kind}
    (afforded : Afforded r said desk)
    (mine : ∀ kind ∈ kinds, desk.worker.kinds.contains kind = true)
    (listed : ∀ kind ∈ kinds, kind ∈ r.kinds) :
    Tells record (kindsOfPass stage settings context kinds) desk world fun made result after _ =>
      Swept r context desk made (∃ all, result = .ok all) after := by
  induction kinds generalizing desk said world with
  | nil => exact Tells.pure (.nothing ..)
  | cons kind kinds ih =>
      unfold kindsOfPass
      apply Tells.reads
      split
      · exact Tells.pure (.nothing ..)
      · next running =>
        apply (runKind_tells heard afforded (mine kind List.mem_cons_self)
          (listed kind List.mem_cons_self) (Bool.not_eq_true _ ▸ running)).bindFrom
        · rintro made stop after _ ⟨sweeps, all, said, sweeping, _⟩
          exact ⟨sweeps, all, said, sweeping, by simp⟩
        · rintro made done middle _ ⟨sweeps, all, said, sweeping, leads⟩
          obtain ⟨rfl, _, worked⟩ := leads rfl
          have later : ∀ kind ∈ kinds, middle.worker.kinds.contains kind = true := by
            intro kind member
            rw [worked.kinds]
            exact mine kind (List.mem_cons_of_mem _ member)
          apply (ih (worked.afforded afforded) later
            fun kind member => listed kind (List.mem_cons_of_mem _ member)).mono
          intro more result after _ swept
          exact Swept.append ⟨sweeps, true, said, sweeping, fun _ => ⟨rfl, _, worked⟩⟩ swept

theorem passesFrom_tells (heard : stage.Heard record) (afforded : Afforded r said desk)
    (listed : ∀ kind ∈ desk.worker.kinds.toList, kind ∈ r.kinds) (passes room : Nat) :
    Tells record (passesFrom stage settings context passes room) desk world
      fun made result after _ => Swept r context desk made (result = .ok ()) after := by
  induction room generalizing desk said world passes with
  | zero => exact Tells.throw (.nothing ..)
  | succ room ih =>
      have again {middle : Desk} {left : W} {made : List Exchange} {segments : List Segment}
          (worked : Worked r segments made desk middle)
          (swept : Swept r context desk made True middle) :
          Tells record (do
            if (← get).shared.stopped then pure ()
            else passesFrom stage settings context (passes + 1) room) middle left
            fun more result after _ =>
              Swept r context desk (made ++ more) (result = .ok ()) after := by
        apply Tells.reads
        split
        · exact Tells.pure (swept.append (.nothing ..))
        · apply (ih (worked.afforded afforded) (worked.kinds ▸ listed) (passes + 1)).mono
          exact fun more result after _ rest => swept.append rest
      unfold passesFrom
      apply Tells.reads
      split
      · have mine : ∀ kind ∈ desk.worker.kinds.toList, desk.worker.kinds.contains kind = true :=
          fun kind => (KindSet.mem_toList _ kind).mp
        apply Tells.reads
        apply (kindsOfPass_tells heard afforded mine listed).bindFrom
        · rintro made stop after _ ⟨sweeps, all, said, sweeping, _⟩
          exact ⟨sweeps, all, said, sweeping, by simp⟩
        · rintro made every middle left ⟨sweeps, all, said, sweeping, leads⟩
          obtain ⟨rfl, segments, worked⟩ := leads ⟨every, rfl⟩
          have swept {after : Desk} (worked : Worked r segments made desk after) :
              Swept r context desk made True after :=
            ⟨sweeps, true, said, sweeping, fun _ => ⟨rfl, _, worked⟩⟩
          cases every with
          | false => exact Tells.pure ((swept worked).append (.nothing ..))
          | true =>
              rw [if_pos rfl]
              dsimp only
              split
              · apply Tells.bind
                apply Tells.modifies
                exact again (worked.finish _) (swept (worked.finish _))
              · exact again worked (swept worked)
      · exact Tells.pure (.nothing ..)

theorem applyOptions_tells (heard : stage.Heard record) (options : List String) :
    Tells record (applyOptions stage context options) desk world fun made _ after _ =>
      (∀ exchange ∈ made, exchange.aside = true) ∧ after = desk.answered made := by
  induction options generalizing desk world with
  | nil => exact Tells.pure ⟨by simp, rfl⟩
  | cons option options ih =>
      unfold applyOptions
      apply (ask_tells heard _).bindFrom
      · rintro made stop after left ⟨answer, rfl, rfl⟩
        exact ⟨by simp [Exchange.aside], rfl⟩
      rintro made reply middle left ⟨answer, rfl, rfl⟩
      cases reply with
      | ok pair =>
          apply ih.mono
          rintro more result after _ ⟨apart, rfl⟩
          refine ⟨?_, (Desk.answered_append ..).symm⟩
          rw [List.singleton_append]
          exact List.forall_mem_cons.mpr ⟨rfl, apart⟩
      | error cause =>
          apply (ask_tells heard _).bindFrom
          · rintro more stop after _ ⟨disposed, rfl, rfl⟩
            exact ⟨by simp [Exchange.aside], (Desk.answered_append ..).symm⟩
          · rintro more reply after _ ⟨disposed, rfl, rfl⟩
            exact Tells.throw ⟨by simp [Exchange.aside], (Desk.answered_append ..).symm⟩

/-- A worker says nothing but its kinds between what it says to make its context and to dispose of
it. -/
structure Voiced (settings : Settings) (context : Nat) (desk : Desk) (made : List Exchange)
    (well : Prop) (after : Desk) : Prop where
  spoken : ∃ opening sweeps closing whole, made = opening ++ (sweeps.flatten ++ closing) ∧
    (∀ exchange ∈ opening ++ closing, exchange.aside = true) ∧
    Sweeps settings context desk.worker.share
      (desk.shared.stopped || opening.any Exchange.interrupted) sweeps whole ∧
    (well → whole = true)
  stopped : well → after.shared.stopped = (desk.shared.stopped || made.any Exchange.interrupted)

theorem Voiced.aside {made : List Exchange} {well : Prop} {after : Desk}
    (apart : ∀ exchange ∈ made, exchange.aside = true) (early : ¬ well) :
    Voiced settings context desk made well after where
  spoken := ⟨made, [], [], true, by simp, by simpa using apart, .rest _, fun _ => rfl⟩
  stopped ended := absurd ended early

theorem onContext_tells (heard : stage.Heard record) (paired : desk.Paired) :
    Tells record (onContext stage settings context) desk world fun made result after _ =>
      Voiced settings context desk made (result = .ok ()) after := by
  unfold onContext
  apply (demand_tells heard _).bindFrom
  · rintro made stop after left ⟨opened, rfl, rfl⟩
    exact .aside (by simp [Exchange.aside]) (by simp)
  rintro made pair middle left ⟨opened, rfl, rfl⟩
  apply (applyOptions_tells heard _).bindFrom
  · rintro offered stop after left ⟨apart, rfl⟩
    exact .aside (List.forall_mem_cons.mpr ⟨rfl, apart⟩) (by simp)
  rintro offered done middle left ⟨apart, rfl⟩
  rw [← Desk.answered_append]
  have outside : ∀ exchange ∈ [(⟨.newContext context, opened⟩ : Exchange)] ++ offered,
      exchange.aside = true := List.forall_mem_cons.mpr ⟨rfl, apart⟩
  simp only [← List.append_assoc]
  generalize [(⟨.newContext context, opened⟩ : Exchange)] ++ offered = opening at outside ⊢
  have opens := Worked.asked (desk.reckoning settings) opening desk
  apply Tells.bind
  apply Tells.attempt
  apply (passesFrom_tells heard (opens.afforded (desk.afforded settings paired))
    (opens.kinds ▸ fun _ => id) 0 wordLimit).mono
  rintro made result after left ⟨sweeps, all, rfl, sweeping, leads⟩
  rw [opens.share, opens.stopped] at sweeping
  have closes (disposed : Answer) {ended : Except Stop Unit}
      (sound : ended = .ok () → result = .ok ()) :
      Voiced settings context desk (opening ++ (sweeps.flatten ++ [⟨.dispose context, disposed⟩]))
        (ended = .ok ()) (after.answered [⟨.dispose context, disposed⟩]) := by
    refine ⟨⟨opening, sweeps, _, all, rfl, ?_, sweeping, fun well => (leads (sound well)).1⟩,
      fun well => ?_⟩
    · exact List.forall_mem_append.mpr ⟨outside, List.forall_mem_singleton.mpr rfl⟩
    · obtain ⟨_, segments, worked⟩ := leads (sound well)
      exact ((opens.trans worked).trans (.asked _ [⟨.dispose context, disposed⟩] after)).stopped.trans
        (by rw [List.append_assoc]; rfl)
  have disposes {outcome : Except Failure Unit} (same : outcome.mapError .failure = result) :
      Tells record (do
        let _ ← ask stage (.dispose context)
        settle outcome) after left fun more ended last _ =>
          Voiced settings context desk (opening ++ (sweeps.flatten ++ more)) (ended = .ok ())
            last := by
    apply (ask_tells heard _).bindFrom
    · rintro made stop last _ ⟨disposed, rfl, rfl⟩
      exact closes disposed (by simp)
    · rintro made reply last _ ⟨disposed, rfl, rfl⟩
      apply Tells.settle
      rw [List.append_nil]
      exact closes disposed fun well => same.symm.trans well
  rcases result with (cause | cause) | done
  · simpa only [List.append_assoc] using @disposes (.error cause) rfl
  · refine ⟨⟨opening, sweeps, [], all, by simp, ?_, sweeping, by simp⟩, by simp⟩
    rw [List.append_nil]
    exact outside
  · simpa only [List.append_assoc] using @disposes (.ok done) rfl

/-- Whatever becomes of a worker, it calls on a kind only while the run is not stopped; a failure of
it stops the run. -/
theorem fulfil_tells (heard : stage.Heard record) (paired : desk.Paired) :
    Tells record (fulfil stage settings context) desk world fun made result after _ =>
      Voiced settings context desk made (result = .ok ()) after ∧
        ∀ cause, result = .error (.failure cause) → after.shared.stopped = true := by
  unfold fulfil
  apply Tells.bind
  apply Tells.attempt
  apply (onContext_tells heard paired).mono
  rintro made result after left voiced
  rcases result with (cause | cause) | done
  · apply Tells.bind
    apply Tells.modifies
    apply Tells.settle
    rw [List.append_nil, List.append_nil]
    exact ⟨⟨voiced.spoken, fun impossible => by cases impossible⟩, fun _ _ => rfl⟩
  · exact ⟨voiced, by simp⟩
  · apply Tells.pure
    rw [List.append_nil]
    exact ⟨voiced, by simp⟩

end Steps

end Run

end StoreBench
