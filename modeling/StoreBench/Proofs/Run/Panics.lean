import StoreBench.Proofs.Run.FirstFailure

/-! Panics of the engine.

A worker says nothing any more after a call at which the engine panicked.  On a thread, that is a
failure of the run like any other, and the engine is closed; on the calling thread, the panic is
that of the run, and the engine stays open.
-/

namespace StoreBench.Run

open StoreBench.Engine (Answer Call Exchange Reply)
open StoreBench.Latency (Attendance Emission Hub Summary)

variable {W α : Type} {host : Host (StateM W)} {record : W → List Exchange}
  {settings : Settings} {prepared : Prepared} {shared : Shared} {world : W} {name : String}
  {ready : W → Prop}

/-- The engine never panicked, or only at the last call, which ended all. -/
inductive LastWord : List Exchange → Except Stop α → Prop where
  | calm {made : List Exchange} (result : Except Stop α) (calm : Calm (fun _ _ => False) made) :
      LastWord made result
  | panicked {made : List Exchange} {exchange : Exchange} {reason : String}
      (calm : Calm (fun _ _ => False) made) (panics : exchange.answer.reply = .panic reason) :
      LastWord (made ++ [exchange]) (.error (.panic (.engine reason)))

namespace LastWord

variable {made more : List Exchange} {result : Except Stop α}

theorem silent (result : Except Stop α) : LastWord [] result := .calm result (.nil _)

theorem stop {β : Type} {stop : Stop} (last : LastWord made (.error stop : Except Stop α)) :
    LastWord made (.error stop : Except Stop β) := by
  cases last with
  | calm _ calm => exact .calm _ calm
  | panicked calm panics => exact .panicked calm panics

theorem append (calm : Calm (fun _ _ => False) made) (last : LastWord more result) :
    LastWord (made ++ more) result := by
  cases last with
  | calm _ others => exact .calm _ (calm.append others)
  | panicked others panics =>
      rw [← List.append_assoc]
      exact .panicked (calm.append others) panics

theorem panic {exchange : Exchange} {reason : String} (last : LastWord made result)
    (member : exchange ∈ made) (panics : exchange.answer.reply = .panic reason) :
    result = .error (.panic (.engine reason)) ∧ made.getLast? = some exchange := by
  cases last with
  | calm _ calm => exact (calm exchange member reason panics).elim fun _ => False.elim
  | panicked calm others =>
      rcases List.mem_append.mp member with early | late
      · exact (calm exchange early reason panics).elim fun _ => False.elim
      · obtain rfl := List.mem_singleton.mp late
        rw [panics] at others
        cases others
        exact ⟨rfl, by simp⟩

end LastWord

/-- What the turn of a single worker makes of a run: a panic is that of the run. -/
def Turn.outcome (turn : Turn) (stopped : Bool) (summaries : List Summary) :
    Except Stop (List Summary) :=
  match turn.result with
  | .error (.panic cause) => .error (.panic cause)
  | _ => (outcomeOf turn.failure? stopped summaries).mapError .failure

/-- What is between opening and closing the engine, if a single worker runs on the calling
thread. -/
def DecidedAlone (prepared : Prepared) (made : List Exchange)
    (result : Except Stop (List Summary)) (after : Shared) : Prop :=
  (∃ slot ∈ prepared.plan.slots prepared.settings, ∃ stop, result = .error stop ∧
    Unmade prepared slot stop ∧ ∀ exchange ∈ made, exchange.aside = true) ∨
  ∃ (opening : List Exchange) (turn : Turn), made = opening ++ turn.said ∧
    (∀ exchange ∈ opening, exchange.aside = true) ∧ turn.worker.number = 0 ∧
    LastWord turn.said turn.result ∧ ∃ summaries, result = turn.outcome after.stopped summaries

theorem DecidedAlone.extend {earlier made : List Exchange} {result : Except Stop (List Summary)}
    {after : Shared} (decided : DecidedAlone prepared made result after)
    (aside : ∀ exchange ∈ earlier, exchange.aside = true) :
    DecidedAlone prepared (earlier ++ made) result after := by
  rcases decided with ⟨slot, member, stop, ended, unmade, apart⟩ |
    ⟨opening, turn, rfl, apart, rest⟩
  · exact .inl ⟨slot, member, stop, ended, unmade, List.forall_mem_append.mpr ⟨aside, apart⟩⟩
  · exact .inr ⟨earlier ++ opening, turn, (List.append_assoc ..).symm,
      List.forall_mem_append.mpr ⟨aside, apart⟩, rest⟩

theorem Tells.and {σ : Type} {piece : Piece W σ α} {state : σ}
    {post others : List Exchange → Except Stop α → σ → W → Prop}
    (tells : Tells record piece state world post) (also : Tells record piece state world others) :
    Tells record piece state world fun made result after left =>
      post made result after left ∧ others made result after left := by
  obtain ⟨made, said, holds⟩ := tells
  obtain ⟨same, told, more⟩ := also
  obtain rfl := List.append_cancel_left (said.symm.trans told)
  exact ⟨made, said, holds, more⟩

/-- What is said by a run whose engine opened, and what comes of it, by what is between: only a
panic leaves the engine open. -/
inductive Closes (opening : Exchange) (middle : List Exchange) :
    Except Stop (List Summary) → List Exchange → Except Stop (List Summary) → Prop where
  | stuck {ended : Except Stop (List Summary)} (cause : Panic)
      (panics : ended = .error (.panic cause)) :
      Closes opening middle ended (opening :: middle) ended
  | closed {ended : Except Stop (List Summary)} (outcome : Except Failure (List Summary))
      (closing : Answer) (settles : ended = outcome.mapError .failure) :
      Closes opening middle ended (opening :: (middle ++ [⟨.close, closing⟩]))
        (settled outcome closing.reply)

namespace Closes

variable {opening : Exchange} {middle made : List Exchange} {result : Except Stop (List Summary)}

theorem of_panic {cause : Panic}
    (closes : Closes opening middle (.error (.panic cause)) made result) :
    made = opening :: middle ∧ result = .error (.panic cause) := by
  cases closes with
  | stuck => exact ⟨rfl, rfl⟩
  | closed outcome closing settles => cases outcome <;> cases settles

end Closes

theorem Unmade.closes {clock : Nat} {slot : Slot} {stop : Stop} {opened : Answer}
    {middle made : List Exchange} {result : Except Stop (List Summary)}
    (accepted : prepare settings clock = .ok prepared)
    (member : slot ∈ prepared.plan.slots settings) (unmade : Unmade prepared slot stop)
    (apart : ∀ exchange ∈ middle, exchange.aside = true)
    (closes : Closes ⟨.openStore settings.folder, opened⟩ middle (.error stop) made result) :
    wordLimit / 2 ≤ settings.keySize + settings.valueSize ∧
      ∃ cause, result = .error (.panic cause) ∧ (cause = .overflow ∨ cause = .allocation) ∧
        ∀ exchange ∈ made, exchange.aside = true := by
  obtain ⟨large, cause, rfl, reason⟩ := unmade.cramped accepted member
  obtain ⟨rfl, ended⟩ := closes.of_panic
  exact ⟨large, cause, ended, reason, by simpa [Exchange.aside] using apart⟩

end StoreBench.Run
