import StoreBench.Proofs.Keys.Stretches
import StoreBench.Proofs.Latency.Totals
import StoreBench.Proofs.Run.Brackets

/-! What the sums of a worker can come to.

The samples of a kind are reckoned from what was said: they are as many as were begun or returned,
together no longer than the calls, and none has more bytes than its pairs, were they all as large as
the largest.  If the engine does not panic, a worker does only where these sums leave their types,
where its pools are larger than any memory, or where it goes through passes without end and says
nothing.
-/

namespace StoreBench

/-- The quadruples of a transaction. -/
def Settings.stride (settings : Settings) (kind : Kind) : Nat :=
  if kind = .batch then settings.batchLength else 1

/-- The pairs that a step of a kind moves: a quadruple, or one. -/
def Kind.moves : Kind → Nat
  | .crud | .batch => 4
  | .set | .get | .delete | .iterate => 1

namespace Engine

/-- The bytes of the pair that was returned. -/
def Answer.volume (answer : Answer) : Nat :=
  match answer.reply with
  | .ok pair => pair.volume
  | _ => 0

/-- The bytes of the largest pair that some calls returned. -/
def largest (made : List Exchange) : Nat :=
  made.foldr (fun exchange bytes => max exchange.answer.volume bytes) 0

@[simp] theorem largest_cons (exchange : Exchange) (made : List Exchange) :
    largest (exchange :: made) = max exchange.answer.volume (largest made) := rfl

@[simp] theorem largest_append (made more : List Exchange) :
    largest (made ++ more) = max (largest made) (largest more) := by
  induction made with
  | nil => exact (Nat.zero_max _).symm
  | cons exchange made ih => rw [List.cons_append, largest_cons, ih, largest_cons, Nat.max_assoc]

theorem largest_ok {call : Call} {answer : Answer} {pair : Pair}
    (replied : answer.reply = .ok pair) : largest [⟨call, answer⟩] = pair.volume := by
  simp [largest, Answer.volume, replied]

theorem one_le_taken {kind : Kind} (counted : kind ≠ .iterate) (context : Nat) (begun : Answer)
    (more : List Exchange) : 1 ≤ taken kind (⟨.begin context kind, begun⟩ :: more) := by
  have begins : Exchange.begins kind ⟨.begin context kind, begun⟩ = true := by
    simp [Exchange.begins]
  rw [taken, if_neg counted, List.countP_cons_of_pos begins]
  exact Nat.le_add_left 1 _

end Engine

namespace Run

open StoreBench.Engine (Answer Call Exchange elapsed largest taken)
open StoreBench.Latency (Tally)

/-- What the sums of some work are reckoned from: the bytes of a pair, the kinds, what there was of
each of them before, whether the numbers of the hub are right, and whether there are passes without
operations and without end. -/
structure Reckoning (settings : Settings) where
  pairSize : Nat
  kinds : List Kind
  base : Kind → Tally
  tended : Prop
  idle : Prop

variable {settings : Settings} {r : Reckoning settings} {kind : Kind} {made more : List Exchange}
  {cause : Panic}

namespace Reckoning

/-- The bytes of the largest pair that was spoken of. -/
def widest (r : Reckoning settings) (made : List Exchange) : Nat :=
  max r.pairSize (largest made)

theorem widest_le_append (r : Reckoning settings) (made more : List Exchange) :
    r.widest made ≤ r.widest (made ++ more) ∧ r.widest more ≤ r.widest (made ++ more) := by
  simp only [widest, Engine.largest_append]
  omega

/-- The bytes that a sample of a kind can have, by what was said. -/
def unit (r : Reckoning settings) (kind : Kind) (made : List Exchange) : Nat :=
  settings.stride kind * (kind.moves * r.widest made)

/-- The greatest sums that the samples of a kind can have, by what was said. -/
def toll (r : Reckoning settings) (kind : Kind) (made : List Exchange) : Tally where
  count := taken kind made
  latency := elapsed made
  squares := elapsed made * elapsed made
  volume := taken kind made * r.unit kind made

theorem toll_append (r : Reckoning settings) (kind : Kind) (made more : List Exchange) :
    r.toll kind made + r.toll kind more ≤ r.toll kind (made ++ more) := by
  simp only [Tally.le_iff, Tally.count_add, Tally.latency_add, Tally.squares_add,
    Tally.volume_add, toll, Engine.taken_append, Engine.elapsed_append]
  refine ⟨le_rfl, le_rfl, ?_, ?_⟩
  · simp only [Nat.mul_add, Nat.add_mul]
    omega
  · obtain ⟨before, after⟩ := r.widest_le_append made more
    have early := Nat.mul_le_mul_left (settings.stride kind) (Nat.mul_le_mul_left kind.moves before)
    have late := Nat.mul_le_mul_left (settings.stride kind) (Nat.mul_le_mul_left kind.moves after)
    rw [Nat.add_mul]
    exact Nat.add_le_add (Nat.mul_le_mul_left _ early) (Nat.mul_le_mul_left _ late)

theorem toll_le_append (r : Reckoning settings) (kind : Kind) (made more : List Exchange) :
    r.toll kind made ≤ r.toll kind (made ++ more) :=
  le_self_add.trans (r.toll_append kind made more)

theorem toll_le_of_infix (r : Reckoning settings) (kind : Kind) (within : made <:+: more) :
    r.toll kind made ≤ r.toll kind more := by
  obtain ⟨before, after, rfl⟩ := within
  calc r.toll kind made
      ≤ r.toll kind before + r.toll kind made := le_add_self
    _ ≤ r.toll kind (before ++ made) := r.toll_append kind before made
    _ ≤ r.toll kind (before ++ made ++ after) := r.toll_le_append kind _ after

/-- One sample with so many bytes is among those of some calls. -/
def Covers (r : Reckoning settings) (kind : Kind) (made : List Exchange) (volume : Nat) : Prop :=
  1 ≤ taken kind made ∧ volume ≤ (r.toll kind made).volume

theorem covers (once : 1 ≤ taken kind made) {volume : Nat}
    (few : volume ≤ kind.moves * r.widest made) :
    r.Covers kind made (volume * settings.stride kind) := by
  refine ⟨once, ?_⟩
  calc volume * settings.stride kind
      = settings.stride kind * volume := Nat.mul_comm _ _
    _ ≤ r.unit kind made := Nat.mul_le_mul_left _ few
    _ ≤ taken kind made * r.unit kind made := Nat.le_mul_of_pos_left _ once

theorem Covers.sample_le {volume latency : Nat} (covers : r.Covers kind made volume)
    (short : latency ≤ elapsed made) : .ofSample latency volume ≤ r.toll kind made :=
  ⟨covers.1, short, Nat.mul_le_mul short short, covers.2⟩

end Reckoning

/-- The panics of a worker that no answer causes, by what was said before. -/
inductive Strain (r : Reckoning settings) (made : List Exchange) : Panic → Prop where
  | sums {kind : Kind} (listed : kind ∈ r.kinds)
      (outgrown : ¬ (r.base kind + r.toll kind made).Fits) : Strain r made .overflow
  | calls (many : wordLimit ≤ made.length) : Strain r made .overflow
  | idle (idle : r.idle) : Strain r made .overflow
  | pools {cause : Panic} (listed : .batch ∈ r.kinds)
      (large : wordLimit / 2 ≤ settings.batchLength * r.pairSize)
      (memory : cause = .overflow ∨ cause = .allocation) : Strain r made cause
  | overcounted (untended : ¬ r.tended) : Strain r made .overcounted

namespace Strain

theorem mono (strain : Strain r made cause) (within : made <:+: more) : Strain r more cause := by
  cases strain with
  | sums listed outgrown =>
      refine .sums listed fun fits => outgrown (fits.mono ?_)
      exact add_le_add_right (r.toll_le_of_infix _ within) _
  | calls many => exact .calls (many.trans within.length_le)
  | idle idle => exact .idle idle
  | pools listed large memory => exact .pools listed large memory
  | overcounted untended => exact .overcounted untended

theorem append (strain : Strain r made cause) (more : List Exchange) :
    Strain r (made ++ more) cause :=
  strain.mono (List.prefix_append made more).isInfix

theorem absent (sums : ∀ kind ∈ r.kinds, (r.base kind + r.toll kind made).Fits)
    (calls : made.length < wordLimit) (idle : ¬ r.idle)
    (pools : settings.batchLength * r.pairSize < wordLimit / 2) (tended : r.tended) :
    ¬ Strain r made cause := by
  intro strain
  cases strain with
  | sums listed outgrown => exact outgrown (sums _ listed)
  | calls many => omega
  | idle endless => exact idle endless
  | pools listed large memory => omega
  | overcounted untended => exact untended tended

theorem ne_engine (strain : Strain r made cause) (reason : String) : cause ≠ .engine reason := by
  rintro rfl
  cases strain with
  | pools listed large memory => simp at memory

end Strain

/-- Work that went on without an excuse for a panic of the engine had none. -/
theorem Calm.never {said : List Exchange} (calm : Calm (since (Strain r) said) made) :
    ∀ exchange ∈ made, ∀ reason, exchange.answer.reply ≠ .panic reason := by
  intro exchange member reason panicked
  obtain ⟨more, strain⟩ := calm exchange member reason panicked
  exact strain.ne_engine reason rfl

end Run

end StoreBench
