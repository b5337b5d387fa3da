import Mathlib.Algebra.BigOperators.Group.List.Basic
import Mathlib.Algebra.GroupWithZero.Nat
import StoreBench.Proofs.Run.Hearing

/-! Brackets of calls.

A worker speaks to its context in brackets, each of which is about one kind and starts with a
`begin`.  A transaction follows a script and breaks off at the first answer that is not tolerated.
-/

namespace StoreBench

def Kind.isPoint : Kind → Bool
  | .set | .get | .delete => true
  | .iterate | .batch | .crud => false

namespace Engine

def elapsed (made : List Exchange) : Nat :=
  (made.map (·.answer.took)).sum

@[simp] theorem elapsed_nil : elapsed [] = 0 := rfl

@[simp] theorem elapsed_cons (exchange : Exchange) (made : List Exchange) :
    elapsed (exchange :: made) = exchange.answer.took + elapsed made := by
  simp [elapsed]

@[simp] theorem elapsed_append (made more : List Exchange) :
    elapsed (made ++ more) = elapsed made + elapsed more := by
  simp [elapsed]

theorem elapsed_flatten (brackets : List (List Exchange)) :
    elapsed brackets.flatten = (brackets.map elapsed).sum := by
  induction brackets with
  | nil => rfl
  | cons made brackets ih => simp [ih]

namespace Exchange

/-- The answer lets a pass of the kind go on: the call succeeded, or did not find a key where that
is tolerated.  The end of the store is always tolerated. -/
def fine (settings : Settings) (kind : Kind) (exchange : Exchange) : Bool :=
  match exchange.answer.reply, exchange.call with
  | .ok _, _ => true
  | .error .notFound, .begin _ _ => kind.isPoint && settings.ignoreMissing
  | .error .notFound, .next _ step _ =>
    match kind with
    | .iterate => true
    | .batch | .crud => step != .set && settings.ignoreMissing
    | .set | .get | .delete => settings.ignoreMissing
  | _, _ => false

theorem fine_ok {settings : Settings} {kind : Kind} {call : Call} {answer : Answer} {pair : Pair}
    (replied : answer.reply = .ok pair) : fine settings kind ⟨call, answer⟩ = true := by
  simp [fine, replied]

def granted (exchange : Exchange) : Bool :=
  match exchange.answer.reply with
  | .ok _ => true
  | _ => false

def isRecord (exchange : Exchange) : Bool :=
  match exchange.call, exchange.answer.reply with
  | .next _ .iterate _, .ok _ => true
  | _, _ => false

def begins (kind : Kind) (exchange : Exchange) : Bool :=
  match exchange.call with
  | .begin _ opened => opened = kind
  | _ => false

end Exchange

def taken (kind : Kind) (made : List Exchange) : Nat :=
  if kind = .iterate then made.countP Exchange.isRecord else made.countP (Exchange.begins kind)

@[simp] theorem taken_nil (kind : Kind) : taken kind [] = 0 := by
  simp [taken]

theorem taken_append (kind : Kind) (made more : List Exchange) :
    taken kind (made ++ more) = taken kind made + taken kind more := by
  unfold taken
  split
  · exact List.countP_append
  · exact List.countP_append

end Engine

namespace Run

open StoreBench.Engine (Answer Call Exchange elapsed)

def quadrupleCalls (context : Nat) (pairs : Pair × Pair) : List Call :=
  [.next context .set pairs.2, .next context .set pairs.1, .next context .delete pairs.2,
    .next context .get pairs.1]

/-- A transaction of one quadruple for each of these pairs. -/
def transactionCalls (context : Nat) (kind : Kind) (pairs : List (Pair × Pair)) : List Call :=
  .begin context kind :: pairs.flatMap (quadrupleCalls context) ++ [.done context kind]

/-- The calls of a script are made in order, up to the first whose answer is not fine; whether all
of them were made and were fine. -/
inductive Scripted (fine : Exchange → Bool) : List Call → List Exchange → Bool → Prop where
  | complete : Scripted fine [] [] true
  | cut {call : Call} {answer : Answer} {script : List Call}
      (unfine : fine ⟨call, answer⟩ = false) :
      Scripted fine (call :: script) [⟨call, answer⟩] false
  | said {call : Call} {answer : Answer} {script : List Call} {made : List Exchange} {whole : Bool}
      (well : fine ⟨call, answer⟩ = true) (rest : Scripted fine script made whole) :
      Scripted fine (call :: script) (⟨call, answer⟩ :: made) whole

namespace Scripted

variable {fine : Exchange → Bool} {script more : List Call} {made further : List Exchange}
  {whole : Bool}

theorem append (begun : Scripted fine script made true) (rest : Scripted fine more further whole) :
    Scripted fine (script ++ more) (made ++ further) whole := by
  generalize all : true = every at begun
  induction begun with
  | complete => exact rest
  | cut unfine => cases all
  | said well _ ih => exact .said well (ih all)

theorem extend (broken : Scripted fine script made false) (more : List Call) :
    Scripted fine (script ++ more) made false := by
  generalize none : false = every at broken ⊢
  induction broken with
  | complete => cases none
  | cut unfine => exact .cut unfine
  | said well _ ih => exact .said well (ih none)

theorem whole_eq (scripted : Scripted fine script made whole) : whole = made.all fine := by
  induction scripted with
  | complete => rfl
  | cut unfine => simp [unfine]
  | said well _ ih => simp [well, ih]

theorem calls_prefix (scripted : Scripted fine script made whole) :
    made.map Exchange.call <+: script := by
  induction scripted with
  | complete => exact List.prefix_refl []
  | cut unfine => exact ⟨_, rfl⟩
  | said well _ ih => exact List.prefix_cons_inj _ |>.mpr ih

theorem calls_eq (scripted : Scripted fine script made true) :
    made.map Exchange.call = script := by
  generalize all : true = every at scripted
  induction scripted with
  | complete => rfl
  | cut unfine => cases all
  | said well _ ih => exact congrArg _ (ih all)

theorem unfine_last (scripted : Scripted fine script made whole) {before after : List Exchange}
    {exchange : Exchange} (around : made = before ++ exchange :: after)
    (unfine : fine exchange = false) : after = [] := by
  induction scripted generalizing before with
  | complete => simp at around
  | cut _ =>
      cases before with
      | nil => exact (List.cons.inj around).2.symm
      | cons first before => simp at around
  | said well _ ih =>
      cases before with
      | nil =>
          obtain ⟨rfl, rfl⟩ := List.cons.inj around
          rw [well] at unfine
          cases unfine
      | cons first before => exact ih (List.cons.inj around).2

end Scripted

/-- The exchanges that a cursor answered with a record. -/
def Taken (context : Nat) (records : List Exchange) : Prop :=
  ∀ exchange ∈ records, exchange.call = .next context .iterate .empty ∧ exchange.isRecord = true

/-- What is said in one bracket of a kind with `left` operations to go, and how many of them the
bracket is for.  The first two are the brackets of a key, the last four those of a cursor. -/
inductive Bracket (settings : Settings) (context left : Nat) :
    Kind → List Exchange → Nat → Prop where
  | refused {kind : Kind} {begun ended : Answer} {cause : EngineError} (point : kind.isPoint = true)
      (refuses : begun.reply = .error cause) :
      Bracket settings context left kind
        [⟨.begin context kind, begun⟩, ⟨.done context kind, ended⟩] 1
  | point {kind : Kind} {begun got ended : Answer} {opened pair : Pair}
      (point : kind.isPoint = true) (opens : begun.reply = .ok opened) :
      Bracket settings context left kind
        [⟨.begin context kind, begun⟩, ⟨.next context kind pair, got⟩,
          ⟨.done context kind, ended⟩] 1
  | crud {made : List Exchange} {whole : Bool} (pairs : Pair × Pair)
      (said : Scripted (Exchange.fine settings .crud) (transactionCalls context .crud [pairs]) made
        whole) : Bracket settings context left .crud made 1
  | batch {made : List Exchange} {whole : Bool} (pairs : List (Pair × Pair))
      (filled : pairs.length = min left settings.batchLength)
      (said : Scripted (Exchange.fine settings .batch) (transactionCalls context .batch pairs) made
        whole) : Bracket settings context left .batch made pairs.length
  | unopened {begun : Answer} {cause : EngineError} (refuses : begun.reply = .error cause) :
      Bracket settings context left .iterate [⟨.begin context .iterate, begun⟩] left
  | spent {begun ended : Answer} {opened : Pair} {records : List Exchange}
      (opens : begun.reply = .ok opened) (taken : Taken context records)
      (all : records.length = left) :
      Bracket settings context left .iterate
        (⟨.begin context .iterate, begun⟩ :: records ++ [⟨.done context .iterate, ended⟩]) left
  | exhausted {begun last ended : Answer} {opened : Pair} {records : List Exchange}
      (opens : begun.reply = .ok opened) (taken : Taken context records)
      (some : records.length < left) (stops : last.reply = .error .notFound) :
      Bracket settings context left .iterate
        (⟨.begin context .iterate, begun⟩ :: records ++
          [⟨.next context .iterate .empty, last⟩, ⟨.done context .iterate, ended⟩]) left
  | lost {begun last : Answer} {opened : Pair} {cause : EngineError} {records : List Exchange}
      (opens : begun.reply = .ok opened) (taken : Taken context records)
      (some : records.length < left) (broken : last.reply = .error cause)
      (unknown : cause ≠ .notFound) :
      Bracket settings context left .iterate
        (⟨.begin context .iterate, begun⟩ ::
          records ++ [⟨.next context .iterate .empty, last⟩]) left

/-- The brackets of a kind in one pass with `left` operations to go, and whether all of them came to
a fine end.  The first that does not is the last. -/
inductive KindRun (settings : Settings) (context : Nat) (kind : Kind) :
    Nat → List (List Exchange) → Bool → Prop where
  | complete : KindRun settings context kind 0 [] true
  | broken {left used : Nat} {made : List Exchange}
      (bracket : Bracket settings context (left + 1) kind made used)
      (unclean : made.all (Exchange.fine settings kind) = false) :
      KindRun settings context kind (left + 1) [made] false
  | step {left used : Nat} {made : List Exchange} {brackets : List (List Exchange)} {whole : Bool}
      (bracket : Bracket settings context (left + 1) kind made used)
      (clean : made.all (Exchange.fine settings kind) = true)
      (rest : KindRun settings context kind (left + 1 - used) brackets whole) :
      KindRun settings context kind (left + 1) (made :: brackets) whole

/-- A bracket with its kind. -/
structure Segment where
  kind : Kind
  made : List Exchange

/-- How some passes ended: as planned, because the run was stopped, or with a failure. -/
inductive Verdict where
  | whole
  | halted
  | failed
  deriving DecidableEq

/-- One pass through some kinds. -/
inductive PassRun (settings : Settings) (context share : Nat) :
    List Kind → List Segment → Verdict → Prop where
  | complete : PassRun settings context share [] [] .whole
  | halted {kind : Kind} {kinds : List Kind} :
      PassRun settings context share (kind :: kinds) [] .halted
  | failed {kind : Kind} {kinds : List Kind} {brackets : List (List Exchange)}
      (run : KindRun settings context kind share brackets false) :
      PassRun settings context share (kind :: kinds) (brackets.map (Segment.mk kind)) .failed
  | step {kind : Kind} {kinds : List Kind} {brackets : List (List Exchange)}
      {segments : List Segment} {verdict : Verdict}
      (run : KindRun settings context kind share brackets true)
      (rest : PassRun settings context share kinds segments verdict) :
      PassRun settings context share (kind :: kinds)
        (brackets.map (Segment.mk kind) ++ segments) verdict

/-- The passes of a worker after the first `made`.  There is one more only if there are passes to
be made, or if they go on until every worker has made its own. -/
inductive Rounds (settings : Settings) (context : Nat) (kinds : List Kind) (share : Nat) :
    Nat → List (List Segment) → Verdict → Prop where
  | complete {made : Nat} (enough : settings.passes ≤ made) :
      Rounds settings context kinds share made [] .whole
  | broken {made : Nat} {segments : List Segment} {verdict : Verdict}
      (wanted : made < settings.passes ∨ settings.continuous = true)
      (round : PassRun settings context share kinds segments verdict) (short : verdict ≠ .whole) :
      Rounds settings context kinds share made [segments] verdict
  | halted {made : Nat} {segments : List Segment}
      (wanted : made < settings.passes ∨ settings.continuous = true)
      (round : PassRun settings context share kinds segments .whole) :
      Rounds settings context kinds share made [segments] .halted
  | step {made : Nat} {segments : List Segment} {rounds : List (List Segment)} {verdict : Verdict}
      (wanted : made < settings.passes ∨ settings.continuous = true)
      (round : PassRun settings context share kinds segments .whole)
      (rest : Rounds settings context kinds share (made + 1) rounds verdict) :
      Rounds settings context kinds share made (segments :: rounds) verdict

/-- All that a worker and its context say to each other, and the brackets of its passes. -/
inductive Conversation (settings : Settings) (context : Nat) (kinds : List Kind) (share : Nat) :
    List (List Segment) → List Exchange → Verdict → Prop where
  | refused {opened : Answer} {cause : EngineError} (refuses : opened.reply = .error cause) :
      Conversation settings context kinds share [] [⟨.newContext context, opened⟩] .failed
  | rejected {opened disposed : Answer} {pair : Pair} {offered : List Exchange}
      (opens : opened.reply = .ok pair)
      (options : Scripted Exchange.granted
        (settings.engineOptions.map (Call.contextOption context)) offered false) :
      Conversation settings context kinds share []
        (⟨.newContext context, opened⟩ :: (offered ++ [⟨.dispose context, disposed⟩])) .failed
  | worked {opened disposed : Answer} {pair : Pair} {offered : List Exchange}
      {rounds : List (List Segment)} {verdict : Verdict} (opens : opened.reply = .ok pair)
      (options : Scripted Exchange.granted
        (settings.engineOptions.map (Call.contextOption context)) offered true)
      (work : Rounds settings context kinds share 0 rounds verdict) :
      Conversation settings context kinds share rounds
        (⟨.newContext context, opened⟩ ::
          (offered ++ (rounds.flatten.flatMap Segment.made ++ [⟨.dispose context, disposed⟩])))
        verdict

end Run

end StoreBench
