import StoreBench.Engine.Call
import StoreBench.Text.Escaped

/-!
A probe around an engine.

The probe passes every call on to the engine and writes a log of the calls and their replies.  It
lets time pass during the calls of a context, and it injects faults: at chosen calls it answers in
the engine's place, panics, or reports an interrupt.
-/

namespace StoreBench.Engine

/-- The calls that a fault can be attached to. -/
inductive CallName where
  | openStore
  | close
  | option
  | newContext
  | contextOption
  | begin
  | next
  | done
  deriving DecidableEq

namespace Call

def name? : Call → Option CallName
  | .openStore _ => some .openStore
  | .close => some .close
  | .option _ => some .option
  | .newContext _ => some .newContext
  | .contextOption _ _ => some .contextOption
  | .begin _ _ => some .begin
  | .next _ _ _ => some .next
  | .done _ _ => some .done
  | .dispose _ => none

def kind? : Call → Option Kind
  | .begin _ kind => some kind
  | .next _ kind _ => some kind
  | .done _ kind => some kind
  | _ => none

end Call

inductive FaultAction where
  | answer (cause : EngineError)
  | panic (reason : String)
  | interrupt
  deriving DecidableEq

structure Fault where
  call : CallName
  kind : Option Kind
  position : Nat
  -- at all later matching calls, too
  sticky : Bool
  action : FaultAction
  deriving DecidableEq

def Fault.appliesTo (fault : Fault) (call : Call) : Bool :=
  call.name? == some fault.call && (fault.kind.isNone || call.kind? == fault.kind)

def Fault.firesAt (fault : Fault) (count : Nat) : Bool :=
  count == fault.position || (fault.sticky && fault.position < count)

/-- Nanoseconds that pass during the calls of a context; the steps of a context take the times of
`next` in turn. -/
structure Costs where
  begin : Nat
  next : List Nat
  done : Nat
  deriving DecidableEq

structure Entry where
  call : Call
  reply : Reply
  deriving DecidableEq

def pairText (pair : Pair) : String :=
  Text.hexBytes pair.key ++ ":" ++ Text.hexBytes pair.value

def Call.text : Call → String
  | .openStore _ => "open"
  | .close => "close"
  | .option argument => s!"option {argument}"
  | .newContext context => s!"c{context} thread_new"
  | .contextOption context argument => s!"c{context} option {argument}"
  | .begin context kind => s!"c{context} begin {kind.name}"
  | .next context kind pair => s!"c{context} next {kind.name} {pairText pair}"
  | .done context kind => s!"c{context} done {kind.name}"
  | .dispose context => s!"c{context} dispose"

def Entry.text (entry : Entry) : String :=
  match entry.call, entry.reply with
  | .dispose _, _ => entry.call.text
  | .next _ _ _, .ok pair => s!"{entry.call.text} -> {pairText pair}"
  | _, .ok _ => s!"{entry.call.text} -> ok"
  | _, .error cause => s!"{entry.call.text} -> !{cause.message}"
  | _, .panic _ => entry.call.text

/-- A probe around an engine with states in `σ`. -/
structure Probe (σ : Type) where
  engine : σ
  faults : List (Fault × Nat)
  costs : Costs
  steps : List (Nat × Nat)
  log : List Entry

namespace Probe

variable {σ : Type}

def new (engine : σ) (faults : List Fault) (costs : Costs) : Probe σ :=
  { engine, faults := faults.map (·, 0), costs, steps := [], log := [] }

def calls (probe : Probe σ) : List Entry :=
  probe.log.reverse

def contexts (probe : Probe σ) : Nat :=
  probe.log.countP fun entry => entry.call.name? == some .newContext

/-- The time a call takes, and the probe after it. -/
def charge (probe : Probe σ) : Call → Nat × Probe σ
  | .newContext context =>
    (0, { probe with steps := (context, 0) :: probe.steps.filter (·.1 != context) })
  | .begin _ _ => (probe.costs.begin, probe)
  | .next context _ _ =>
    let made := (probe.steps.lookup context).getD 0
    let time := probe.costs.next.getD (made % probe.costs.next.length) 0
    (time, { probe with steps := (context, made + 1) :: probe.steps.filter (·.1 != context) })
  | .done _ _ => (probe.costs.done, probe)
  | _ => (0, probe)

/-- Counts a call for every fault it matches; the action of the first fault that fires. -/
def trigger (probe : Probe σ) (call : Call) : Option FaultAction × Probe σ :=
  let fires := fun (item : Fault × Nat) => item.1.appliesTo call && item.1.firesAt item.2
  let action := (probe.faults.find? fires).map (·.1.action)
  let faults := probe.faults.map fun (fault, count) =>
    (fault, if fault.appliesTo call then count + 1 else count)
  (action, { probe with faults })

/-- Answers a call; a call that panics leaves no entry in the log. -/
def perform (inner : Engine (StateM σ)) : Engine (StateM (Probe σ)) := fun call probe =>
  let (time, probe) := probe.charge call
  let (action, probe) := probe.trigger call
  let logged (reply : Reply) (probe : Probe σ) : Probe σ :=
    match reply with
    | .panic _ => probe
    | reply => { probe with log := ⟨call, reply⟩ :: probe.log }
  match action with
  | some (.answer cause) => (⟨.error cause, time, false⟩, logged (.error cause) probe)
  | some (.panic reason) => (⟨.panic reason, time, false⟩, probe)
  | action =>
    let (answer, engine) := inner call probe.engine
    (⟨answer.reply, time + answer.took, answer.interrupted || action == some .interrupt⟩,
      logged answer.reply { probe with engine })

end Probe

end StoreBench.Engine
