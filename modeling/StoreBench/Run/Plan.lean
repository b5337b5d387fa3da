import StoreBench.Settings.Basic

/-!
The plan of a run: which workers there are, what they run, where they start, how much they do.

With readers and writers, writers run the kinds that change the store and readers the rest; with
one category only, that category runs everything.  Every owner has key spaces of its own, two of
them if a kind needs two; readers beside writers share the spaces of the writers.
-/

namespace StoreBench.Run

structure Slot where
  kinds : KindSet
  -- a kind that needs two key spaces uses the next one too
  space : Nat
  start : Nat
  share : Nat
  deriving DecidableEq

structure Plan where
  selected : KindSet
  reading : KindSet
  writing : KindSet
  readers : Nat
  writers : Nat
  spaceStep : Nat
  spaces : Nat
  sectors : Nat
  deriving DecidableEq

namespace Plan

/-- Splits the selected kinds; a category without kinds gets no workers.  The number of key spaces
must fit into 64 bits. -/
def new (settings : Settings) : Except Panic Plan :=
  let selected := settings.selected
  let (reading, writing) :=
    if settings.writers = 0 then (selected, .empty)
    else if settings.readers = 0 then (.empty, selected)
    else ((selected.diff .writing).inter .reading, selected.inter .writing)
  let readers := if reading.isEmpty then 0 else settings.readers
  let writers := if writing.isEmpty then 0 else settings.writers
  let spaceStep := if selected.meets .pairing then 2 else 1
  let owners := if 0 < writers then writers else max readers 1
  if wordLimit ≤ owners * spaceStep then .error .overflow
  else
    .ok { selected, reading, writing, readers, writers, spaceStep
          spaces := owners * spaceStep
          sectors := max (max readers writers) 1 }

def single (plan : Plan) : Bool :=
  plan.readers = 0 && plan.writers = 0

def workers (plan : Plan) : Nat :=
  plan.readers + plan.writers

/-- Worker `index` of a category of `size`: it starts at its part of the keys and takes its part
of the operations, the last worker also what remains. -/
def slot (plan : Plan) (settings : Settings) (kinds : KindSet) (size index : Nat) : Slot :=
  let owners := if 0 < plan.writers then plan.writers else plan.readers
  { kinds
    space := (index % owners) * plan.spaceStep
    start := index * settings.keys / size
    share :=
      settings.count / size + if index + 1 = size then settings.count % size else 0 }

/-- The workers, readers first. -/
def slots (plan : Plan) (settings : Settings) : List Slot :=
  if plan.single then [⟨plan.selected, 0, 0, settings.count⟩]
  else
    (List.range plan.readers).map (plan.slot settings plan.reading plan.readers) ++
      (List.range plan.writers).map (plan.slot settings plan.writing plan.writers)

end Plan

end StoreBench.Run
