/-!
# Worker pools

A pool of workers turns the items of a queue into results. A worker that holds no item may
take the one at the front of the queue, and a worker that holds one may add its result to
the finished ones. Nothing else fixes the order of these steps, so the results come in an
order that depends on the run.

## Main definitions

- `Pool` — the queue, the hands of the workers and the results so far
- `Pool.Step` — the steps that a worker can take
- `Pool.run` — one particular run to the end
-/

namespace Timetable

/-- The state of a pool in which items of type `α` become results of type `β`. -/
structure Pool (α β : Type) where
  queue : List α
  hands : List (Option α)
  finished : List β

namespace Pool

variable {α β : Type}

def start (workers : Nat) (items : List α) : Pool α β :=
  ⟨items, List.replicate workers none, []⟩

/-- The steps of a pool whose workers compute `work`. -/
inductive Step (work : α → β) : Pool α β → Pool α β → Prop where
  /-- An idle worker takes the item at the front of the queue. -/
  | take (item : α) (queue : List α) (before after : List (Option α)) (finished : List β) :
    Step work ⟨item :: queue, before ++ none :: after, finished⟩
      ⟨queue, before ++ some item :: after, finished⟩
  /-- A worker finishes the item it holds. -/
  | finish (item : α) (queue : List α) (before after : List (Option α)) (finished : List β) :
    Step work ⟨queue, before ++ some item :: after, finished⟩
      ⟨queue, before ++ none :: after, finished ++ [work item]⟩

/-- Lets the idle workers take items, from the first worker on. -/
def deal : List α → List (Option α) → List α × List (Option α)
  | item :: queue, none :: hands =>
    let later := deal queue hands
    (later.1, some item :: later.2)
  | queue, some held :: hands =>
    let later := deal queue hands
    (later.1, some held :: later.2)
  | queue, hands => (queue, hands)

/-- Each idle worker takes an item while there are any, and then each worker finishes. -/
def round (work : α → β) (p : Pool α β) : Pool α β :=
  let dealt := deal p.queue p.hands
  ⟨dealt.1, List.replicate p.hands.length none,
    p.finished ++ dealt.2.filterMap (Option.map work)⟩

def rounds (work : α → β) : Nat → Pool α β → Pool α β
  | 0, p => p
  | n + 1, p => if p.queue.isEmpty then p else rounds work n (p.round work)

/-- The results of a run in rounds. With a worker at all there are no more rounds than
items. -/
def run (work : α → β) (workers : Nat) (items : List α) : List β :=
  (rounds work items.length (start workers items)).finished

end Pool

end Timetable
