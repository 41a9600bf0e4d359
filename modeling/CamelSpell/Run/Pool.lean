/-!
# Pools of workers

Several workers share a row of tasks.  In each turn a worker either claims the next task that nobody
has claimed or completes the task that it holds and stores the result in the slot of that task.
Which worker has a turn is up to a schedule.
-/

namespace CamelSpell

/-- The state of a pool: the number of claimed tasks, what each worker holds, and the results. -/
structure Pool (β : Type) where
  cursor : Nat
  holding : List (Option Nat)
  slots : List (Option β)
deriving DecidableEq, Repr

namespace Pool

variable {α β : Type}

def start (workers tasks : Nat) : Pool β :=
  ⟨0, List.replicate workers none, List.replicate tasks none⟩

/-- One turn of a worker.  A worker that does not exist does nothing. -/
def turn (tasks : List α) (perform : α -> β) (p : Pool β) (worker : Nat) : Pool β :=
  match p.holding[worker]? with
  | none => p
  | some (some index) =>
      { p with
        holding := p.holding.set worker none
        slots := p.slots.set index (tasks[index]?.map perform) }
  | some none =>
      if p.cursor < tasks.length then
        { p with cursor := p.cursor + 1, holding := p.holding.set worker (some p.cursor) }
      else p

def runSchedule (tasks : List α) (perform : α -> β) (p : Pool β) (schedule : List Nat) : Pool β :=
  schedule.foldl (turn tasks perform) p

def isDone (tasks : List α) (p : Pool β) : Bool :=
  tasks.length ≤ p.cursor && p.holding.all Option.isNone

def roundRobin (workers tasks : Nat) : List Nat :=
  (List.replicate (2 * (tasks / workers + 1)) (List.range workers)).flatten

def results (p : Pool β) : List β :=
  p.slots.filterMap id

def perform (workers : Nat) (tasks : List α) (f : α -> β) (schedule : List Nat) : List β :=
  ((start workers tasks.length).runSchedule tasks f schedule).results

end Pool
end CamelSpell
