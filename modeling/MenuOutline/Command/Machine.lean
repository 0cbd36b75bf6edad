-- Tasks run side by side. A task asks for one file at most, so that tasks that overlap come down to
-- some order of them; the results are put in the places of their tasks.

namespace MenuOutline

-- What a machine decides on: the count of its cores, and the order in which so many workers do so
-- many tasks.
structure Machine where
  cores : Nat
  order : (workers tasks : Nat) → List Nat
  -- Every task is done once.
  order_perm : ∀ workers tasks, (order workers tasks).Perm (List.range tasks)

namespace Machine

-- One core, which does the tasks one after the other.
def sequential : Machine where
  cores := 1
  order _ tasks := List.range tasks
  order_perm _ _ := .refl _

variable {m : Type → Type} [Monad m] {α : Type}

-- Runs tasks in an order of their places; every result is given with its place.
def runInOrder (tasks : List (m α)) : List Nat → m (List (Nat × α))
  | [] => return []
  | i :: order =>
    match tasks[i]? with
    | some task => do
      let a ← task
      return (i, a) :: (← runInOrder tasks order)
    | none => runInOrder tasks order

-- Runs tasks and gives their results in the order of the tasks.
def runAll (machine : Machine) (workers : Nat) (tasks : List (m α)) : m (List α) := do
  let results ← runInOrder tasks (machine.order workers tasks.length)
  return (List.range tasks.length).filterMap fun i => results.lookup i

end Machine

end MenuOutline
