import IssueBridge.World

/-! # Fibers

A fiber is a step that is taken part by part. Other fibers may have their turns between two of its parts. A schedule
says whose turn it is.
-/

namespace IssueBridge

inductive Fiber (α : Type) : Type 1
  | done (o : Except Failure α)
  /-- A part is run, and its outcome says how to go on. -/
  | part {β : Type} (x : Step β) (next : Except Failure β → Fiber α)

namespace Fiber

variable {α β : Type}

protected def bind (f : α → Fiber β) : Fiber α → Fiber β
  | .done (.ok a) => f a
  | .done (.error e) => .done (.error e)
  | .part x next => .part x fun o => (next o).bind f

instance : Monad Fiber where
  pure a := .done (.ok a)
  bind t f := t.bind f

/-- A fiber of one part. -/
def lift (x : Step α) : Fiber α := .part x .done

/-- The outcome of a fiber, a failure included. -/
def observe : Fiber α → Fiber (Except Failure α)
  | .done o => .done (.ok o)
  | .part x next => .part x fun o => (next o).observe

/-- Runs a fiber; its failure is logged and goes no further. -/
def contain (level : Level) (start : String) (t : Fiber Unit) : Fiber Unit := do
  match ← t.observe with
  | .ok () => return ()
  | .error f => lift (Step.say level (start ++ f.message))

/-- Runs the fibers one after the other. -/
def inTurn : List (Fiber α) → Fiber (List (Except Failure α))
  | [] => return []
  | t :: ts => do
    let o ← t.observe
    return o :: (← inTurn ts)

/-- Runs the fibers by a schedule of places: the fiber at the place has its next part run, if it has one left. What
is left in the end is run in turn. -/
def scheduled : List Nat → List (Fiber α) → Fiber (List (Except Failure α))
  | [], ts => inTurn ts
  | k :: schedule, ts =>
    match ts[k]? with
    | some (.part x next) => .part x fun o => scheduled schedule (ts.set k (next o))
    | _ => scheduled schedule ts

/-- The step that a fiber is when it has no company. -/
def run : Fiber α → Step α
  | .done o => Step.ofExcept o
  | .part x next => do (next (← Step.observe x)).run

end Fiber

end IssueBridge
