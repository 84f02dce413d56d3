/-!
# Periodic workers

A worker repeats a task, once in each period, until the task ends it or it is stopped.

* `TaskAnswer` — what a run of the task says; `Worker` — the worker;
* `period` — the passing of one period; `run` — the passing of several;
* `stop` — stops the worker; a task that stops its own worker ends after its run.
-/

namespace CaptureProtocol

/-- What a run of a task says. -/
inductive TaskAnswer where
  /-- Run again in the next period. -/
  | again
  /-- This was the last run. -/
  | finished
  /-- The run failed, which ends the worker. -/
  | failed
  /-- The run stopped its own worker. -/
  | stopped
deriving DecidableEq, Inhabited, Repr

/-- Repeats a task. -/
structure Worker where
  /-- The finished runs of the task. -/
  runs : Nat := 0
  /-- Whether the worker still repeats its task. -/
  running : Bool := true
deriving DecidableEq, Inhabited, Repr

namespace Worker

/-- The passing of one period. -/
def period (task : Nat → TaskAnswer) (worker : Worker) : Worker :=
  if worker.running then
    { runs := worker.runs + 1, running := task (worker.runs + 1) == .again }
  else worker

/-- The passing of several periods. -/
def run (task : Nat → TaskAnswer) : Nat → Worker → Worker
  | 0, worker => worker
  | periods + 1, worker => run task periods (worker.period task)

/-- Stops the worker. -/
def stop (worker : Worker) : Worker := { worker with running := false }

end Worker

end CaptureProtocol
