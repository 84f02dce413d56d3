/-!
# Runs of a state machine

A machine takes one input at a time, changes its state and gives a list of outputs.

* `collect` — feeds a list of inputs and gathers the outputs in order;
* `collect_nil`, `collect_cons`, `collect_append` — the run of a list follows its parts.
-/

namespace CaptureProtocol.Run

/-- One more input, with the outputs gathered so far, latest first. -/
def push {σ α β : Type} (step : σ → α → σ × List β) (run : σ × List β) (input : α) : σ × List β :=
  let (state, output) := step run.1 input
  (state, output.reverse ++ run.2)

/-- The state after a list of inputs and all outputs in order. -/
def collect {σ α β : Type} (step : σ → α → σ × List β) (state : σ) (inputs : List α) : σ × List β :=
  let (state, output) := inputs.foldl (push step) (state, [])
  (state, output.reverse)

variable {σ α β : Type} (step : σ → α → σ × List β)

/-- Outputs gathered before a run stay below those of the run. -/
theorem foldl_push (inputs : List α) (state : σ) (output : List β) :
    inputs.foldl (push step) (state, output)
      = ((inputs.foldl (push step) (state, [])).1, (inputs.foldl (push step) (state, [])).2 ++ output) := by
  induction inputs generalizing state output with
  | nil => rfl
  | cons input inputs ih =>
    rw [List.foldl_cons, List.foldl_cons]
    simp only [push]
    rw [ih _ (_ ++ output), ih _ (_ ++ [])]
    simp

@[simp] theorem collect_nil (state : σ) : collect step state [] = (state, []) := rfl

/-- The first input, then the others. -/
theorem collect_cons (state : σ) (input : α) (inputs : List α) :
    collect step state (input :: inputs)
      = ((collect step (step state input).1 inputs).1,
         (step state input).2 ++ (collect step (step state input).1 inputs).2) := by
  simp only [collect, List.foldl_cons, push]
  rw [foldl_push]
  simp

/-- A run of two lists, one after the other. -/
theorem collect_append (state : σ) (front back : List α) :
    collect step state (front ++ back)
      = ((collect step (collect step state front).1 back).1,
         (collect step state front).2 ++ (collect step (collect step state front).1 back).2) := by
  induction front generalizing state with
  | nil => simp
  | cons input front ih => simp [collect_cons, ih]

end CaptureProtocol.Run
