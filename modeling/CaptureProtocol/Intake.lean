import CaptureProtocol.Bytes

/-!
# Frame intakes

An intake hands every frame of a queue to its owner until it is stopped.

* `FrameIntake` — the intake, with the frames that it handed on;
* `take` — takes a frame; `stop` — stops the intake and answers how many frames it took, the first time.
-/

namespace CaptureProtocol

/-- Hands frames on until it is stopped. -/
structure FrameIntake where
  /-- The frames that were handed on, latest first. -/
  latest : List Bytes := []
  /-- Whether the intake runs. -/
  running : Bool := true
  /-- Whether the number of frames was asked for. -/
  counted : Bool := false
deriving DecidableEq, Inhabited, Repr

namespace FrameIntake

/-- Takes a frame. -/
def take (intake : FrameIntake) (frame : Bytes) : FrameIntake :=
  if intake.running then { intake with latest := frame :: intake.latest } else intake

/-- The frames that were handed on, in order. -/
def seen (intake : FrameIntake) : List Bytes := intake.latest.reverse

/-- Stops the intake.  The first time, answers how many frames it took. -/
def stop (intake : FrameIntake) : FrameIntake × Option Nat :=
  ({ intake with running := false, counted := true }, if intake.counted then none else some intake.latest.length)

end FrameIntake

end CaptureProtocol
