import CaptureProtocol.Ethernet
import CaptureProtocol.LinkError

/-!
# Loopback queues

A sender of frames takes one frame at a time and may refuse it.

* `FrameSender` — what a sender does; `sendAll` sends frames until one is refused;
* `LoopbackQueue` — a sender that wraps frames for Ethernet and queues them; a full queue drops frames;
* `LoopbackQueue.receive`, `closeReceiver`, `receiverWaits` — the receiving end.
-/

namespace CaptureProtocol

/-- Takes frames one at a time. -/
class FrameSender (T : Type) where
  /-- Takes a frame or refuses it. -/
  send : T → Bytes → T × Except LinkError Unit

/-- Sends frames in order until one is refused. -/
def sendAll {T : Type} [FrameSender T] (sender : T) : List Bytes → T × Except LinkError Unit
  | [] => (sender, .ok ())
  | frame :: frames =>
    match FrameSender.send sender frame with
    | (sender, .ok ()) => sendAll sender frames
    | (sender, .error error) => (sender, .error error)

/-- Queues frames, wrapped for Ethernet, for a receiver. -/
structure LoopbackQueue where
  source : MacAddress
  /-- The most frames that wait. -/
  capacity : Nat
  /-- The waiting frames, latest first. -/
  latest : List Bytes := []
  /-- Frames taken. -/
  sent : Nat := 0
  dropped : Nat := 0
  /-- Whether the receiving end is open. -/
  isOpen : Bool := true
  /-- Whether a receiver waits for the next frame. -/
  receiverWaits : Bool := false
deriving DecidableEq, Inhabited, Repr

namespace LoopbackQueue

/-- The most frames that are taken before one is received.  A receiver that waits takes a frame also where the queue
itself has no room. -/
def room (queue : LoopbackQueue) : Nat := if queue.receiverWaits then Nat.max queue.capacity 1 else queue.capacity

/-- Takes a frame.  A full queue drops it, and a queue without a receiver refuses it. -/
def send (queue : LoopbackQueue) (frame : Bytes) : LoopbackQueue × Except LinkError Unit :=
  if !queue.isOpen then (queue, .error .queueClosed)
  else if queue.latest.length < queue.room then
    ({ queue with latest := Ethernet.wrap queue.source frame :: queue.latest, sent := queue.sent + 1 }, .ok ())
  else ({ queue with dropped := queue.dropped + 1 }, .ok ())

instance : FrameSender LoopbackQueue := ⟨send⟩

/-- The waiting frames, earliest first. -/
def waiting (queue : LoopbackQueue) : List Bytes := queue.latest.reverse

/-- Takes the earliest frame off the queue. -/
def receive (queue : LoopbackQueue) : Option Bytes × LoopbackQueue :=
  match queue.latest.getLast? with
  | some frame => (some frame, { queue with latest := queue.latest.dropLast })
  | none => (none, queue)

/-- Takes all frames off the queue, earliest first. -/
def receiveAll (queue : LoopbackQueue) : List Bytes × LoopbackQueue :=
  (queue.waiting, { queue with latest := [] })

/-- Closes the receiving end; what waits is lost. -/
def closeReceiver (queue : LoopbackQueue) : LoopbackQueue := { queue with isOpen := false, latest := [] }

end LoopbackQueue

end CaptureProtocol
