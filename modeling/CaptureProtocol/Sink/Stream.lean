import CaptureProtocol.MeasurementUnit
import CaptureProtocol.Packet

/-!
# Streams of a sink

A stream of a sink takes the packets of one address and one payload type and queues what they hold.

* `ReceivedCan`, `ReceivedAnalog`, `ReceivedBatch` — what is queued;
* `SinkStream` — the stream, its queue and its counters;
* `receive` — takes packets of one call; `batch?` is what it queues for them;
* `tryReceive`, `drain` — take from the queue.
-/

namespace CaptureProtocol

/-- A CAN frame that was received. -/
structure ReceivedCan where
  /-- When the frame was captured, in nanoseconds. -/
  timestamp : UInt64
  arbitrationId : UInt32
  extended : Bool
  data : Bytes
deriving DecidableEq, Inhabited, Repr

/-- Physical values that were received. -/
structure ReceivedAnalog where
  /-- When the first value was captured, in nanoseconds. -/
  timestamp : UInt64
  /-- The time between values, in seconds. -/
  sampleInterval : Binary64
  /-- The symbol of the unit; empty for an unknown unit. -/
  unit : String
  values : List Binary64
deriving DecidableEq, Inhabited, Repr

/-- What one call puts into the queue. -/
inductive ReceivedBatch where
  | can (frames : List ReceivedCan)
  /-- Physical values. -/
  | analog (output : ReceivedAnalog)
deriving DecidableEq, Inhabited, Repr

/-- Takes the packets of one address and payload type. -/
structure SinkStream where
  key : StreamKey
  payloadType : PayloadType
  /-- The most batches that wait. -/
  capacity : Nat
  /-- The waiting batches, latest first. -/
  latest : List ReceivedBatch := []
  /-- Packets taken. -/
  received : Nat := 0
  /-- Batches dropped because the queue was full. -/
  dropped : Nat := 0
  /-- Packets refused for their payload type. -/
  rejected : Nat := 0
deriving DecidableEq, Inhabited, Repr

namespace SinkStream

/-- The CAN frame of a packet. -/
def receivedCan? (packet : Packet) : Option ReceivedCan :=
  match packet.payload with
  | .can frame | .canFd frame =>
    some
      { timestamp := packet.timestamp
        arbitrationId := frame.arbitrationId
        extended := frame.isExtended
        data := frame.data }
  | _ => none

/-- The analog block of a packet, with its time. -/
def analogBlock? (packet : Packet) : Option (UInt64 × AnalogBlock) :=
  match packet.payload with
  | .analog block => some (packet.timestamp, block)
  | _ => none

/-- What packets of a payload type hold.  The values of all analog packets are joined under the time, interval and
unit of the first. -/
def batch? (payloadType : PayloadType) (packets : List Packet) : Option ReceivedBatch :=
  match payloadType with
  | .can | .canFd =>
    let frames := packets.filterMap receivedCan?
    if frames.isEmpty then none else some (.can frames)
  | .analog =>
    let blocks := packets.filterMap analogBlock?
    match blocks with
    | [] => none
    | (timestamp, first) :: _ =>
      some (.analog
        { timestamp
          sampleInterval := Binary64.widen first.sampleInterval
          unit := (MeasurementUnit.symbol? first.unit).getD ""
          values := blocks.flatMap fun (_, block) => block.physicalValues })
  | _ => none

/-- Puts a batch into the queue, or drops it when the queue is full. -/
def enqueue (stream : SinkStream) (batch : ReceivedBatch) : SinkStream :=
  if stream.latest.length < stream.capacity then { stream with latest := batch :: stream.latest }
  else { stream with dropped := stream.dropped + 1 }

/-- Takes packets that were published under an address.  Packets of other addresses are passed over, packets of
another payload type are refused. -/
def receive (stream : SinkStream) (key : StreamKey) (packets : List Packet) : SinkStream :=
  if key ≠ stream.key then stream
  else
    let (accepted, refused) :=
      (packets.filter (·.key == stream.key)).partition (·.payloadType == stream.payloadType)
    let stream :=
      { stream with received := stream.received + accepted.length, rejected := stream.rejected + refused.length }
    match batch? stream.payloadType accepted with
    | some batch => stream.enqueue batch
    | none => stream

/-- Takes the earliest batch off the queue. -/
def tryReceive (stream : SinkStream) : Option ReceivedBatch × SinkStream :=
  match stream.latest.getLast? with
  | some batch => (some batch, { stream with latest := stream.latest.dropLast })
  | none => (none, stream)

/-- Takes all batches off the queue, earliest first. -/
def drain (stream : SinkStream) : List ReceivedBatch × SinkStream :=
  (stream.latest.reverse, { stream with latest := [] })

end SinkStream

end CaptureProtocol
