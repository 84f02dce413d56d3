import CaptureProtocol.MeasurementUnit
import CaptureProtocol.Packet
import CaptureProtocol.Signal.Quantizer
import CaptureProtocol.Signal.TimeAxis

/-!
# Signal inlets

An inlet carries one payload type.  A signal can be connected to it whose shape fits that type; then batches of
its values become packets.

* `SignalState`, `SignalInlet` — the inlet, and whether a signal is connected to it;
* `connect`, `disconnect`, `retype` — its events; each one checks the signal anew;
* `SignalBatch` — values of a signal; `packets?` — the packets of a batch, of which there are none unless a signal is
  connected; it fails where the time of a packet overflows.
-/

namespace CaptureProtocol

/-- Whether a signal is connected to an inlet. -/
inductive SignalState where
  /-- There is no signal. -/
  | disconnected
  /-- The signal fits the inlet. -/
  | connected
  /-- The signal does not fit the inlet. -/
  | invalid
deriving DecidableEq, Inhabited, Repr

/-- The name of a state. -/
def SignalState.name : SignalState → String
  | disconnected => "Disconnected"
  | connected => "Connected"
  | invalid => "Invalid"

/-- One CAN message of a signal. -/
structure CanMessage where
  /-- When the message was seen, in ticks. -/
  tick : UInt64
  identifier : UInt32
  /-- The number of data bytes that count. -/
  length : UInt8
  /-- The data bytes, 64 of them. -/
  data : Bytes
deriving DecidableEq, Inhabited, Repr

namespace CanMessage

/-- A message from its data, of which at most 64 bytes are kept. -/
def ofData (tick : UInt64) (identifier : UInt32) (bytes : Bytes) : CanMessage where
  tick
  identifier
  length := UInt8.ofNat (Nat.min bytes.length 255)
  data := bytes.take 64 ++ List.replicate (64 - bytes.length) 0

/-- The data bytes that count. -/
def payload (message : CanMessage) : Bytes := message.data.take message.length.toNat

end CanMessage

/-- Values of a signal. -/
inductive SignalBatch where
  | can (messages : List CanMessage)
  /-- Evenly spaced numbers from a tick on. -/
  | analog (startTick : UInt64) (values : List Binary64)
deriving Inhabited, Repr

/-- Takes the signal of one stream. -/
structure SignalInlet where
  /-- The payload type that the inlet carries. -/
  payloadType : PayloadType
  state : SignalState := .disconnected
  shape : Option SignalShape := none
  axis : Option TimeAxis := none
  /-- How the values of a connected analog signal become integers. -/
  quantizer : Option Quantizer := none
  /-- The unit of the last analog signal. -/
  unitCode : UInt8 := MeasurementUnit.dimensionless
  /-- Whether the quantizer comes from the signal that is connected now. -/
  quantizerIsCurrent : Bool := false
deriving Inhabited, Repr

namespace SignalInlet

/-- The greatest identifier of frames that are not extended. -/
def standardIdMax : UInt32 := 0x7FF

/-- Checks the signal against the payload type. -/
def check (inlet : SignalInlet) : SignalInlet :=
  let unchecked := { inlet with quantizer := none, quantizerIsCurrent := false }
  let invalid := { unchecked with state := .invalid }
  match inlet.shape, inlet.axis with
  | some shape, some _ =>
    match inlet.payloadType with
    | .can | .canFd => if shape.isCan then { unchecked with state := .connected } else invalid
    | .analog =>
      match if shape.isSingleNumber then Quantizer.derive? shape else none with
      | some quantizer =>
        { unchecked with
          state := .connected
          quantizer := some quantizer
          unitCode := MeasurementUnit.codeFor shape.unit
          quantizerIsCurrent := true }
      | none => invalid
    | _ => invalid
  | _, _ => invalid

/-- A signal is connected, or the connected one has changed. -/
def connect (inlet : SignalInlet) (shape : Option SignalShape) (axis : Option TimeAxis) : SignalInlet :=
  check { inlet with shape, axis }

/-- The signal is gone. -/
def disconnect (inlet : SignalInlet) : SignalInlet :=
  let inlet := { inlet with state := .disconnected, shape := none, axis := none }
  if inlet.payloadType = .analog then { inlet with quantizerIsCurrent := false, quantizer := none } else inlet

/-- The inlet carries another payload type. -/
def retype (inlet : SignalInlet) (payloadType : PayloadType) : SignalInlet :=
  let inlet := { inlet with payloadType, quantizer := none, quantizerIsCurrent := false }
  if inlet.shape.isNone && inlet.axis.isNone then { inlet with state := .disconnected } else inlet.check

/-- The most data bytes of a CAN frame. -/
def canLimit (flexible : Bool) : Nat := if flexible then CanFrame.flexibleLimit else CanFrame.classicLimit

/-- The packet of a CAN message that was seen at a time. -/
def canPacket (flexible : Bool) (interfaceId : UInt32) (message : CanMessage) (timestamp : UInt64) : Packet :=
  let frame :=
    (CanFrame.ofIdentifier message.identifier message.payload).withExtended (standardIdMax < message.identifier)
  .ofPayload interfaceId timestamp (if flexible then .canFd frame else .can frame)

/-- The packets of CAN messages, those with more data than the payload type takes left out; none where a time
overflows. -/
def canPackets? (flexible : Bool) (interfaceId : UInt32) (axis : TimeAxis) (messages : List CanMessage) :
    Option (List Packet) :=
  (messages.filter fun message => message.length.toNat ≤ canLimit flexible).mapM fun message =>
    (axis.timeOf? message.tick).map (canPacket flexible interfaceId message)

/-- The analog block of evenly spaced values. -/
def analogBlock (inlet : SignalInlet) (axis : TimeAxis) (quantizer : Quantizer) (values : List Binary64) :
    AnalogBlock where
  width := quantizer.width
  unit := inlet.unitCode
  sampleInterval := axis.interval.narrow
  offset := quantizer.offset.narrow
  scale := quantizer.scale.narrow
  samples := values.map quantizer.quantize

/-- The packets of a batch, an empty list unless a signal of that kind is connected; no list at all where a time
overflows. -/
def packets? (inlet : SignalInlet) (interfaceId : UInt32) (batch : SignalBatch) : Option (List Packet) :=
  match inlet.state, inlet.axis with
  | .connected, some axis =>
    match inlet.payloadType, batch with
    | .can, .can messages => canPackets? false interfaceId axis messages
    | .canFd, .can messages => canPackets? true interfaceId axis messages
    | .analog, .analog startTick values =>
      match inlet.quantizer with
      | some quantizer =>
        (axis.timeOf? startTick).map fun timestamp =>
          [.ofPayload interfaceId timestamp (.analog (inlet.analogBlock axis quantizer values))]
      | none => some []
    | _, _ => some []
  | _, _ => some []

end SignalInlet

end CaptureProtocol
