import CaptureProtocol.Config
import CaptureProtocol.Frame.Decoder
import CaptureProtocol.Routing.Publication
import CaptureProtocol.Sink.Stream
import CaptureProtocol.StatusBoard

/-!
# Data sinks

A sink decodes frames, keeps a board of status reports and hands data packets to the subscribers of their
addresses.

* `Subscriber` — streams and observers, by handle; `Delivery` — what an observer was given;
* `DataSink` — the sink with everything that subscribes to it;
* `takeFrame`, `takeEthernetFrame` — take a frame and give back all its packets;
* `openStream`, `moveStream`, `closeStream`, `dropStream` — streams; `detach` — the end of the sink, which its
  streams outlive.
-/

namespace CaptureProtocol

/-- What subscribes to addresses. -/
inductive Subscriber where
  /-- A stream of the sink. -/
  | receiver (handle : Nat)
  /-- An observer outside of the sink. -/
  | observer (handle : Nat)
deriving DecidableEq, Inhabited, Repr

/-- Packets that an observer was given. -/
structure Delivery where
  observer : Nat
  /-- The address under which the packets were published. -/
  key : StreamKey
  packets : List Packet
deriving DecidableEq, Inhabited, Repr

/-- Decodes frames and hands on what they hold. -/
structure DataSink where
  config : LinkConfig
  decoder : Decoder
  router : Router Subscriber := {}
  board : StatusBoard := {}
  frames : Nat := 0
  /-- Packets that were not valid. -/
  invalidPackets : Nat := 0
  /-- The streams by handle; a dropped one leaves an empty place. -/
  receivers : List (Option SinkStream) := []
  /-- What observers were given, latest first. -/
  observed : List Delivery := []
  /-- Whether the sink still exists; its streams outlive it. -/
  attached : Bool := true
deriving Inhabited, Repr

namespace DataSink

/-- A new sink; refused where the configuration cannot work. -/
def create (config : LinkConfig) : Except LinkError DataSink := do
  config.validate
  return { config, decoder := { timeout := config.reassemblyTimeout } }

/-- The stream of a handle. -/
def receiver? (sink : DataSink) (handle : Nat) : Option SinkStream := sink.receivers[handle]?.join

/-- Changes a stream. -/
def modifyReceiver (sink : DataSink) (handle : Nat) (change : SinkStream → SinkStream) : DataSink :=
  { sink with receivers := sink.receivers.modify handle (Option.map change) }

/-! ### Frames -/

/-- What subscribers do with packets: streams take them, observers are noted. -/
def react : Reaction Subscriber DataSink
  | .receiver handle, key, packets, sink => sink.modifyReceiver handle (·.receive key packets)
  | .observer handle, key, packets, sink => { sink with observed := ⟨handle, key, packets⟩ :: sink.observed }

/-- Takes one packet: counts it when it is not valid, else notes it when it is a status report. -/
def takeStatus (sink : DataSink) (packet : Packet) : DataSink :=
  if !packet.isValid then { sink with invalidPackets := sink.invalidPackets + 1 }
  else if packet.messageType = .status then { sink with board := (sink.board.process packet).1 }
  else sink

/-- Whether a packet goes to subscribers. -/
def isDeliverable (packet : Packet) : Bool := packet.isValid && packet.messageType != .status

/-- Hands the packets of a frame that go to subscribers to these, whatever they are. -/
def handOn {H W : Type} (routes : W → Router H) (react : Reaction H W) (packets : List Packet) (world : W) : W :=
  (dispatch routes react (packets.filter isDeliverable) world).1

/-- Takes a frame and gives back all its packets. -/
def takeFrame (now : Nat) (sink : DataSink) (frame : Bytes) : DataSink × List Packet :=
  let (decoder, packets) := sink.decoder.decode now frame
  let sink := packets.foldl takeStatus { sink with decoder, frames := sink.frames + 1 }
  (handOn (·.router) react packets sink, packets)

/-- Takes an Ethernet frame; frames of other protocols are passed over. -/
def takeEthernetFrame (now : Nat) (sink : DataSink) (frame : Bytes) : DataSink × List Packet :=
  match Ethernet.unwrap? frame with
  | some payload => sink.takeFrame now payload
  | none => (sink, [])

/-- Forgets the parts of payloads that are stale, and counts the payloads. -/
def expire (now : Nat) (sink : DataSink) : DataSink × Nat :=
  let (decoder, count) := sink.decoder.expire now
  ({ sink with decoder }, count)

/-! ### Subscriptions -/

/-- Subscribes an observer. -/
def subscribe (sink : DataSink) (key : StreamKey) (observer : Nat) : DataSink × Bool :=
  let (router, changed) := sink.router.subscribe key (.observer observer)
  ({ sink with router }, changed)

/-- Ends the subscription of an observer. -/
def unsubscribe (sink : DataSink) (key : StreamKey) (observer : Nat) : DataSink × Bool :=
  let (router, changed) := sink.router.unsubscribe key (.observer observer)
  ({ sink with router }, changed)

/-- Opens a stream, which subscribes to its address; answers its handle. -/
def openStream (sink : DataSink) (key : StreamKey) (payloadType : PayloadType) : Nat × DataSink :=
  let handle := sink.receivers.length
  (handle,
    { sink with
      receivers := sink.receivers ++ [some { key, payloadType, capacity := sink.config.outputQueueCapacity }]
      router := (sink.router.subscribe key (.receiver handle)).1 })

/-- Gives a stream another address, to which its subscription moves. -/
def moveStream (sink : DataSink) (handle : Nat) (key : StreamKey) : DataSink :=
  match sink.receiver? handle with
  | none => sink
  | some stream =>
    if stream.key = key then sink
    else
      let router := if sink.attached then sink.router.move stream.key key (.receiver handle) else sink.router
      { sink with router }.modifyReceiver handle fun stream => { stream with key }

/-- Ends the subscription of a stream. -/
def closeStream (sink : DataSink) (handle : Nat) : DataSink :=
  match sink.receiver? handle with
  | none => sink
  | some stream =>
    if sink.attached then { sink with router := (sink.router.unsubscribe stream.key (.receiver handle)).1 }
    else sink

/-- Ends a stream. -/
def dropStream (sink : DataSink) (handle : Nat) : DataSink :=
  { sink.closeStream handle with receivers := sink.receivers.set handle none }

/-- Hands packets to a stream directly. -/
def receiveDirectly (sink : DataSink) (handle : Nat) (key : StreamKey) (packets : List Packet) : DataSink :=
  sink.modifyReceiver handle (·.receive key packets)

/-- The end of the sink: there is no router any more. -/
def detach (sink : DataSink) : DataSink := { sink with attached := false, router := {} }

/-- Takes what observers were given, in the order of the calls. -/
def takeObserved (sink : DataSink) : List Delivery × DataSink :=
  (sink.observed.reverse, { sink with observed := [] })

end DataSink

end CaptureProtocol
