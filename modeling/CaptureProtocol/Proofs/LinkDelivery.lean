import CaptureProtocol.Proofs.CaptureBooks
import CaptureProtocol.Proofs.EthernetFrames
import CaptureProtocol.Proofs.RoundTrip
import CaptureProtocol.Proofs.SinkDelivery
import CaptureProtocol.Proofs.TickTimes
import Mathlib

/-!
# From a signal to a receiver

* `LoopbackQueue.sendAll_waiting` — frames pass the queue as they are;
* `SignalBatch.Arrives` — what a batch of a connected signal arrives as;
* `SignalBatch.arrives_of_parts` — the packets of a batch, in whatever parts they come, hold just that;
* `CaptureModule.send_delivers` — a batch of a live stream reaches an open stream of a sink, unless one of its times
  overflows: then nothing is sent.
-/

namespace CaptureProtocol

/-! ### The queue -/

/-- An open queue refuses nothing; what it does not drop waits, wrapped, behind what waited before. -/
theorem LoopbackQueue.sendAll_waiting {queue : LoopbackQueue} (hopen : queue.isOpen = true) (frames : List Bytes) :
    (sendAll queue frames).2 = .ok () ∧ queue.dropped ≤ (sendAll queue frames).1.dropped
      ∧ ((sendAll queue frames).1.dropped = queue.dropped →
        (sendAll queue frames).1.waiting = queue.waiting ++ frames.map (Ethernet.wrap queue.source)) := by
  induction frames generalizing queue with
  | nil => exact ⟨rfl, le_rfl, fun _ => (List.append_nil _).symm⟩
  | cons frame frames ih =>
    have hsend : FrameSender.send queue frame
        = if queue.latest.length < queue.room then
            ({ queue with latest := Ethernet.wrap queue.source frame :: queue.latest, sent := queue.sent + 1 }, .ok ())
          else ({ queue with dropped := queue.dropped + 1 }, .ok ()) := by
      show queue.send frame = _
      rw [LoopbackQueue.send, hopen]
      rfl
    rw [sendAll, hsend]
    split_ifs with hroom
    · obtain ⟨hok, hmore, hwaiting⟩ :=
        @ih { queue with latest := Ethernet.wrap queue.source frame :: queue.latest, sent := queue.sent + 1 } hopen
      refine ⟨hok, hmore, fun hkept => (hwaiting hkept).trans ?_⟩
      rw [waiting, waiting, List.reverse_cons, List.append_assoc, List.singleton_append, List.map_cons]
    · obtain ⟨hok, hmore, -⟩ := @ih { queue with dropped := queue.dropped + 1 } hopen
      -- what drops a frame has dropped more
      have hless : queue.dropped < (sendAll { queue with dropped := queue.dropped + 1 } frames).1.dropped := hmore
      exact ⟨hok, hless.le, fun hkept => (hless.ne hkept.symm).elim⟩

/-! ### What a batch arrives as -/

/-- The CAN frame that a message arrives as which was seen at a time. -/
def CanMessage.arrived (message : CanMessage) (timestamp : UInt64) : ReceivedCan where
  timestamp
  arbitrationId := message.identifier &&& 0x1FFFFFFF
  extended := decide (0x7FF < message.identifier)
  data := message.data.take message.length.toNat

/-- The CAN frames that messages arrive as, those with too much data left out; none where a time overflows. -/
def CanMessage.arrivedAll? (axis : TimeAxis) (limit : Nat) (messages : List CanMessage) : Option (List ReceivedCan) :=
  (messages.filter (·.length.toNat ≤ limit)).mapM fun message => (axis.timeOf? message.tick).map message.arrived

/-- What a batch of a signal arrives as under a payload type: CAN frames in one or more batches, or one batch of
physical values. -/
inductive SignalBatch.Arrives (shape : SignalShape) (axis : TimeAxis) :
    PayloadType → SignalBatch → List ReceivedBatch → Prop
  | can {messages : List CanMessage} {parts : List (List ReceivedCan)}
      (hparts : CanMessage.arrivedAll? axis 8 messages = some parts.flatten) :
      Arrives shape axis .can (.can messages) (parts.map .can)
  | canFd {messages : List CanMessage} {parts : List (List ReceivedCan)}
      (hparts : CanMessage.arrivedAll? axis 64 messages = some parts.flatten) :
      Arrives shape axis .canFd (.can messages) (parts.map .can)
  | analog {startTick timestamp : UInt64} {values : List Binary64} {quantizer : Quantizer}
      (htime : axis.timeOf? startTick = some timestamp) (hquantizer : Quantizer.derive? shape = some quantizer) :
      Arrives shape axis .analog (.analog startTick values)
        [.analog
          { timestamp
            sampleInterval := Binary64.widen axis.interval.narrow
            unit := (MeasurementUnit.symbol? (MeasurementUnit.codeFor shape.unit)).getD ""
            values := AnalogBlock.physicalValues
              { scale := quantizer.scale.narrow
                offset := quantizer.offset.narrow
                samples := values.map quantizer.quantize } }]

/-! ### Packets that arrive -/

theorem Payload.canonical_of_isData {payload : Payload} (h : payload.payloadType.isData = true) :
    payload.canonical = payload := by
  cases payload with
  | can | canFd | analog | undefined => rfl
  | interfaceStatus | captureModuleStatus => cases h

/-- Data that arrives goes to subscribers. -/
theorem Encoder.isDeliverable_delivered (encoder : Encoder) {packet : Packet} (hsendable : packet.Sendable)
    (hdata : packet.payloadType.isData = true) : DataSink.isDeliverable (encoder.delivered packet) = true := by
  have hpayload : (encoder.delivered packet).payload = packet.payload := Payload.canonical_of_isData hdata
  have htype : (encoder.delivered packet).payloadType = packet.payloadType := by
    rw [Packet.payloadType, hpayload]
    rfl
  have hkind : packet.messageType = .data := by
    have hcarried := hsendable.kind
    rw [(PayloadType.isData_iff _).mp hdata, Option.some.injEq] at hcarried
    exact hcarried.symm
  have hvalid : (encoder.delivered packet).isValid = true := by
    rw [Packet.isValid, htype, hpayload, hsendable.kind, hsendable.valid]
    show ((protocolVersion == protocolVersion) && (some packet.messageType == some packet.messageType) && true) = true
    rw [beq_self_eq_true, beq_self_eq_true]
    rfl
  rw [DataSink.isDeliverable, hvalid]
  show (true && packet.messageType != .status) = true
  rw [hkind]
  rfl

/-! ### Identifiers of CAN frames -/

namespace CanFrame

theorem or_and_distrib (left right mask : UInt32) :
    (left ||| right) &&& mask = left &&& mask ||| right &&& mask :=
  UInt32.toBitVec_inj.mp BitVec.and_or_distrib_right

/-- The identifier that was set, whether or not the frame was marked. -/
theorem arbitrationId_withExtended (identifier : UInt32) (data : Bytes) (extended : Bool) :
    ((ofIdentifier identifier data).withExtended extended).arbitrationId = identifier &&& idMask := by
  have hset : extendedBit &&& idMask = 0 := by decide
  have hkept : ~~~extendedBit &&& idMask = idMask := by decide
  cases extended
  · show identifier &&& idMask &&& ~~~extendedBit &&& idMask = _
    rw [UInt32.and_assoc (identifier &&& idMask), hkept, UInt32.and_assoc, UInt32.and_self]
  · show (identifier &&& idMask ||| extendedBit) &&& idMask = _
    rw [or_and_distrib, hset, UInt32.or_zero, UInt32.and_assoc, UInt32.and_self]

/-- The mark that was set. -/
theorem isExtended_withExtended (frame : CanFrame) (extended : Bool) :
    (frame.withExtended extended).isExtended = extended := by
  have hclear : ~~~extendedBit &&& extendedBit = 0 := by decide
  cases extended
  · show (frame.id &&& ~~~extendedBit &&& extendedBit != 0) = false
    rw [UInt32.and_assoc, hclear, UInt32.and_zero]
    rfl
  · show ((frame.id ||| extendedBit) &&& extendedBit != 0) = true
    rw [or_and_distrib, UInt32.and_self, bne_iff_ne]
    intro hzero
    have hbit : extendedBit ≠ 0 := by decide
    exact hbit (UInt32.or_eq_zero_iff.mp hzero).2

end CanFrame

/-! ### What packets that arrive hold -/

namespace SinkStream

/-- CAN packets in parts: the parts that hold something make batches, and these hold all their frames. -/
theorem filterMap_batch?_can (parts : List (List Packet)) :
    ∃ groups : List (List ReceivedCan), parts.filterMap (batch? .can) = groups.map .can
      ∧ groups.flatten = parts.flatten.filterMap receivedCan? := by
  induction parts with
  | nil => exact ⟨[], rfl, rfl⟩
  | cons part parts ih =>
    obtain ⟨groups, hgroups, hframes⟩ := ih
    have hpart : batch? .can part
        = if (part.filterMap receivedCan?).isEmpty then none else some (.can (part.filterMap receivedCan?)) := rfl
    rw [List.flatten_cons, List.filterMap_append]
    by_cases hempty : (part.filterMap receivedCan?).isEmpty = true
    · rw [if_pos hempty] at hpart
      rw [List.filterMap_cons_none hpart, List.isEmpty_iff.mp hempty, List.nil_append]
      exact ⟨groups, hgroups, hframes⟩
    · rw [if_neg hempty] at hpart
      rw [List.filterMap_cons_some hpart, hgroups]
      exact ⟨part.filterMap receivedCan? :: groups, rfl, by rw [List.flatten_cons, hframes]⟩

/-- One packet in parts makes one batch. -/
theorem filterMap_batch?_singleton {payloadType : PayloadType} {parts : List (List Packet)} {packet : Packet}
    (h : parts.flatten = [packet]) : parts.filterMap (batch? payloadType) = (batch? payloadType [packet]).toList := by
  induction parts with
  | nil => cases h
  | cons part parts ih =>
    rcases List.append_eq_singleton_iff.mp h with ⟨rfl, hrest⟩ | ⟨rfl, hrest⟩
    · rw [List.filterMap_cons_none (batch?_nil payloadType)]
      exact ih hrest
    · have hnothing : parts.filterMap (batch? payloadType) = [] := by
        refine List.filterMap_eq_nil_iff.mpr fun part hpart => ?_
        rw [List.flatten_eq_nil_iff.mp hrest part hpart]
        exact batch?_nil payloadType
      rw [List.filterMap_cons, hnothing]
      cases batch? payloadType [packet] <;> rfl

end SinkStream

/-- The address does not matter to what a packet holds. -/
theorem SinkStream.receivedCan?_delivered (encoder : Encoder) (packet : Packet) :
    receivedCan? (encoder.delivered packet) = receivedCan? packet := by
  obtain ⟨version, messageType, deviceId, interfaceId, streamId, timestamp, flags, payload⟩ := packet
  cases payload <;> rfl

/-- A packet of a message arrives as its CAN frame. -/
theorem SignalInlet.canPacket_arrives (flexible : Bool) (interfaceId : UInt32) (message : CanMessage)
    (timestamp : UInt64) :
    SinkStream.receivedCan? (canPacket flexible interfaceId message timestamp) = some (message.arrived timestamp) := by
  have hframe : some (⟨timestamp,
        CanFrame.arbitrationId (.withExtended (.ofIdentifier message.identifier message.payload)
          (standardIdMax < message.identifier)),
        CanFrame.isExtended (.withExtended (.ofIdentifier message.identifier message.payload)
          (standardIdMax < message.identifier)),
        message.payload⟩ : ReceivedCan) = some (message.arrived timestamp) := by
    rw [CanFrame.arbitrationId_withExtended, CanFrame.isExtended_withExtended]
    rfl
  cases flexible <;> exact hframe

/-- The packets of messages arrive as the CAN frames of those that are not too long. -/
theorem SignalInlet.canPackets?_arrive {flexible : Bool} {interfaceId : UInt32} {axis : TimeAxis}
    {messages : List CanMessage} {packets : List Packet}
    (h : canPackets? flexible interfaceId axis messages = some packets) (encoder : Encoder) :
    CanMessage.arrivedAll? axis (canLimit flexible) messages
      = some ((packets.map encoder.delivered).filterMap SinkStream.receivedCan?) := by
  rw [canPackets?, mapM_eq_some_iff] at h
  rw [CanMessage.arrivedAll?, mapM_eq_some_iff]
  generalize messages.filter (fun message => decide (message.length.toNat ≤ canLimit flexible)) = kept at h ⊢
  induction h with
  | nil => exact .nil
  | @cons message packet _ _ hpacket _ ih =>
    obtain ⟨timestamp, htime, rfl⟩ := Option.map_eq_some_iff.mp hpacket
    have hreceived := (SinkStream.receivedCan?_delivered encoder _).trans
      (canPacket_arrives flexible interfaceId message timestamp)
    rw [List.map_cons, List.filterMap_cons_some hreceived]
    exact .cons (by rw [htime, Option.map_some]) ih

namespace SignalBatch

variable {inlet : SignalInlet} {shape : SignalShape} {axis : TimeAxis} {batch : SignalBatch}

/-- The packets of a batch of a connected signal hold what the batch arrives as, in whatever parts they come. -/
theorem arrives_of_parts (hsettled : inlet.Settled) (hconnected : inlet.state = .connected)
    (hshape : inlet.shape = some shape) (haxis : inlet.axis = some axis) (hfits : batch.fits inlet.payloadType = true)
    {interfaceId : UInt32} {packets : List Packet} (hpackets : inlet.packets? interfaceId batch = some packets)
    {encoder : Encoder} {parts : List (List Packet)} (hparts : parts.flatten = packets.map encoder.delivered) :
    batch.Arrives shape axis inlet.payloadType (parts.filterMap (SinkStream.batch? inlet.payloadType)) := by
  rw [SignalInlet.packets?, hconnected, haxis] at hpackets
  cases htype : inlet.payloadType with
  | can =>
    rw [htype] at hfits hpackets
    cases batch with
    | analog => cases hfits
    | can messages =>
      obtain ⟨groups, hgroups, hframes⟩ := SinkStream.filterMap_batch?_can parts
      rw [hgroups]
      have hcan : SignalInlet.canPackets? false interfaceId axis messages = some packets := hpackets
      have harrive := SignalInlet.canPackets?_arrive hcan encoder
      have hlimit : SignalInlet.canLimit false = 8 := rfl
      rw [← hparts, ← hframes, hlimit] at harrive
      exact .can harrive
  | canFd =>
    rw [htype] at hfits hpackets
    cases batch with
    | analog => cases hfits
    | can messages =>
      obtain ⟨groups, hgroups, hframes⟩ := SinkStream.filterMap_batch?_can parts
      have hsame : SinkStream.batch? .canFd = SinkStream.batch? .can := rfl
      rw [hsame, hgroups]
      have hcan : SignalInlet.canPackets? true interfaceId axis messages = some packets := hpackets
      have harrive := SignalInlet.canPackets?_arrive hcan encoder
      have hlimit : SignalInlet.canLimit true = 64 := rfl
      rw [← hparts, ← hframes, hlimit] at harrive
      exact .canFd harrive
  | analog =>
    obtain ⟨quantizer, hderive, hquantizer, hunit⟩ := hsettled.analog hconnected htype hshape
    rw [htype] at hfits hpackets
    cases batch with
    | can => cases hfits
    | analog startTick values =>
      rw [hquantizer] at hpackets
      obtain ⟨timestamp, htime, rfl⟩ := Option.map_eq_some_iff.mp hpackets
      rw [SinkStream.filterMap_batch?_singleton hparts]
      have hblock : SinkStream.batch? .analog [encoder.delivered (.ofPayload interfaceId timestamp
            (.analog (inlet.analogBlock axis quantizer values)))]
          = some (.analog
            { timestamp
              sampleInterval := Binary64.widen axis.interval.narrow
              unit := (MeasurementUnit.symbol? inlet.unitCode).getD ""
              values := (inlet.analogBlock axis quantizer values).physicalValues ++ [] }) := rfl
      rw [hblock, List.append_nil, hunit]
      exact .analog htime hderive
  | _ =>
    rw [htype] at hfits
    cases batch <;> cases hfits

end SignalBatch

/-! ### Sending -/

/-- The frames of a batch go to an open queue, all of them. -/
theorem CaptureStream.send_waiting {resources : LinkResources LoopbackQueue} {held : Nat → Option StreamLabel}
    {key : Nat} {stream : CaptureStream} (h : resources.InStep held) (hkey : held key = some stream.label)
    (husable : resources.limits.Usable) (hopen : resources.sender.isOpen = true) {interfaceId : UInt32}
    {batch : SignalBatch} {packets : List Packet}
    (hpackets : stream.inlet.packets? interfaceId batch = some packets) :
    ∃ (encoder : Encoder) (frames : List Bytes), encoder.binding = stream.label.binding resources.deviceId
      ∧ frames = encoder.writeFrames resources.limits (layout resources.limits packets)
      ∧ (stream.send resources interfaceId batch).2.2 = .ok frames.length
      ∧ ((stream.send resources interfaceId batch).1.sender.dropped = resources.sender.dropped →
        (stream.send resources interfaceId batch).1.sender.waiting
          = resources.sender.waiting ++ frames.map (Ethernet.wrap resources.sender.source)) := by
  rcases send_cases h hkey husable interfaceId batch with
    ⟨answer, hsend, hnothing⟩ | ⟨found, encoder, frames, sent, hfound, -, hbinding, hencode, hsent, hresources, hanswer⟩
  · rw [hpackets] at hnothing
    rcases hnothing with ⟨hnone, -⟩ | ⟨hempty, rfl⟩
    · exact (Option.some_ne_none _ hnone).elim
    · cases hempty
      obtain ⟨encoder, -, hbinding⟩ := exists_encoder h hkey
      refine ⟨encoder, [], hbinding, rfl, by rw [hsend]; rfl, fun _ => ?_⟩
      rw [hsend, List.map_nil, List.append_nil]
  · rw [hpackets, Option.some_inj] at hfound
    subst hfound
    obtain ⟨hok, -, hwaiting⟩ := LoopbackQueue.sendAll_waiting hopen frames
    rw [hsent] at hok hwaiting
    obtain ⟨-, -, hframes, -⟩ := Encoder.encode_ok hencode
    refine ⟨encoder, frames, hbinding, hframes, ?_, ?_⟩
    · rcases hanswer with ⟨error, hrefused, -⟩ | ⟨-, hanswer⟩
      · rw [hok] at hrefused
        cases hrefused
      · rw [hanswer]
    · rw [hresources]
      exact hwaiting

/-! ### Receiving -/

/-- Frames that were wrapped are received as they were written. -/
theorem carries_unwrapped {source : MacAddress} (hsource : source.length = Ethernet.addressSize) {frames : List Bytes}
    {arrivals : List Arrival} (h : arrivals.map Arrival.bytes = frames.map (Ethernet.wrap source)) :
    List.Forall₂ Carries frames (arrivals.map Arrival.unwrapped)
      ∧ ∀ arrival ∈ arrivals, Ethernet.unwrap? arrival.bytes = some arrival.unwrapped.bytes := by
  induction frames generalizing arrivals with
  | nil =>
    rw [List.map_nil, List.map_eq_nil_iff] at h
    subst h
    exact ⟨.nil, List.forall_mem_nil _⟩
  | cons frame frames ih =>
    obtain ⟨arrival, rest, rfl, hbytes, hrest⟩ := List.map_eq_cons_iff.mp h
    obtain ⟨hcarries, hunwrap⟩ := ih hrest
    have hframe : Ethernet.unwrap? arrival.bytes = some frame := by rw [hbytes, Ethernet.unwrap?_wrap hsource]
    have hinner : arrival.unwrapped.bytes = frame := by rw [Arrival.unwrapped, hframe, Option.getD_some]
    refine ⟨.cons ⟨0, ?_⟩ hcarries, List.forall_mem_cons.mpr ⟨?_, hunwrap⟩⟩
    · rw [hinner, List.replicate_zero, List.append_nil]
    · rw [hframe, hinner]

/-- An open stream of the address of an encoder takes the data packets of a transmission, in parts, one for each
frame. -/
theorem DataSink.takeArrivals_sent {sink : DataSink} {handle : Nat} {receiver : SinkStream} {arrivals : List Arrival}
    {encoder : Encoder} {limits : FrameLimits} {packets : List Packet} {source : MacAddress} (hsink : sink.Reachable)
    (hreceiver : sink.receiver? handle = some receiver) (hopen : .receiver handle ∈ sink.router.handlers receiver.key)
    (husable : limits.Usable) (hsource : source.length = Ethernet.addressSize)
    (hpackets : ∀ packet ∈ packets, packet.Sendable ∧ packet.payloadType.isData = true
      ∧ encoder.addressOf packet = receiver.key)
    (harrivals : arrivals.map Arrival.bytes
      = (encoder.writeFrames limits (layout limits packets)).map (Ethernet.wrap source))
    (hundisturbed : sink.decoder.Undisturbed (arrivals.map Arrival.unwrapped)) :
    ∃ parts : List (List Packet), parts.length = arrivals.length ∧ parts.flatten = packets.map encoder.delivered
      ∧ (sink.takeArrivals arrivals).receiver? handle
        = some (parts.foldl (fun stream part => stream.receive receiver.key part) receiver) := by
  obtain ⟨hcarries, hunwrap⟩ := carries_unwrapped hsource harrivals
  have hreceive := Decoder.receive_laidOut husable (layout_laidOut limits packets)
    (fun packet hpacket => (hpackets packet hpacket).1) encoder sink.decoder hcarries hundisturbed
  obtain ⟨parts, hcount, hparts, hafter⟩ := takeArrivals_receiver hsink.distinct hopen hreceiver hunwrap (by
    rw [hreceive]
    intro arrived harrived
    obtain ⟨packet, hpacket, rfl⟩ := List.mem_map.mp harrived
    obtain ⟨hsendable, hdata, haddress⟩ := hpackets packet hpacket
    exact ⟨encoder.isDeliverable_delivered hsendable hdata, haddress⟩)
  rw [hreceive] at hparts
  exact ⟨parts, hcount, hparts, hafter⟩

/-! ### Delivery -/

namespace CaptureModule

variable {capture : CaptureModule LoopbackQueue} {owner key : Nat} {interface : BusInterface} {stream : CaptureStream}
  {batch : SignalBatch} {sink : DataSink} {handle : Nat} {receiver : SinkStream} {arrivals : List Arrival}

/-- A batch of a live stream with a connected signal, sent through a queue that drops nothing: an open stream of the
same address and payload type queues what the batch arrives as, as far as there is room.  A batch whose packets need a
time that overflows is not sent. -/
theorem send_delivers (hcapture : Reachable capture) (howner : owner ∈ capture.listed)
    (hinterface : capture.interfaces[owner]? = some interface) (hmember : key ∈ interface.streams)
    (hstream : capture.streams[key]? = some stream) (hconnected : stream.inlet.state = .connected)
    (hfits : batch.fits stream.payloadType = true) (hqueue : capture.resources.sender.isOpen = true)
    (hsource : capture.resources.sender.source.length = Ethernet.addressSize)
    (hkept : (capture.send key batch).1.resources.sender.dropped = capture.resources.sender.dropped)
    (harrivals : arrivals.map Arrival.bytes
      = (capture.send key batch).1.resources.sender.waiting.drop capture.resources.sender.waiting.length)
    (hsink : sink.Reachable) (hreceiver : sink.receiver? handle = some receiver)
    (hopen : .receiver handle ∈ sink.router.handlers receiver.key)
    (haddress : receiver.key = ⟨capture.device.deviceId, interface.id, stream.id⟩)
    (htype : receiver.payloadType = stream.payloadType)
    (hundisturbed : sink.decoder.Undisturbed (arrivals.map Arrival.unwrapped)) :
    ∃ shape axis, stream.inlet.shape = some shape ∧ stream.inlet.axis = some axis
      ∧ (¬ batch.InTime axis stream.payloadType →
        (capture.send key batch).2 = some (.error .overflow) ∧ arrivals = [])
      ∧ (batch.InTime axis stream.payloadType → ∃ batches after,
        batch.Arrives shape axis stream.payloadType batches ∧ batches.length ≤ arrivals.length
          ∧ (capture.send key batch).2 = some (.ok arrivals.length)
          ∧ (sink.takeArrivals arrivals).receiver? handle = some after
          ∧ after.latest
            = (batches.take (receiver.capacity - receiver.latest.length)).reverse ++ receiver.latest) := by
  have hkeeps := hcapture.wellKept
  have hmemberAt : key ∈ capture.streamsAt owner := by rwa [streamsAt_of_getElem? hinterface]
  obtain ⟨found, hfound, hfoundOwner⟩ := hkeeps.owner hmemberAt
  obtain ⟨live, hlive, hheld⟩ := hkeeps.live ⟨owner, howner, hmemberAt⟩
  rw [hstream, Option.some.injEq] at hfound hlive
  subst hfound hlive
  have hinterfaceId : capture.interfaceIdOf stream = interface.id := by
    rw [interfaceIdOf, hfoundOwner, hinterface, Option.map_some, Option.getD_some]
  have hsettled := hkeeps.settled stream (List.mem_of_getElem? hstream)
  obtain ⟨shape, axis, hshape, haxis⟩ := hsettled.signal hconnected
  rw [send, updateStream_eq hstream] at hkept harrivals ⊢
  refine ⟨shape, axis, hshape, haxis, fun hlate => ?_, fun hinTime => ?_⟩
  · have hoverflow : stream.inlet.packets? (capture.interfaceIdOf stream) batch = none :=
      (hsettled.packets?_eq_none_iff_of_axis hconnected haxis).mpr hlate
    rw [CaptureStream.send_of_overflow hoverflow] at harrivals ⊢
    rw [List.drop_length, List.map_eq_nil_iff] at harrivals
    exact ⟨rfl, harrivals⟩
  have hsome : stream.inlet.packets? (capture.interfaceIdOf stream) batch ≠ none := fun hnone =>
    (hsettled.packets?_eq_none_iff_of_axis hconnected haxis).mp hnone hinTime
  obtain ⟨packets, hpackets⟩ := Option.ne_none_iff_exists'.mp hsome
  -- the send
  obtain ⟨encoder, frames, hbinding, hframes, hanswer, hwaiting⟩ :=
    CaptureStream.send_waiting hkeeps.inStep hheld hkeeps.usable hqueue hpackets
  rw [hwaiting hkept, List.drop_left] at harrivals
  have hcount : frames.length = arrivals.length := by
    have hlengths := congrArg List.length harrivals
    rw [List.length_map, List.length_map] at hlengths
    exact hlengths.symm
  rw [hframes] at harrivals
  -- its packets
  have hdata : stream.payloadType.isData = true := by
    revert hfits
    cases batch <;> cases stream.payloadType <;> intro hfits <;> first | rfl | cases hfits
  have htyped : ∀ packet ∈ packets,
      packet.payloadType = stream.payloadType ∧ packet.payloadType.isData = true := by
    intro packet hpacket
    have hsame := (SignalInlet.mem_packets? hpackets hpacket).2.1
    exact ⟨hsame, (congrArg PayloadType.isData hsame).trans hdata⟩
  have haddressed : ∀ packet ∈ packets, packet.Sendable
      ∧ packet.payloadType.isData = true ∧ encoder.addressOf packet = receiver.key := by
    intro packet hpacket
    obtain ⟨hsendable, -, hid, -⟩ := SignalInlet.mem_packets? hpackets hpacket
    have hdevice : encoder.deviceId = capture.device.deviceId :=
      (congrArg Encoder.deviceId hbinding).trans hkeeps.device
    have hstreamId : encoder.streamId = stream.id := congrArg Encoder.streamId hbinding
    refine ⟨hsendable, (htyped packet hpacket).2, ?_⟩
    rw [Encoder.addressOf, haddress, hdevice, hstreamId, hid, hinterfaceId]
  -- the reception
  obtain ⟨parts, hpartCount, hparts, hafter⟩ :=
    DataSink.takeArrivals_sent hsink hreceiver hopen hkeeps.usable hsource haddressed harrivals hundisturbed
  have hmatching : ∀ part ∈ parts, ∀ packet ∈ part,
      packet.key = receiver.key ∧ packet.payloadType = stream.payloadType := by
    intro part hpart arrived harrived
    have hmem : arrived ∈ parts.flatten := List.mem_flatten.mpr ⟨part, hpart, harrived⟩
    rw [hparts] at hmem
    obtain ⟨packet, hpacket, rfl⟩ := List.mem_map.mp hmem
    obtain ⟨hsame, hpacketData⟩ := htyped packet hpacket
    refine ⟨(haddressed packet hpacket).2.2, ?_⟩
    rw [← hsame]
    exact congrArg Payload.payloadType (Payload.canonical_of_isData hpacketData)
  refine ⟨_, _, SignalBatch.arrives_of_parts hsettled hconnected hshape haxis hfits hpackets hparts, ?_, ?_, hafter,
    SinkStream.receiveAll_latest rfl htype hmatching⟩
  · exact (List.length_filterMap_le _ _).trans hpartCount.le
  · rw [hanswer, hcount]

/-- The stream of `sendingBench`. -/
def sendingStream : CaptureStream where
  owner := 0
  id := 1
  inlet := SignalInlet.connect { payloadType := .can } (some .can) (some (.microseconds none))

/-- A module with one stream, to which a CAN signal is connected. -/
def sendingBench : CaptureModule LoopbackQueue :=
  let withInterface := (bench.perform (.addInterface .can none)).1
  let withStream := (withInterface.perform (.onInterface 0 (.addStream .can none))).1
  (withStream.perform (.onStream 0 (.connect (some .can) (some (.microseconds none))))).1

/-- A sink with one stream, which has the address of `sendingStream`. -/
def listeningSink : DataSink :=
  DataSink.perform { config := {}, decoder := { timeout := 2000 } } (.openStream ⟨3, 1, 1⟩ .can)

/-- Three messages, the second of which has too much data. -/
def benchBatch : SignalBatch :=
  .can [.ofData 1 0x123 [1, 2], .ofData 2 0x124 [1, 2, 3, 4, 5, 6, 7, 8, 9], .ofData 3 0x12345678 [3]]

/-- The frames of `benchBatch`. -/
def benchFrames : List Bytes :=
  (sendingBench.send 0 benchBatch).1.resources.sender.waiting.drop sendingBench.resources.sender.waiting.length

theorem reachable_sendingBench : Reachable sendingBench :=
  .perform (.perform (.perform (.create create_bench) trivial) (by decide +kernel)) (by decide +kernel)

set_option maxRecDepth 4096 in
theorem sendingBench_streams : sendingBench.streams = [sendingStream] := rfl

theorem reachable_listeningSink : listeningSink.Reachable := by
  have hcreate : DataSink.create {} = .ok { config := {}, decoder := { timeout := 2000 } } := rfl
  exact .perform (.create hcreate) _

/-- The first and the third message reach the sink, 5 milliseconds after its clock started. -/
theorem send_delivers_sendingBench :
    Reachable sendingBench ∧ listeningSink.Reachable
      ∧ ∃ frames batches after, frames = benchFrames ∧ frames.length = 1
        ∧ benchBatch.Arrives .can (.microseconds none) .can batches
        ∧ (listeningSink.takeArrivals (frames.map (Arrival.mk 5))).receiver? 0 = some after
        ∧ after.latest = (batches.take 1024).reverse ++ [] := by
  obtain ⟨frames, hframes⟩ : ∃ frames, frames = benchFrames := ⟨_, rfl⟩
  have harrivals : (frames.map (Arrival.mk 5)).map Arrival.bytes = benchFrames := by
    rw [List.map_map, ← hframes]
    exact List.map_id frames
  have hundisturbed : listeningSink.decoder.Undisturbed ((frames.map (Arrival.mk 5)).map Arrival.unwrapped) := by
    refine Decoder.undisturbed_of_within 5 (List.forall_mem_nil _) fun arrival harrival => ?_
    obtain ⟨wrapped, hwrapped, rfl⟩ := List.mem_map.mp harrival
    obtain ⟨bytes, -, rfl⟩ := List.mem_map.mp hwrapped
    have hsoon : 5 - 5 < 2000 := Nat.zero_lt_succ _
    exact ⟨le_refl 5, hsoon⟩
  have hone : benchFrames.length = 1 := by decide +kernel
  have haddress : (⟨3, 1, 1⟩ : StreamKey) = ⟨sendingBench.device.deviceId, 1, sendingStream.id⟩ := by decide +kernel
  obtain ⟨shape, axis, hshape, haxis, -, hdelivers⟩ :=
    send_delivers reachable_sendingBench (by decide +kernel)
      (by decide +kernel : sendingBench.interfaces[0]? = some { id := 1, kind := .can, streams := [0] })
      (List.mem_singleton.mpr rfl) (by rw [sendingBench_streams]; rfl) rfl
      (rfl : benchBatch.fits sendingStream.payloadType = true) (by decide +kernel) (by decide +kernel)
      (by decide +kernel) harrivals reachable_listeningSink
      (rfl : listeningSink.receiver? 0 = some ⟨⟨3, 1, 1⟩, .can, 1024, [], 0, 0, 0⟩) (List.mem_singleton.mpr rfl)
      haddress rfl hundisturbed
  cases hshape
  cases haxis
  have hinTime := SignalBatch.inTime_of_num_le (by decide : (TimeAxis.microseconds none).num.toNat ≤ 18446744073)
    benchBatch sendingStream.payloadType
  obtain ⟨batches, after, harrives, -, -, hafter, hlatest⟩ := hdelivers hinTime
  exact ⟨reachable_sendingBench, reachable_listeningSink, frames, batches, after, hframes, hframes ▸ hone, harrives,
    hafter, hlatest⟩

end CaptureModule

end CaptureProtocol
