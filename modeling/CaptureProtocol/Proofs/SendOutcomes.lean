import CaptureProtocol.Proofs.CaptureHistory
import CaptureProtocol.Proofs.LinkDelivery
import Mathlib

/-!
# What a send can answer

* `sendAll_refused` — the error of a transmission is what the sender answered to one of the frames;
* `SignalInlet.isValid_of_mem_packets?` — all packets of a batch are valid, whatever the batch holds;
* `Reachable.packetsDropped_eq_zero` — no stream of a reachable module has ever dropped a packet;
* `CaptureModule.WellKept.send_overflow_iff`, `send_frames` — when a send breaks off, and what becomes of the packets
  when it does not;
* `CaptureModule.send_encodes` — the packets of a live stream are always encoded, and the answer is that of the sender,
  unless a time overflows; `send_overflows`: a live stream where one does.
-/

namespace CaptureProtocol

/-- A sender that refuses answers an error to the first frame that it does not take. -/
theorem sendAll_refused {T : Type} [FrameSender T] {frames : List Bytes} {sender : T} {error : LinkError}
    (h : (sendAll sender frames).2 = .error error) :
    ∃ taken frame rest, frames = taken ++ frame :: rest ∧ (sendAll sender taken).2 = .ok ()
      ∧ (FrameSender.send (sendAll sender taken).1 frame).2 = .error error := by
  induction frames generalizing sender with
  | nil => cases h
  | cons first frames ih =>
    rw [sendAll] at h
    rcases houtcome : FrameSender.send sender first with ⟨next, cause | _⟩
    · rw [houtcome] at h
      refine ⟨[], first, frames, rfl, rfl, ?_⟩
      rw [sendAll, houtcome]
      exact h
    · rw [houtcome] at h
      obtain ⟨taken, frame, rest, hframes, htaken, hrefused⟩ := ih h
      refine ⟨first :: taken, frame, rest, by rw [hframes, List.cons_append], ?_, ?_⟩
      · rw [sendAll, houtcome]
        exact htaken
      · rw [sendAll, houtcome]
        exact hrefused

/-- All packets of a batch are valid. -/
theorem SignalInlet.isValid_of_mem_packets? {inlet : SignalInlet} {interfaceId : UInt32} {batch : SignalBatch}
    {packets : List Packet} {packet : Packet} (h : inlet.packets? interfaceId batch = some packets)
    (hpacket : packet ∈ packets) : packet.isValid = true := by
  obtain ⟨hsendable, -, -, hversion⟩ := mem_packets? h hpacket
  rw [Packet.isValid, hversion, hsendable.kind, hsendable.valid, beq_self_eq_true, beq_self_eq_true]
  rfl

/-! ### Dropped packets -/

/-- Nothing that can happen to a live stream counts a packet as dropped. -/
theorem CaptureStream.stable_packetsDropped (T : Type) : Stable T fun stream => stream.packetsDropped = 0 where
  connect _ _ h := h
  disconnect h := h
  staged _ h := h
  sent _ _ h := h
  moveToId := by
    intro resources stream id h
    rw [moveToId_stream]
    exact h
  moveToPayloadType := by
    intro resources stream payloadType h
    rcases moveToPayloadType_cases resources stream payloadType with hmove | ⟨encoder, -, -, hmove⟩
    · rw [hmove]
      exact h
    · rw [hmove]
      exact h

namespace CaptureModule

variable {T : Type} [FrameSender T] {capture : CaptureModule T} {key : Nat}

/-- No stream of a reachable module has dropped a packet. -/
theorem Reachable.packetsDropped_eq_zero (h : Reachable capture) :
    ∀ stream ∈ capture.streams, stream.packetsDropped = 0 :=
  h.forall_stream (CaptureStream.stable_packetsDropped T) fun _ _ _ _ => rfl

/-! ### Sending -/

/-- Where the time of a packet overflows, nothing changes. -/
theorem send_of_overflow {stream : CaptureStream} (hstream : capture.streams[key]? = some stream)
    {batch : SignalBatch} (hnone : stream.inlet.packets? (capture.interfaceIdOf stream) batch = none) :
    capture.send key batch = (capture, some (.error .overflow)) := by
  rw [send, updateStream_eq hstream, CaptureStream.send_of_overflow hnone, set_eq_self hstream]

/-- The encoder of a stream in use takes all packets of a batch, and the answer is that of the sender. -/
theorem WellKept.send_frames (h : capture.WellKept) {stream : CaptureStream}
    (hstream : capture.streams[key]? = some stream) (hheld : capture.held key = some stream.label)
    {batch : SignalBatch} {packets : List Packet}
    (hpackets : stream.inlet.packets? (capture.interfaceIdOf stream) batch = some packets) :
    ∃ frames, (capture.resources.encoders.encode stream.id.toNat capture.resources.limits packets).2 = .ok frames
      ∧ (capture.send key batch).2
        = some (((sendAll capture.resources.sender frames).2.map fun _ => frames.length).mapError .refused) := by
  rw [send, updateStream_eq hstream]
  rcases CaptureStream.send_cases h.inStep hheld h.usable (capture.interfaceIdOf stream) batch with
    ⟨answer, hsend, hnothing⟩ | ⟨found, encoder, frames, sent, hfound, hencoder, -, hencode, hsent, -, hnext⟩
  · -- without packets there is nothing to send
    rw [hpackets] at hnothing
    rcases hnothing with ⟨hnone, -⟩ | ⟨hempty, rfl⟩
    · exact (Option.some_ne_none _ hnone).elim
    · cases hempty
      obtain ⟨encoder, hencoder, -⟩ := CaptureStream.exists_encoder h.inStep hheld
      refine ⟨[], ?_, by rw [hsend]; rfl⟩
      rw [EncoderRack.encode_of_encoder? hencoder, Encoder.encode_of_accepts h.usable (List.forall_mem_nil _)]
      rfl
  · rw [hpackets, Option.some_inj] at hfound
    subst hfound
    refine ⟨frames, by rw [EncoderRack.encode_of_encoder? hencoder]; exact hencode, ?_⟩
    rw [hsent]
    rcases hnext with ⟨error, hrefused, hnext⟩ | ⟨htaken, hnext⟩
    · rw [hnext, hrefused]
      rfl
    · rw [hnext, htaken]
      rfl

/-- When a send breaks off. -/
theorem WellKept.send_overflow_iff (h : capture.WellKept) {stream : CaptureStream}
    (hstream : capture.streams[key]? = some stream) (hheld : capture.held key = some stream.label)
    (batch : SignalBatch) :
    (capture.send key batch).2 = some (.error .overflow) ↔ stream.inlet.Overflows batch := by
  have hsettled := h.settled stream (List.mem_of_getElem? hstream)
  rw [← hsettled.packets?_eq_none_iff]
  constructor
  · intro hanswer
    by_contra hsome
    obtain ⟨packets, hpackets⟩ := Option.ne_none_iff_exists'.mp hsome
    obtain ⟨frames, -, hframes⟩ := h.send_frames hstream hheld hpackets
    rw [hframes, Option.some_inj] at hanswer
    cases hsent : (sendAll capture.resources.sender frames).2 with
    | error cause =>
      rw [hsent] at hanswer
      cases hanswer
    | ok taken =>
      rw [hsent] at hanswer
      cases hanswer
  · intro hnone
    rw [send_of_overflow hstream hnone]

/-- The packets of a live stream are valid packets of its payload type, whatever the batch holds.  They are always
encoded, so that an error is what the sender answered to one of the frames, and no packet is ever dropped.  Only where
a signal is connected that the batch fits, and a time that its packets need overflows, the send breaks off; then nothing
changes. -/
theorem send_encodes (h : Reachable capture) (hlive : capture.Live key) (batch : SignalBatch) :
    ∃ stream, capture.streams[key]? = some stream
      ∧ ((capture.send key batch).2 = some (.error .overflow) ↔ stream.inlet.Overflows batch)
      ∧ (stream.inlet.Overflows batch → (capture.send key batch).1 = capture)
      ∧ (¬ stream.inlet.Overflows batch → ∃ packets frames,
        stream.inlet.packets? (capture.interfaceIdOf stream) batch = some packets
          ∧ (∀ packet ∈ packets, packet.isValid = true ∧ packet.payloadType = stream.payloadType)
          ∧ (capture.resources.encoders.encode stream.id.toNat capture.resources.limits packets).2 = .ok frames
          ∧ (capture.send key batch).2
            = some (((sendAll capture.resources.sender frames).2.map fun _ => frames.length).mapError .refused)
          ∧ ∀ error, (capture.send key batch).2 = some (.error (.refused error)) →
            ∃ taken frame rest, frames = taken ++ frame :: rest ∧ (sendAll capture.resources.sender taken).2 = .ok ()
              ∧ (FrameSender.send (sendAll capture.resources.sender taken).1 frame).2 = .error error)
      ∧ ∀ after ∈ (capture.send key batch).1.streams, after.packetsDropped = 0 := by
  obtain ⟨stream, hstream, hheld⟩ := h.wellKept.live hlive
  have hsettled := h.wellKept.settled stream (List.mem_of_getElem? hstream)
  have hafter : Reachable (capture.perform (.onStream key (.send batch))).1 := h.perform hlive
  have hdropped : ∀ after ∈ (capture.send key batch).1.streams, after.packetsDropped = 0 :=
    hafter.packetsDropped_eq_zero
  refine ⟨stream, hstream, h.wellKept.send_overflow_iff hstream hheld batch, fun hoverflows => ?_,
    fun hinTime => ?_, hdropped⟩
  · rw [send_of_overflow hstream (hsettled.packets?_eq_none_iff.mpr hoverflows)]
  · obtain ⟨packets, hpackets⟩ := Option.ne_none_iff_exists'.mp (mt hsettled.packets?_eq_none_iff.mp hinTime)
    obtain ⟨frames, hframes, hanswer⟩ := h.wellKept.send_frames hstream hheld hpackets
    have hvalid : ∀ packet ∈ packets, packet.isValid = true ∧ packet.payloadType = stream.payloadType :=
      fun packet hpacket => ⟨SignalInlet.isValid_of_mem_packets? hpackets hpacket,
        (SignalInlet.mem_packets? hpackets hpacket).2.1⟩
    refine ⟨packets, frames, hpackets, hvalid, hframes, hanswer, fun error herror => ?_⟩
    rw [hanswer, Option.some.injEq] at herror
    refine sendAll_refused ?_
    cases hsent : (sendAll capture.resources.sender frames).2 with
    | ok taken =>
      rw [hsent] at herror
      cases herror
    | error cause =>
      rw [hsent] at herror
      cases herror
      rfl

/-- The module whose frames nothing takes any more. -/
def severedBench : CaptureModule LoopbackQueue :=
  (sendingBench.perform (.replaceSender { sendingBench.resources.sender with isOpen := false })).1

theorem reachable_severedBench : Reachable severedBench := .perform reachable_sendingBench trivial

/-- Two of the three messages become packets, they are encoded, and the closed queue refuses their frame. -/
theorem send_encodes_severedBench :
    Reachable severedBench ∧ severedBench.Live 0
      ∧ (severedBench.send 0 benchBatch).2 = some (.error (.refused .queueClosed))
      ∧ ∃ (packets : List Packet) (frames : List Bytes), packets.length = 2
        ∧ (∀ packet ∈ packets, packet.isValid = true ∧ packet.payloadType = .can)
        ∧ ∃ (taken : List Bytes) (frame : Bytes) (rest : List Bytes), frames = taken ++ frame :: rest
          ∧ (FrameSender.send (sendAll severedBench.resources.sender taken).1 frame).2 = .error .queueClosed := by
  have hlive : severedBench.Live 0 := by decide +kernel
  have hanswer : (severedBench.send 0 benchBatch).2 = some (.error (.refused .queueClosed)) := by decide +kernel
  obtain ⟨stream, hstream, hoverflow, -, hencodes, -⟩ := send_encodes reachable_severedBench hlive benchBatch
  have hinTime : ¬ stream.inlet.Overflows benchBatch := by
    rw [← hoverflow, hanswer]
    decide
  obtain ⟨packets, frames, hpackets, hvalid, -, -, herror⟩ := hencodes hinTime
  have hkept : ∀ (capture : CaptureModule LoopbackQueue) (sender : LoopbackQueue),
      (capture.perform (.replaceSender sender)).1.streams = capture.streams := fun _ _ => rfl
  rw [severedBench, hkept, sendingBench_streams, List.getElem?_cons_zero, Option.some.injEq] at hstream
  subst hstream
  have hcount : (sendingStream.inlet.packets? (severedBench.interfaceIdOf sendingStream) benchBatch).map List.length
      = some 2 := by decide +kernel
  rw [hpackets, Option.map_some, Option.some_inj] at hcount
  obtain ⟨taken, frame, rest, hframes, -, hrefused⟩ := herror .queueClosed hanswer
  exact ⟨reachable_severedBench, hlive, hanswer, packets, frames, hcount, hvalid, taken, frame, rest, hframes,
    hrefused⟩

/-- The module whose signal has ticks of 2 ^ 59 seconds. -/
def coarseBench : CaptureModule LoopbackQueue :=
  (sendingBench.perform (.onStream 0 (.connect (some .can) (some TimeAxis.coarseAxis)))).1

/-- A live stream with an open queue sends a message that was seen after 2 ^ 60 ticks: it is neither taken nor refused
by the queue. -/
theorem send_overflows :
    Reachable coarseBench ∧ coarseBench.Live 0 ∧ coarseBench.resources.sender.isOpen = true
      ∧ (coarseBench.send 0 (.can [.ofData 0x1000000000000000 0x45 [1]])).2 = some (.error .overflow) := by
  have hlive : sendingBench.Live 0 := by decide +kernel
  exact ⟨.perform reachable_sendingBench hlive, by decide +kernel, by decide +kernel, by decide +kernel⟩

end CaptureModule

end CaptureProtocol
