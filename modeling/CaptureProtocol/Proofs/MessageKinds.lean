import CaptureProtocol.Proofs.PayloadGrammar
import CaptureProtocol.Proofs.RoundTrip
import Mathlib

/-!
# Packets under other message kinds

Every packet carries its message kind as a field of its own, and an encoder does not ask whether the kind is the one
that the payload needs.  What is sent is read under the kind that was written: the payload is itself again exactly
when that kind is the one that it needs.

* `Packet.Paired` — the kind that is read of a packet is the one that its payload needs;
* `Payload.isValid_canonical` — what reading makes of a valid payload is valid;
* `PayloadType.eq_of_mem_language` — which types a type byte and a body can stand for;
* `Encoder.payloadType_asRead_iff`, `Encoder.isValid_asRead` — paired packets, and no others, are read as what they
  are; `Encoder.mistaken` — what the others can be taken for;
* `Decoder.receive_encode_asRead` — all frames of a call.
-/

namespace CaptureProtocol

/-- The kind that is read of a packet is the one that its payload needs. -/
def Packet.Paired (packet : Packet) : Prop :=
  packet.payloadType.messageType? = some (.ofRaw packet.messageType.toRaw)

instance (packet : Packet) : Decidable packet.Paired :=
  inferInstanceAs (Decidable (packet.payloadType.messageType? = some (.ofRaw packet.messageType.toRaw)))

/-! ### What reading makes of a valid payload -/

/-- A text does not grow when it loses its NUL characters. -/
theorem Block.encode_trimNul_length_le (text : String) :
    (Utf8.encode (trimNul text)).length ≤ (Utf8.encode text).length := by
  have hkept := List.rdropWhile_prefix (· == '\x00') text.toList
  rw [trimNul, Utf8.encode, Utf8.encode, String.toList_ofList]
  exact (hkept.sublist.flatMap _).length_le

theorem ModuleStatus.fits_canonical {status : ModuleStatus} (h : status.fits = true) :
    status.canonical.fits = true := by
  have htrim : ∀ text, Bytes.fitsLengthField (Block.paddedLength text) = true →
      Bytes.fitsLengthField (Block.paddedLength (Block.trimNul text)) = true := by
    intro text htext
    rw [Payload.fitsLengthField_paddedLength] at htext ⊢
    exact (Block.encode_trimNul_length_le text).trans htext
  rw [fits, Bool.and_eq_true, List.all_eq_true] at h ⊢
  refine ⟨?_, h.2⟩
  intro text htext
  obtain ⟨before, hbefore, rfl⟩ := List.mem_map.mp (show text ∈ status.texts.map Block.trimNul from htext)
  exact htrim before (h.1 before hbefore)

namespace Payload

/-- What reading makes of a valid payload is valid. -/
theorem isValid_canonical {payload : Payload} (h : payload.isValid = true) : payload.canonical.isValid = true := by
  cases payload with
  | captureModuleStatus status => exact ModuleStatus.fits_canonical h
  | interfaceStatus status => exact h
  | undefined => cases h
  | _ => exact h

/-- A valid payload is of a type that some message kind carries. -/
theorem exists_messageType {payload : Payload} (h : payload.isValid = true) :
    ∃ kind, payload.payloadType.messageType? = some kind :=
  PayloadType.exists_carrier (toBytes_mem_language h)

end Payload

/-! ### What a type byte and a body leave open -/

/-- A bus frame has 16 bytes and its data. -/
theorem CanFrame.length_le_of_mem_language {limit : Nat} {bytes : Bytes} (h : bytes ∈ language limit) :
    bytes.length ≤ headerSize + limit := by
  obtain ⟨-, count, data, hrest, hcount, hdata⟩ := Bytes.mem_exactly_mul.mp h
  have hlength := congrArg List.length hrest
  have hexact : data.length = count.toNat := hdata
  rw [List.length_drop, List.length_cons] at hlength
  simp only [headerSize]
  omega

/-- Blocks have two bytes at least. -/
theorem Block.le_length_of_mem_language {count : Nat} {bytes : Bytes} (h : bytes ∈ language ^ count) :
    2 * count ≤ bytes.length := by
  induction count generalizing bytes with
  | zero => simp
  | succ count ih =>
    rw [pow_succ'] at h
    obtain ⟨block, hblock, rest, hrest, rfl⟩ := Language.mem_mul.mp h
    obtain ⟨high, _, rfl, low, data, rfl, -⟩ := hblock
    have hlater := ih hrest
    simp only [List.length_append, List.length_cons]
    omega

namespace PayloadType

/-- No body is both a classic bus frame and the report of a module: the shortest report is longer than the longest
frame. -/
theorem notMem_language_can {body : Bytes} (hreport : body ∈ captureModuleStatus.language) : body ∉ can.language := by
  intro hframe
  have hshort := CanFrame.length_le_of_mem_language hframe
  obtain ⟨-, hblocks⟩ := Bytes.mem_exactly_mul.mp hreport
  have hlong := Block.le_length_of_mem_language hblocks
  rw [List.length_drop] at hlong
  simp only [CanFrame.headerSize, CanFrame.classicLimit] at hshort
  omega

/-- Two types that message kinds carry and that go by the same byte. -/
theorem eq_of_toRaw_eq {first second : PayloadType} {carrier other : MessageType}
    (hfirst : first.messageType? = some carrier) (hsecond : second.messageType? = some other)
    (hraw : first.toRaw = second.toRaw) :
    first = second
      ∨ (first = can ∧ second = captureModuleStatus) ∨ (first = captureModuleStatus ∧ second = can)
      ∨ (first = canFd ∧ second = interfaceStatus) ∨ (first = interfaceStatus ∧ second = canFd) := by
  cases first <;> cases second <;> simp_all [messageType?, toRaw]

/-- The type byte and the body name the type of a payload, but that a long bus frame and the report of an interface
can be the same bytes. -/
theorem eq_of_mem_language {first second : PayloadType} {body : Bytes} (hraw : first.toRaw = second.toRaw)
    (hfirst : body ∈ first.language) (hsecond : body ∈ second.language) :
    first = second ∨ (first = canFd ∧ second = interfaceStatus) ∨ (first = interfaceStatus ∧ second = canFd) := by
  obtain ⟨carrier, hcarrier⟩ := exists_carrier hfirst
  obtain ⟨other, hother⟩ := exists_carrier hsecond
  rcases eq_of_toRaw_eq hcarrier hother hraw with hsame | ⟨rfl, rfl⟩ | ⟨rfl, rfl⟩ | hmistaken
  · exact .inl hsame
  · exact absurd hfirst (notMem_language_can hsecond)
  · exact absurd hsecond (notMem_language_can hfirst)
  · exact .inr hmistaken

end PayloadType

namespace Encoder

/-! ### One packet -/

/-- A packet is read with the type of its payload exactly under the kind that the payload needs. -/
theorem payloadType_asRead_iff (encoder : Encoder) {packet : Packet} (hvalid : packet.payload.isValid = true) :
    (encoder.asRead packet).payloadType = packet.payloadType ↔ packet.Paired := by
  obtain ⟨carrier, hcarrier⟩ := Payload.exists_messageType hvalid
  show (Payload.parse _ _ _).payloadType = packet.payload.payloadType ↔ packet.payload.payloadType.messageType? = _
  rw [Payload.payloadType_parse_iff hcarrier, hcarrier]
  constructor
  · rintro ⟨hkind, -⟩
    rw [hkind]
  · intro hkind
    exact ⟨(Option.some.inj hkind).symm, Payload.rawType_of_isValid hvalid, Payload.toBytes_mem_language hvalid⟩

/-- Under the kind that its payload needs, a packet is read as a valid one. -/
theorem isValid_asRead (encoder : Encoder) {packet : Packet} (hvalid : packet.payload.isValid = true)
    (hpaired : packet.Paired) : (encoder.asRead packet).isValid = true := by
  have hpayload : (encoder.asRead packet).payload = packet.payload.canonical := Payload.parse_toBytes hvalid hpaired
  have htype : (encoder.asRead packet).payloadType.messageType? = some (encoder.asRead packet).messageType := by
    rw [(encoder.payloadType_asRead_iff hvalid).mpr hpaired]
    exact hpaired
  rw [Packet.isValid, htype, hpayload, Payload.isValid_canonical hvalid]
  simp [asRead]

/-- A packet that is read as a valid one of another type: a long bus frame and the report of an interface were taken
for each other. -/
theorem mistaken (encoder : Encoder) {packet : Packet} (hvalid : packet.payload.isValid = true)
    (hpaired : ¬ packet.Paired) (hread : (encoder.asRead packet).isValid = true) :
    (packet.payloadType = .canFd ∧ (encoder.asRead packet).payloadType = .interfaceStatus)
      ∨ (packet.payloadType = .interfaceStatus ∧ (encoder.asRead packet).payloadType = .canFd) := by
  have hother : packet.payloadType ≠ (encoder.asRead packet).payloadType :=
    fun hsame => hpaired ((encoder.payloadType_asRead_iff hvalid).mp hsame.symm)
  have hcarrier : (encoder.asRead packet).payloadType.messageType? = some (encoder.asRead packet).messageType := by
    simp only [Packet.isValid, Bool.and_eq_true, beq_iff_eq] at hread
    exact hread.1.2
  obtain ⟨-, hraw, hbody⟩ := (Payload.payloadType_parse_iff hcarrier).mp rfl
  rw [Payload.rawType_of_isValid hvalid] at hraw
  exact (PayloadType.eq_of_mem_language hraw (Payload.toBytes_mem_language hvalid) hbody).resolve_left hother

end Encoder

/-! ### All frames of a call -/

/-- A fresh decoder gives one packet for every packet of a call, each read under the kind that it was sent under.  A
packet is valid and of its own type exactly if it was paired; the others are not valid, or a long bus frame and the
report of an interface are taken for each other. -/
theorem Decoder.receive_encode_asRead {encoder : Encoder} {limits : FrameLimits} {packets : List Packet}
    {frames : List Bytes} {timeout : Nat} {arrivals : List Arrival}
    (hencode : (encoder.encode limits packets).2 = .ok frames)
    (hcarries : List.Forall₂ Carries frames arrivals)
    (hundisturbed : Undisturbed { timeout } arrivals) :
    receive { timeout } arrivals = ({ timeout }, packets.map encoder.asRead)
      ∧ ∀ packet ∈ packets,
        ((encoder.asRead packet).isValid = true ∧ (encoder.asRead packet).payloadType = packet.payloadType
          ↔ packet.Paired)
        ∧ (¬ packet.Paired → (encoder.asRead packet).isValid = true →
            (packet.payloadType = .canFd ∧ (encoder.asRead packet).payloadType = .interfaceStatus)
              ∨ (packet.payloadType = .interfaceStatus ∧ (encoder.asRead packet).payloadType = .canFd)) := by
  obtain ⟨husable, haccepts, rfl, -⟩ := Encoder.encode_ok hencode
  have hvalid : ∀ packet ∈ packets, packet.payload.isValid = true :=
    fun packet hpacket => Encoder.isValid_of_accepts (haccepts packet hpacket)
  refine ⟨receive_drafts husable (layout_laidOut limits packets) hvalid encoder _ hcarries hundisturbed, ?_⟩
  intro packet hpacket
  refine ⟨⟨?_, ?_⟩, encoder.mistaken (hvalid packet hpacket)⟩
  · rintro ⟨-, htype⟩
    exact (encoder.payloadType_asRead_iff (hvalid packet hpacket)).mp htype
  · intro hpaired
    exact ⟨encoder.isValid_asRead (hvalid packet hpacket) hpaired,
      (encoder.payloadType_asRead_iff (hvalid packet hpacket)).mpr hpaired⟩

/-- The report of an interface that has dropped 20 messages, under the kind of bus data. -/
def reportAsData : Packet :=
  { Packet.ofPayload 2 7 (.interfaceStatus { interfaceId := 2, receivedDropped := 20 }) with messageType := .data }

/-- A long bus frame under a kind whose byte is that of bus data, the report under the wrong kind, and a bus frame
under the kind of reports. -/
def crossedTraffic : List Packet :=
  [{ Packet.ofPayload 1 10 (.canFd (.ofIdentifier 0x123 [1, 2, 3])) with messageType := .unknown 1 },
   reportAsData,
   { Packet.ofPayload 1 11 (.can (.ofIdentifier 0x124 [1, 2])) with messageType := .status }]

/-- Of the three packets the first is paired: it is read as what it is, the report as a bus frame, and the last one as
nothing that is valid. -/
theorem Decoder.receive_encode_asRead_crossedTraffic :
    ∃ frames, ((Encoder.ofStream 1 1 none).encode {} crossedTraffic).2 = .ok frames
      ∧ List.Forall₂ Carries frames (frames.map (Arrival.mk 0))
      ∧ Undisturbed { timeout := 2000 } (frames.map (Arrival.mk 0))
      ∧ (receive { timeout := 2000 } (frames.map (Arrival.mk 0))).2.map (fun packet =>
          (packet.payloadType, packet.isValid)) = [(.canFd, true), (.canFd, true), (.other 1, false)]
      ∧ crossedTraffic.map (fun packet => decide packet.Paired) = [true, false, false] := by
  have hencode : ((Encoder.ofStream 1 1 none).encode {} crossedTraffic).2
      = .ok ((Encoder.ofStream 1 1 none).writeFrames {} (layout {} crossedTraffic)) := by
    rw [Encoder.encode_of_usable crossedTraffic (by decide)]
    rfl
  have hcarries : ∀ frames : List Bytes, List.Forall₂ Carries frames (frames.map (Arrival.mk 0)) := by
    intro frames
    exact List.forall₂_map_right_iff.mpr (List.forall₂_same.mpr fun frame _ => ⟨0, (List.append_nil frame).symm⟩)
  have hundisturbed : ∀ frames : List Bytes, Undisturbed { timeout := 2000 } (frames.map (Arrival.mk 0)) := by
    intro frames
    refine undisturbed_of_within 0 (every_empty 2000) fun arrival harrival => ?_
    obtain ⟨frame, -, rfl⟩ := List.mem_map.mp harrival
    exact ⟨le_refl 0, (by decide : 0 - 0 < 2000)⟩
  refine ⟨_, hencode, hcarries _, hundisturbed _, ?_, by decide⟩
  rw [(receive_encode_asRead hencode (hcarries _) (hundisturbed _)).1]
  decide +kernel

/-- The report is accepted, and read as a valid bus frame. -/
theorem Encoder.misread_reportAsData :
    ∃ frames received, ((Encoder.ofStream 1 1 none).encode {} [reportAsData]).2 = .ok frames
      ∧ Decoder.decodeAll 0 {} frames = ({}, [received])
      ∧ received.isValid = true
      ∧ reportAsData.payloadType = .interfaceStatus ∧ received.payloadType = .canFd := by
  refine ⟨_, { reportAsData with deviceId := 1, streamId := 1, payload := .canFd { data := List.replicate 20 0 } },
    rfl, ?_⟩
  decide +kernel

end CaptureProtocol
