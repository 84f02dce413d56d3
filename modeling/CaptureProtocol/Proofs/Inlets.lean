import CaptureProtocol.Signal.Inlet
import CaptureProtocol.Proofs.Encoding
import Mathlib

/-!
# Inlets and their packets

* `SignalInlet.Settled` — a connected inlet is what checking its signal makes of it; every event keeps that, so the
  quantizer and the unit of a connected analog inlet are those of its signal;
* `SignalBatch.InTime` — no time overflows that the packets of a batch need; `SignalInlet.Overflows`,
  `Settled.packets?_eq_none_iff`: when there is no list of packets;
* `SignalInlet.mem_packets?` — every packet of a batch can be sent, and has the payload type of the inlet.
-/

namespace CaptureProtocol

namespace SignalInlet

variable {inlet : SignalInlet}

/-- A connected inlet is what checking its signal makes of it. -/
def Settled (inlet : SignalInlet) : Prop := inlet.state = .connected → inlet.check = inlet

theorem settled_of_state (h : inlet.state ≠ .connected) : inlet.Settled := fun hconnected => (h hconnected).elim

/-- Checking twice is checking once: it looks only at what it does not change. -/
theorem check_check (inlet : SignalInlet) : inlet.check.check = inlet.check := by
  obtain ⟨payloadType, state, shape, axis, quantizer, unitCode, quantizerIsCurrent⟩ := inlet
  rcases shape with _ | shape
  · rfl
  rcases axis with _ | axis
  · rfl
  cases payloadType
  case can =>
    cases hcan : shape.isCan <;> simp only [check, hcan, if_true, Bool.false_eq_true, if_false]
  case canFd =>
    cases hcan : shape.isCan <;> simp only [check, hcan, if_true, Bool.false_eq_true, if_false]
  case analog =>
    cases hquantizer : if shape.isSingleNumber then Quantizer.derive? shape else none <;>
      simp only [check, hquantizer]
  all_goals rfl

theorem settled_check (inlet : SignalInlet) : inlet.check.Settled := fun _ => check_check inlet

theorem settled_connect (inlet : SignalInlet) (shape : Option SignalShape) (axis : Option TimeAxis) :
    (inlet.connect shape axis).Settled := settled_check _

theorem settled_disconnect (inlet : SignalInlet) : inlet.disconnect.Settled := by
  refine settled_of_state ?_
  rw [disconnect]
  split <;> exact SignalState.noConfusion

theorem settled_retype (inlet : SignalInlet) (payloadType : PayloadType) : (inlet.retype payloadType).Settled := by
  rw [retype]
  split
  · exact settled_of_state SignalState.noConfusion
  · exact settled_check _

theorem check_payloadType (inlet : SignalInlet) : inlet.check.payloadType = inlet.payloadType := by
  unfold check
  repeat' split
  all_goals rfl

theorem connect_payloadType (inlet : SignalInlet) (shape : Option SignalShape) (axis : Option TimeAxis) :
    (inlet.connect shape axis).payloadType = inlet.payloadType := check_payloadType _

theorem disconnect_payloadType (inlet : SignalInlet) : inlet.disconnect.payloadType = inlet.payloadType := by
  rw [disconnect]
  split <;> rfl

theorem retype_payloadType (inlet : SignalInlet) (payloadType : PayloadType) :
    (inlet.retype payloadType).payloadType = payloadType := by
  rw [retype]
  split
  · rfl
  · exact check_payloadType _

/-! ### Connected inlets -/

/-- A connected inlet has a signal. -/
theorem Settled.signal (h : inlet.Settled) (hconnected : inlet.state = .connected) :
    ∃ shape axis, inlet.shape = some shape ∧ inlet.axis = some axis := by
  have hcheck := h hconnected
  obtain ⟨payloadType, state, shape, axis, quantizer, unitCode, quantizerIsCurrent⟩ := inlet
  dsimp only at hconnected
  subst hconnected
  rcases shape with _ | shape
  · cases hcheck
  rcases axis with _ | axis
  · cases hcheck
  exact ⟨shape, axis, rfl, rfl⟩

/-- A connected analog inlet has the quantizer and the unit of its signal. -/
theorem Settled.analog (h : inlet.Settled) (hconnected : inlet.state = .connected)
    (htype : inlet.payloadType = .analog) {shape : SignalShape} (hshape : inlet.shape = some shape) :
    ∃ quantizer, Quantizer.derive? shape = some quantizer ∧ inlet.quantizer = some quantizer
      ∧ inlet.unitCode = MeasurementUnit.codeFor shape.unit := by
  obtain ⟨_, axis, -, haxis⟩ := h.signal hconnected
  have hcheck := h hconnected
  obtain ⟨payloadType, state, _, _, quantizer, unitCode, quantizerIsCurrent⟩ := inlet
  dsimp only at hconnected htype hshape haxis
  subst hconnected htype hshape haxis
  rw [check] at hcheck
  dsimp only at hcheck
  by_cases hnumber : shape.isSingleNumber = true
  · rw [if_pos hnumber] at hcheck
    cases hderive : Quantizer.derive? shape with
    | none =>
      rw [hderive] at hcheck
      cases hcheck
    | some derived =>
      rw [hderive] at hcheck
      cases hcheck
      exact ⟨derived, rfl, rfl, rfl⟩
  · rw [if_neg hnumber] at hcheck
    cases hcheck

end SignalInlet

/-! ### Lists of answers -/

section

variable {α β : Type} {answer? : α → Option β} {questions : List α} {answers : List β}

/-- All questions are answered, in their order. -/
theorem mapM_eq_some_iff :
    questions.mapM answer? = some answers
      ↔ List.Forall₂ (fun question answer => answer? question = some answer) questions answers := by
  induction questions generalizing answers with
  | nil =>
    rw [List.mapM_nil, List.forall₂_nil_left_iff]
    exact Option.some_inj.trans eq_comm
  | cons question questions ih =>
    rw [List.mapM_cons, List.forall₂_cons_left_iff]
    constructor
    · intro h
      obtain ⟨answer, hanswer, h⟩ := Option.bind_eq_some_iff.mp h
      obtain ⟨rest, hrest, h⟩ := Option.bind_eq_some_iff.mp h
      cases h
      exact ⟨answer, rest, hanswer, ih.mp hrest, rfl⟩
    · rintro ⟨answer, rest, hanswer, hrest, rfl⟩
      rw [hanswer, ih.mpr hrest]
      rfl

/-- A question has no answer. -/
theorem mapM_eq_none_iff : questions.mapM answer? = none ↔ ∃ question ∈ questions, answer? question = none := by
  induction questions with
  | nil => simp
  | cons question questions ih =>
    rw [List.mapM_cons, List.exists_mem_cons_iff, ← ih]
    cases answer? question with
    | none => exact iff_of_true rfl (.inl rfl)
    | some answer => cases questions.mapM answer? <;> simp

theorem filterMap_of_forall₂
    (h : List.Forall₂ (fun question answer => answer? question = some answer) questions answers) :
    questions.filterMap answer? = answers := by
  induction h with
  | nil => rfl
  | cons hanswer _ ih => rw [List.filterMap_cons_some hanswer, ih]

end

/-! ### Times -/

namespace SignalBatch

/-- Whether a batch is of the kind that a payload type carries. -/
def fits : SignalBatch → PayloadType → Bool
  | can _, .can | can _, .canFd | analog .., .analog => true
  | _, _ => false

/-- The ticks whose times are needed for the packets of a batch under a payload type: those of the CAN messages that it
takes, and the first one of a batch of numbers. -/
def neededTicks : SignalBatch → PayloadType → List UInt64
  | can messages, .can => (messages.filter (·.length.toNat ≤ 8)).map (·.tick)
  | can messages, .canFd => (messages.filter (·.length.toNat ≤ 64)).map (·.tick)
  | analog startTick _, .analog => [startTick]
  | _, _ => []

/-- No time that the packets of a batch need overflows. -/
def InTime (batch : SignalBatch) (axis : TimeAxis) (payloadType : PayloadType) : Prop :=
  ∀ ticks ∈ batch.neededTicks payloadType, axis.timeOf? ticks ≠ none

theorem not_inTime_iff {batch : SignalBatch} {axis : TimeAxis} {payloadType : PayloadType} :
    ¬ batch.InTime axis payloadType ↔ ∃ ticks ∈ batch.neededTicks payloadType, axis.timeOf? ticks = none := by
  simp [InTime]

theorem neededTicks_of_not_fits {batch : SignalBatch} {payloadType : PayloadType}
    (h : batch.fits payloadType = false) : batch.neededTicks payloadType = [] := by
  cases batch <;> cases payloadType <;> first | rfl | cases h

/-- A batch of another kind needs no times. -/
theorem fits_of_not_inTime {batch : SignalBatch} {axis : TimeAxis} {payloadType : PayloadType}
    (h : ¬ batch.InTime axis payloadType) : batch.fits payloadType = true := by
  by_contra hfits
  obtain ⟨ticks, hneeded, -⟩ := not_inTime_iff.mp h
  rw [neededTicks_of_not_fits (Bool.eq_false_iff.mpr hfits)] at hneeded
  exact List.not_mem_nil hneeded

end SignalBatch

namespace SignalInlet

variable {inlet : SignalInlet} {interfaceId : UInt32} {axis : TimeAxis} {messages : List CanMessage}
  {batch : SignalBatch} {packets : List Packet} {packet : Packet}

theorem canPackets?_eq_none_iff {flexible : Bool} :
    canPackets? flexible interfaceId axis messages = none
      ↔ ∃ ticks ∈ (messages.filter (·.length.toNat ≤ canLimit flexible)).map (·.tick), axis.timeOf? ticks = none := by
  simp only [canPackets?, mapM_eq_none_iff, Option.map_eq_none_iff, List.mem_map, exists_exists_and_eq_and]

/-- What the packets of messages are. -/
theorem mem_canPackets? {flexible : Bool} (h : canPackets? flexible interfaceId axis messages = some packets)
    (hpacket : packet ∈ packets) :
    ∃ message timestamp, message.length.toNat ≤ canLimit flexible ∧ axis.timeOf? message.tick = some timestamp
      ∧ packet = canPacket flexible interfaceId message timestamp := by
  rw [canPackets?, mapM_eq_some_iff] at h
  rw [← filterMap_of_forall₂ h] at hpacket
  obtain ⟨message, hmessage, hpacket⟩ := List.mem_filterMap.mp hpacket
  obtain ⟨timestamp, htime, rfl⟩ := Option.map_eq_some_iff.mp hpacket
  exact ⟨message, timestamp, of_decide_eq_true (List.mem_filter.mp hmessage).2, htime, rfl⟩

/-- There are no packets where nothing is connected that the batch fits. -/
theorem packets?_of_not_connected (h : inlet.state ≠ .connected) (interfaceId : UInt32) (batch : SignalBatch) :
    inlet.packets? interfaceId batch = some [] := by
  rw [packets?]
  split
  · rename_i hconnected _
    exact (h hconnected).elim
  · rfl

/-- A signal is connected that a batch fits, and a time that its packets need overflows. -/
def Overflows (inlet : SignalInlet) (batch : SignalBatch) : Prop :=
  inlet.state = .connected ∧ batch.fits inlet.payloadType = true
    ∧ ∃ axis, inlet.axis = some axis ∧ ¬ batch.InTime axis inlet.payloadType

/-- When there is no list of packets of a connected signal. -/
theorem Settled.packets?_eq_none_iff_of_axis (h : inlet.Settled) (hconnected : inlet.state = .connected)
    (haxis : inlet.axis = some axis) :
    inlet.packets? interfaceId batch = none ↔ ¬ batch.InTime axis inlet.payloadType := by
  obtain ⟨shape, -, hshape, -⟩ := h.signal hconnected
  -- a batch of another kind has no packets and needs no times
  have hother : batch.fits inlet.payloadType = false →
      (some ([] : List Packet) = none ↔ ∃ ticks ∈ batch.neededTicks inlet.payloadType, axis.timeOf? ticks = none) := by
    intro hfits
    rw [SignalBatch.neededTicks_of_not_fits hfits]
    exact iff_of_false (Option.some_ne_none _) fun hall => hall.elim fun _ hneeded => List.not_mem_nil hneeded.1
  rw [SignalBatch.not_inTime_iff, packets?, hconnected, haxis]
  cases htype : inlet.payloadType with
  | can =>
    rw [htype] at hother
    cases batch with
    | can messages => exact canPackets?_eq_none_iff
    | analog => exact hother rfl
  | canFd =>
    rw [htype] at hother
    cases batch with
    | can messages => exact canPackets?_eq_none_iff
    | analog => exact hother rfl
  | analog =>
    rw [htype] at hother
    cases batch with
    | can => exact hother rfl
    | analog startTick values =>
      obtain ⟨quantizer, -, hquantizer, -⟩ := h.analog hconnected htype hshape
      rw [hquantizer]
      exact Option.map_eq_none_iff.trans (by simp [SignalBatch.neededTicks])
  | _ =>
    rw [htype] at hother
    cases batch <;> exact hother rfl

/-- When there is no list of packets. -/
theorem Settled.packets?_eq_none_iff (h : inlet.Settled) :
    inlet.packets? interfaceId batch = none ↔ inlet.Overflows batch := by
  by_cases hconnected : inlet.state = .connected
  · obtain ⟨shape, axis, -, haxis⟩ := h.signal hconnected
    rw [h.packets?_eq_none_iff_of_axis hconnected haxis]
    constructor
    · exact fun hlate => ⟨hconnected, SignalBatch.fits_of_not_inTime hlate, axis, haxis, hlate⟩
    · rintro ⟨-, -, found, hfound, hlate⟩
      rw [haxis, Option.some_inj] at hfound
      subst hfound
      exact hlate
  · rw [packets?_of_not_connected hconnected]
    exact iff_of_false (Option.some_ne_none _) fun hall => hconnected hall.1

/-! ### Packets -/

theorem sendable_ofPayload {interfaceId : UInt32} {timestamp : UInt64} {payload : Payload}
    (hvalid : payload.isValid = true) (hdata : payload.payloadType.isData = true) :
    (Packet.ofPayload interfaceId timestamp payload).Sendable := by
  refine ⟨hvalid, ?_⟩
  show payload.payloadType.messageType? = some (payload.payloadType.messageType?.getD .data)
  cases hpayload : payload.payloadType <;> rw [hpayload] at hdata
  case can | canFd | analog => rfl
  all_goals cases hdata

/-- The packet of a message fits its payload type. -/
theorem canPacket_sendable {flexible : Bool} {message : CanMessage}
    (hlength : message.length.toNat ≤ canLimit flexible) (interfaceId : UInt32) (timestamp : UInt64) :
    (canPacket flexible interfaceId message timestamp).Sendable := by
  have hdata : message.payload.length ≤ message.length.toNat := List.length_take_le ..
  cases flexible <;> exact sendable_ofPayload (decide_eq_true (hdata.trans hlength)) rfl

theorem analogBlock_samplesFit (inlet : SignalInlet) (axis : TimeAxis) (quantizer : Quantizer)
    (values : List Binary64) : (inlet.analogBlock axis quantizer values).samplesFit = true := by
  rw [AnalogBlock.samplesFit, List.all_eq_true]
  intro sample hsample
  obtain ⟨value, -, rfl⟩ := List.mem_map.mp hsample
  exact quantizer.quantize_holds value

/-- Every packet of a batch can be sent, and has the payload type of the inlet. -/
theorem mem_packets? (h : inlet.packets? interfaceId batch = some packets) (hpacket : packet ∈ packets) :
    packet.Sendable ∧ packet.payloadType = inlet.payloadType ∧ packet.interfaceId = interfaceId
      ∧ packet.version = protocolVersion := by
  have hnothing : ¬ some [] = some packets := fun hempty => by
    cases hempty
    exact List.not_mem_nil hpacket
  rw [packets?] at h
  split at h
  · split at h
    · rename_i htype
      obtain ⟨message, timestamp, hlength, -, rfl⟩ := mem_canPackets? h hpacket
      exact ⟨canPacket_sendable hlength .., htype.symm, rfl, rfl⟩
    · rename_i htype
      obtain ⟨message, timestamp, hlength, -, rfl⟩ := mem_canPackets? h hpacket
      exact ⟨canPacket_sendable hlength .., htype.symm, rfl, rfl⟩
    · rename_i htype
      split at h
      · obtain ⟨timestamp, -, rfl⟩ := Option.map_eq_some_iff.mp h
        rw [List.mem_singleton] at hpacket
        subst hpacket
        exact ⟨sendable_ofPayload (inlet.analogBlock_samplesFit ..) rfl, htype.symm, rfl, rfl⟩
      · exact (hnothing h).elim
    · exact (hnothing h).elim
  · exact (hnothing h).elim

end SignalInlet

end CaptureProtocol
