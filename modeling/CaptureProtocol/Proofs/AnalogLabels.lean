import CaptureProtocol.Frame.Encoder
import CaptureProtocol.Proofs.StreamAccounts
import Mathlib

/-!
# The labels of analog outputs

An analog output has one unit and one interval for all its values, and the values of all packets of a call are joined
in one output.  The label is that of the first packet; it fits every value exactly when the packets of the call agree.

* `AnalogLabel` — a unit and an interval; `AnalogBlock.label` is the one that the values of a block need,
  `ReceivedAnalog.label` the one that they are reported with;
* `measurements` — the values of packets, each with the block that it comes from;
* `ReceivedAnalog.Reports` — what an output says about packets; `Reports.fits_iff` — when its label fits;
* `SinkStream.exists_output` — the output of one call; `SinkStream.collect_labels` — all outputs of a stream.
-/

namespace CaptureProtocol

/-- A unit and the time between values. -/
structure AnalogLabel where
  unit : String
  sampleInterval : Binary64
deriving DecidableEq, Inhabited, Repr

/-- The label that the values of a block need. -/
def AnalogBlock.label (block : AnalogBlock) : AnalogLabel where
  unit := (MeasurementUnit.symbol? block.unit).getD ""
  sampleInterval := .widen block.sampleInterval

/-- The label that values are reported with. -/
def ReceivedAnalog.label (output : ReceivedAnalog) : AnalogLabel where
  unit := output.unit
  sampleInterval := output.sampleInterval

/-- The analog blocks of packets. -/
def analogBlocks (packets : List Packet) : List AnalogBlock :=
  (packets.filterMap SinkStream.analogBlock?).map (·.2)

/-- The physical values of packets, each with the block that it comes from. -/
def measurements (packets : List Packet) : List (AnalogBlock × Binary64) :=
  (analogBlocks packets).flatMap fun block => block.physicalValues.map fun value => (block, value)

theorem analogBlocks_cons {packet : Packet} {block : AnalogBlock} (h : packet.payload = .analog block)
    (packets : List Packet) : analogBlocks (packet :: packets) = block :: analogBlocks packets := by
  have hfirst : SinkStream.analogBlock? packet = some (packet.timestamp, block) := by rw [SinkStream.analogBlock?, h]
  rw [analogBlocks, List.filterMap_cons_some hfirst]
  rfl

/-- Analog packets have one block each. -/
theorem map_payload_eq {packets : List Packet} (h : ∀ packet ∈ packets, packet.payloadType = .analog) :
    packets.map Packet.payload = (analogBlocks packets).map .analog := by
  induction packets with
  | nil => rfl
  | cons packet packets ih =>
    obtain ⟨hpacket, hrest⟩ := List.forall_mem_cons.mp h
    obtain ⟨-, -, hanalog, -⟩ := packet.payload.payloadType_eq_iff
    obtain ⟨block, hblock⟩ := hanalog.mp hpacket
    rw [analogBlocks_cons hblock, List.map_cons, List.map_cons, hblock, ih hrest]

/-- A block has values if it has samples. -/
theorem exists_measurement_iff {packets : List Packet} {block : AnalogBlock} :
    (∃ value, (block, value) ∈ measurements packets) ↔ block ∈ analogBlocks packets ∧ block.samples ≠ [] := by
  simp only [measurements, List.mem_flatMap, List.mem_map, Prod.mk.injEq]
  constructor
  · rintro ⟨value, other, hblock, found, hfound, rfl, -⟩
    refine ⟨hblock, ?_⟩
    intro hempty
    rw [AnalogBlock.physicalValues, hempty] at hfound
    exact List.not_mem_nil hfound
  · rintro ⟨hblock, hsamples⟩
    obtain ⟨sample, hsample⟩ := List.exists_mem_of_ne_nil _ hsamples
    exact ⟨_, block, hblock, _, List.mem_map_of_mem hsample, rfl, rfl⟩

/-! ### What an output says about the packets of a call -/

namespace ReceivedAnalog

/-- Every value of packets is reported with the label that it needs. -/
def Fits (output : ReceivedAnalog) (packets : List Packet) : Prop :=
  ∀ measurement ∈ measurements packets, measurement.1.label = output.label

/-- An output has all values of packets, in order, under the time and the label of the first. -/
structure Reports (output : ReceivedAnalog) (packets : List Packet) (first : AnalogBlock) : Prop where
  timestamp : packets.head?.map Packet.timestamp = some output.timestamp
  label : output.label = first.label
  values : output.values = (measurements packets).map (·.2)

/-- The label of an output fits exactly if the later packets with samples need that of the first. -/
theorem Reports.fits_iff {output : ReceivedAnalog} {packets : List Packet} {first : AnalogBlock}
    {rest : List AnalogBlock} (h : output.Reports packets first) (hblocks : analogBlocks packets = first :: rest) :
    output.Fits packets ↔ ∀ block ∈ rest, block.samples ≠ [] → block.label = first.label := by
  rw [Fits, h.label]
  constructor
  · intro hfits block hblock hsamples
    have hmem : block ∈ analogBlocks packets := by
      rw [hblocks]
      exact List.mem_cons_of_mem _ hblock
    obtain ⟨value, hvalue⟩ := exists_measurement_iff.mpr ⟨hmem, hsamples⟩
    exact hfits _ hvalue
  · intro hagree measurement hmeasurement
    obtain ⟨hmem, hsamples⟩ := exists_measurement_iff.mp ⟨measurement.2, hmeasurement⟩
    rw [hblocks] at hmem
    rcases List.mem_cons.mp hmem with hfirst | hrest
    · rw [hfirst]
    · exact hagree _ hrest hsamples

end ReceivedAnalog

namespace SinkStream

/-- The output of one call. -/
theorem exists_output {packets : List Packet} (hne : packets ≠ [])
    (htype : ∀ packet ∈ packets, packet.payloadType = .analog) :
    ∃ output first rest, batch? .analog packets = some (.analog output) ∧ analogBlocks packets = first :: rest
      ∧ output.Reports packets first := by
  obtain ⟨packet, others, rfl⟩ := List.exists_cons_of_ne_nil hne
  obtain ⟨-, -, hanalog, -⟩ := packet.payload.payloadType_eq_iff
  obtain ⟨block, hblock⟩ := hanalog.mp (htype packet List.mem_cons_self)
  have hfirst : analogBlock? packet = some (packet.timestamp, block) := by rw [analogBlock?, hblock]
  have hvalues : (measurements (packet :: others)).map (·.2)
      = ((packet :: others).filterMap analogBlock?).flatMap fun block => block.2.physicalValues := by
    rw [measurements, analogBlocks, List.map_flatMap, List.flatMap_map]
    simp
  rw [List.filterMap_cons_some hfirst] at hvalues
  exact ⟨_, block, analogBlocks others, by rw [batch?, List.filterMap_cons_some hfirst], analogBlocks_cons hblock others,
    rfl, rfl, hvalues.symm⟩

/-- All outputs of a stream of analog packets, those that were taken out and those that wait, whatever is done with it.
Each has the values of the packets that the stream received in one call, in order, under the time and the label of the
first of them.  The label fits all values exactly if the later packets that have samples need the same one. -/
theorem collect_labels (key : StreamKey) (capacity : Nat) (calls : List StreamCall) :
    let after := (Run.collect call { key, payloadType := .analog, capacity } calls).1
    let taken := (Run.collect call { key, payloadType := .analog, capacity } calls).2
    ∀ batch ∈ taken ++ after.latest.reverse, ∃ packets ∈ (addressed key calls).map (accepted .analog),
      ∃ output first rest, batch = .analog output
        ∧ packets.map Packet.payload = (first :: rest).map .analog
        ∧ output.Reports packets first
        ∧ (output.Fits packets ↔ ∀ block ∈ rest, block.samples ≠ [] → block.label = first.label) := by
  intro after taken batch hbatch
  obtain ⟨admitted, hadmitted, hqueue, -⟩ :=
    (accounts_collect { key, payloadType := .analog, capacity } calls).flow
  have hqueue : admitted = taken ++ after.latest.reverse := hqueue
  rw [← hqueue] at hbatch
  obtain ⟨packets, hpackets, hoffered⟩ := List.mem_filterMap.mp (hadmitted.subset hbatch)
  have hne : packets ≠ [] := by
    intro hempty
    rw [hempty, batch?_nil] at hoffered
    exact Option.some_ne_none _ hoffered.symm
  have htype : ∀ packet ∈ packets, packet.payloadType = .analog := by
    intro packet hpacket
    obtain ⟨handed, -, rfl⟩ := List.mem_map.mp hpackets
    exact of_decide_eq_true (List.mem_filter.mp hpacket).2
  obtain ⟨output, first, rest, hbatch?, hblocks, hreports⟩ := exists_output hne htype
  rw [hbatch?] at hoffered
  refine ⟨packets, hpackets, output, first, rest, (Option.some.inj hoffered).symm, ?_, hreports,
    hreports.fits_iff hblocks⟩
  rw [map_payload_eq htype, hblocks]

end SinkStream

/-! ### Two packets of one call -/

/-- A value of 5 volts, one second before the next. -/
def voltageBlock : AnalogBlock :=
  { unit := 0x10, sampleInterval := ⟨0x3F800000⟩, scale := ⟨0x3F800000⟩, samples := [5] }

/-- A value of 3 amperes, half a second before the next. -/
def currentBlock : AnalogBlock :=
  { unit := 0x04, sampleInterval := ⟨0x3F000000⟩, scale := ⟨0x3F800000⟩, samples := [3] }

/-- The packets of both blocks, as they arrive. -/
def meteredPackets : List Packet :=
  [{ Packet.ofPayload 1 10 (.analog voltageBlock) with deviceId := 7, streamId := 3 },
   { Packet.ofPayload 1 20 (.analog currentBlock) with deviceId := 7, streamId := 3 }]

namespace SinkStream

/-- Both packets in one call: their values are in one output, whose label is that of the first and fits not all. -/
theorem collect_labels_meteredPackets :
    ∃ output, (Run.collect call { key := ⟨7, 1, 3⟩, payloadType := .analog, capacity := 1 }
        [.receive ⟨7, 1, 3⟩ meteredPackets]).1.latest.reverse = [.analog output]
      ∧ output.Reports meteredPackets voltageBlock ∧ ¬ output.Fits meteredPackets := by
  obtain ⟨output, houtput⟩ : ∃ output, (Run.collect call
      { key := ⟨7, 1, 3⟩, payloadType := .analog, capacity := 1 }
      [.receive ⟨7, 1, 3⟩ meteredPackets]).1.latest.reverse = [.analog output] := ⟨_, rfl⟩
  have hmem := List.mem_append_right (Run.collect call { key := ⟨7, 1, 3⟩, payloadType := .analog, capacity := 1 }
    [.receive ⟨7, 1, 3⟩ meteredPackets]).2 (houtput ▸ List.mem_singleton.mpr rfl)
  obtain ⟨packets, hpackets, found, first, rest, hfound, hpayloads, hreports, hfits⟩ :=
    collect_labels ⟨7, 1, 3⟩ 1 [.receive ⟨7, 1, 3⟩ meteredPackets] (.analog output) hmem
  have hcall : packets = meteredPackets := List.mem_singleton.mp hpackets
  subst hcall
  cases hfound
  have hblocks : [voltageBlock, currentBlock] = first :: rest :=
    List.map_injective_iff.mpr (fun _ _ h => Payload.analog.inj h) hpayloads
  cases hblocks
  refine ⟨output, houtput, hreports, ?_⟩
  rw [hfits]
  decide +kernel

end SinkStream

/-- A new sink with a stream of analog packets. -/
def meteringSink : DataSink :=
  (DataSink.openStream { config := {}, decoder := {} } ⟨7, 1, 3⟩ .analog).2

/-- The two packets of one address come in one frame, and the amperes are reported as volts. -/
theorem DataSink.mislabelled_current :
    ∃ frame output, ((Encoder.ofStream 7 3 none).encode {} meteredPackets).2 = .ok [frame]
      ∧ ((meteringSink.takeFrame 0 frame).1.receiver? 0).map SinkStream.latest = some [.analog output]
      ∧ output.values = voltageBlock.physicalValues ++ currentBlock.physicalValues
      ∧ output.label = voltageBlock.label ∧ ¬ output.Fits meteredPackets := by
  have hencode : ∃ frame, ((Encoder.ofStream 7 3 none).encode {} meteredPackets).2 = .ok [frame]
      ∧ (meteringSink.decoder.decode 0 frame).2 = meteredPackets := by
    refine ⟨_, rfl, ?_⟩
    decide +kernel
  obtain ⟨frame, hframe, hdecode⟩ := hencode
  have hdistinct : meteringSink.router.Distinct := by
    intro entry hentry
    rw [List.mem_singleton.mp hentry]
    exact List.nodup_singleton _
  have hopen : .receiver 0 ∈ meteringSink.router.handlers ⟨7, 1, 3⟩ := by decide
  have hstream : meteringSink.receiver? 0 = some { key := ⟨7, 1, 3⟩, payloadType := .analog, capacity := 1024 } := rfl
  have hpackets : ∀ packet ∈ (meteringSink.decoder.decode 0 frame).2,
      isDeliverable packet = true ∧ packet.key = ⟨7, 1, 3⟩ := by
    rw [hdecode]
    decide
  have htake := (takeFrame_receiver hdistinct hopen hstream hpackets).1
  rw [hdecode] at htake
  refine ⟨frame, _, hframe, by rw [htake]; rfl, rfl, rfl, ?_⟩
  intro hfits
  have hmem : currentBlock ∈ analogBlocks meteredPackets ∧ currentBlock.samples ≠ [] := by decide
  obtain ⟨value, hvalue⟩ := exists_measurement_iff.mpr hmem
  have hlabel : currentBlock.label = voltageBlock.label := hfits _ hvalue
  exact absurd hlabel (by decide +kernel)

end CaptureProtocol
