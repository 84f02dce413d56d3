import CaptureProtocol.Frame.Encoder
import CaptureProtocol.Proofs.SinkDelivery
import Mathlib

/-!
# Clean deliveries

Whatever bytes reach a sink, handlers are given valid data packets under the address of these.

* `CleanFor` — packets that may be handed to the handlers of an address;
* `groups_perm`, `key_of_groups` — every packet is in one group, that of its address; `dispatch_invariant` — what
  handlers keep that are given clean packets, dispatching keeps;
* `SinkOperation.arrival?` — the frame of an operation; `DataSink.takeFrame_noted` — what a frame changes besides what
  subscribers do;
* `ReceivedBatch.Fits` — CAN frames that fit their bus; `SinkStream.Fits.receive` — a stream queues no others;
* `DataSink.Clean` — the invariant; `Clean.perform` — one operation; `Clean.performAll` — all of them.
-/

namespace CaptureProtocol

/-- Valid data packets of an address. -/
def CleanFor (key : StreamKey) (packets : List Packet) : Prop :=
  ∀ packet ∈ packets, packet.isValid = true ∧ packet.messageType = .data ∧ packet.key = key

/-! ### Groups -/

theorem addToGroups_perm (packet : Packet) (found : List (StreamKey × List Packet)) :
    ((addToGroups packet found).flatMap (·.2)).Perm (packet :: found.flatMap (·.2)) := by
  induction found with
  | nil => exact .refl _
  | cons entry rest ih =>
    obtain ⟨key, group⟩ := entry
    rw [addToGroups]
    split
    · exact .refl _
    · rw [List.flatMap_cons, List.flatMap_cons]
      exact (ih.append_left group).trans List.perm_middle

theorem key_of_addToGroups {packet : Packet} {found : List (StreamKey × List Packet)}
    (h : ∀ entry ∈ found, ∀ member ∈ entry.2, member.key = entry.1) :
    ∀ entry ∈ addToGroups packet found, ∀ member ∈ entry.2, member.key = entry.1 := by
  induction found with
  | nil =>
    intro entry hentry member hmember
    rw [List.mem_singleton.mp hentry] at hmember ⊢
    rw [List.mem_singleton.mp hmember]
  | cons head rest ih =>
    obtain ⟨key, group⟩ := head
    obtain ⟨hhead, hrest⟩ := List.forall_mem_cons.mp h
    rw [addToGroups]
    split
    · rename_i hkey
      exact List.forall_mem_cons.mpr ⟨List.forall_mem_cons.mpr ⟨hkey, hhead⟩, hrest⟩
    · exact List.forall_mem_cons.mpr ⟨hhead, ih hrest⟩

/-- Every packet is in one group, and nothing else is. -/
theorem groups_perm (packets : List Packet) : ((groups packets).flatMap (·.2)).Perm packets := by
  have hfound : ∀ found : List (StreamKey × List Packet),
      ((packets.foldl (fun found packet => addToGroups packet found) found).flatMap (·.2)).Perm
        (packets ++ found.flatMap (·.2)) := by
    induction packets with
    | nil => exact fun found => .refl _
    | cons packet packets ih =>
      intro found
      exact (ih _).trans (((addToGroups_perm packet found).append_left packets).trans List.perm_middle)
  have hreverse : ∀ found : List (StreamKey × List Packet),
      ((found.map fun entry => (entry.1, entry.2.reverse)).flatMap (·.2)).Perm (found.flatMap (·.2)) := by
    intro found
    rw [List.flatMap_map]
    exact List.Perm.flatMap_left _ fun entry _ => List.reverse_perm entry.2
  have h := (hreverse _).trans (hfound [])
  rwa [List.flatMap_nil, List.append_nil] at h

/-- The packets of a group have its address. -/
theorem key_of_groups {packets : List Packet} :
    ∀ entry ∈ groups packets, ∀ packet ∈ entry.2, packet.key = entry.1 := by
  have hfound : ∀ found : List (StreamKey × List Packet),
      (∀ entry ∈ found, ∀ packet ∈ entry.2, packet.key = entry.1) →
      ∀ entry ∈ packets.foldl (fun found packet => addToGroups packet found) found, ∀ packet ∈ entry.2,
        packet.key = entry.1 := by
    induction packets with
    | nil => exact fun found h => h
    | cons packet packets ih => exact fun found h => ih _ (key_of_addToGroups h)
  intro entry hentry packet hpacket
  obtain ⟨source, hsource, rfl⟩ := List.mem_map.mp hentry
  exact hfound [] (List.forall_mem_nil _) source hsource packet (List.mem_reverse.mp hpacket)

theorem DataSink.clean_of_deliverable {packet : Packet} (h : isDeliverable packet = true) :
    packet.isValid = true ∧ packet.messageType = .data := by
  rw [isDeliverable, Bool.and_eq_true, bne_iff_ne] at h
  exact ⟨h.1, (Packet.messageType_of_isValid h.1).resolve_right h.2⟩

/-- The handlers of an address are given clean packets for it. -/
theorem clean_groups {packets : List Packet} (h : ∀ packet ∈ packets, DataSink.isDeliverable packet = true) :
    ∀ entry ∈ groups packets, CleanFor entry.1 entry.2 := by
  intro entry hentry packet hpacket
  have hmember : packet ∈ packets :=
    (groups_perm packets).subset (List.mem_flatMap.mpr ⟨entry, hentry, hpacket⟩)
  obtain ⟨hvalid, hkind⟩ := DataSink.clean_of_deliverable (h packet hmember)
  exact ⟨hvalid, hkind, key_of_groups entry hentry packet hpacket⟩

/-- What handlers keep that are given clean packets, dispatching keeps, whatever else they do to the world. -/
theorem dispatch_invariant {H W : Type} (routes : W → Router H) (react : Reaction H W) (holds : W → Prop)
    (hreact : ∀ handler key packets world, CleanFor key packets → holds world →
      holds (react handler key packets world))
    {packets : List Packet} (h : ∀ packet ∈ packets, DataSink.isDeliverable packet = true) {world : W}
    (hworld : holds world) : holds (dispatch routes react packets world).1 := by
  have hpublish : ∀ key group, CleanFor key group → ∀ (called : List H) world, holds world →
      holds (called.foldl (fun world handler => react handler key group world) world) := by
    intro key group hclean called
    induction called with
    | nil => exact fun world hworld => hworld
    | cons handler called ih => exact fun world hworld => ih _ (hreact handler key group world hclean hworld)
  exact dispatch_publishes routes react holds
    (fun entry hentry world hworld => hpublish entry.1 entry.2 (clean_groups h entry hentry) _ world hworld) hworld

/-! ### Frames on a sink -/

/-- The frame that an operation takes, and when; an Ethernet frame is taken out of its wrapping. -/
def SinkOperation.arrival? : SinkOperation → Option Arrival
  | takeFrame now frame => some ⟨now, frame⟩
  | takeEthernetFrame now frame => (Ethernet.unwrap? frame).map (Arrival.mk now)
  | _ => none

namespace DataSink

variable {sink : DataSink} {operation : SinkOperation} {arrival : Arrival}

theorem perform_arrival (h : operation.arrival? = some arrival) :
    sink.perform operation = (sink.takeFrame arrival.time arrival.bytes).1 := by
  cases operation with
  | takeFrame now frame =>
    cases h
    rfl
  | takeEthernetFrame now frame =>
    obtain ⟨payload, hpayload, rfl⟩ := Option.map_eq_some_iff.mp h
    rw [perform, takeEthernetFrame, hpayload]
  | _ => cases h

theorem forall_mem_deliverable (packets : List Packet) :
    ∀ packet ∈ packets.filter isDeliverable, isDeliverable packet = true :=
  fun _ hpacket => (List.mem_filter.mp hpacket).2

/-- What subscribers do leaves the board and the count of invalid packets as the frame was noted in them. -/
theorem takeFrame_noted (sink : DataSink) (now : Nat) (frame : Bytes) :
    (sink.takeFrame now frame).1.board = (sink.noted now frame).board
      ∧ (sink.takeFrame now frame).1.invalidPackets = (sink.noted now frame).invalidPackets := by
  rw [takeFrame_fst]
  refine dispatch_invariant (·.router) react (fun world => world.board = (sink.noted now frame).board
    ∧ world.invalidPackets = (sink.noted now frame).invalidPackets) ?_ (forall_mem_deliverable _) ⟨rfl, rfl⟩
  intro subscriber key packets world _ hworld
  cases subscriber <;> exact hworld

end DataSink

/-! ### What streams queue -/

/-- The CAN frames of a batch fit the bus of a stream. -/
def ReceivedBatch.Fits (payloadType : PayloadType) : ReceivedBatch → Prop
  | .can frames => ∀ frame ∈ frames, frame.arbitrationId.toNat < 2 ^ 29
      ∧ (payloadType = .can ∧ frame.data.length ≤ 8 ∨ payloadType = .canFd ∧ frame.data.length ≤ 64)
  | .analog _ => True

theorem CanFrame.arbitrationId_lt (frame : CanFrame) : frame.arbitrationId.toNat < 2 ^ 29 := by
  rw [arbitrationId, UInt32.toNat_and]
  exact Nat.lt_of_le_of_lt Nat.and_le_right (by decide)

namespace SinkStream

/-- All that is queued fits. -/
def Fits (stream : SinkStream) : Prop := ∀ batch ∈ stream.latest, batch.Fits stream.payloadType

/-- The CAN frames of valid packets of one payload type fit its bus. -/
theorem fits_of_batch? {payloadType : PayloadType} {packets : List Packet} {batch : ReceivedBatch}
    (hpackets : ∀ packet ∈ packets, packet.isValid = true ∧ packet.payloadType = payloadType)
    (hbatch : batch? payloadType packets = some batch) : batch.Fits payloadType := by
  have hframes : ∀ frame ∈ packets.filterMap receivedCan?, frame.arbitrationId.toNat < 2 ^ 29
      ∧ (payloadType = .can ∧ frame.data.length ≤ 8 ∨ payloadType = .canFd ∧ frame.data.length ≤ 64) := by
    intro frame hframe
    obtain ⟨packet, hpacket, hreceived⟩ := List.mem_filterMap.mp hframe
    obtain ⟨hvalid, rfl⟩ := hpackets packet hpacket
    rw [Packet.isValid, Bool.and_eq_true] at hvalid
    have hfits := hvalid.2
    rw [receivedCan?] at hreceived
    rw [Packet.payloadType]
    split at hreceived
    · rename_i bus hpayload
      rw [hpayload] at hfits ⊢
      cases hreceived
      exact ⟨bus.arbitrationId_lt, .inl ⟨rfl, of_decide_eq_true hfits⟩⟩
    · rename_i bus hpayload
      rw [hpayload] at hfits ⊢
      cases hreceived
      exact ⟨bus.arbitrationId_lt, .inr ⟨rfl, of_decide_eq_true hfits⟩⟩
    · cases hreceived
  cases payloadType with
  | can | canFd =>
    rw [batch?] at hbatch
    split at hbatch
    · cases hbatch
    · cases hbatch
      exact hframes
  | analog =>
    rw [batch?] at hbatch
    split at hbatch
    · cases hbatch
    · cases hbatch
      trivial
  | interfaceStatus | captureModuleStatus | invalid | other => cases hbatch

variable {stream : SinkStream}

theorem Fits.enqueue {batch : ReceivedBatch} (h : stream.Fits) (hbatch : batch.Fits stream.payloadType) :
    (stream.enqueue batch).Fits := by
  rw [SinkStream.enqueue]
  split
  · exact List.forall_mem_cons.mpr ⟨hbatch, h⟩
  · exact h

/-- What a stream queues of clean packets fits. -/
theorem Fits.receive {key : StreamKey} {packets : List Packet} (h : stream.Fits) (hclean : CleanFor key packets) :
    (stream.receive key packets).Fits := by
  rw [SinkStream.receive]
  split
  · exact h
  · rw [List.partition_eq_filter_filter]
    dsimp only
    split
    · rename_i batch hbatch
      refine Fits.enqueue h (fits_of_batch? (fun packet hpacket => ?_) hbatch)
      obtain ⟨hfiltered, htype⟩ := List.mem_filter.mp hpacket
      exact ⟨(hclean packet (List.mem_of_mem_filter hfiltered)).1, beq_iff_eq.mp htype⟩
    · exact h

end SinkStream

/-! ### Sinks that are fed frames -/

/-- Packets come to a stream past the sink. -/
def SinkOperation.isDirect : SinkOperation → Bool
  | .receiveDirectly .. => true
  | _ => false

namespace DataSink

/-- What observers were given is clean, and what streams have queued fits. -/
structure Clean (sink : DataSink) : Prop where
  observed : ∀ delivery ∈ sink.observed, CleanFor delivery.key delivery.packets
  queued : ∀ stream, some stream ∈ sink.receivers → stream.Fits

/-- The sink after operations, one after the other. -/
def performAll (sink : DataSink) (operations : List SinkOperation) : DataSink := operations.foldl perform sink

variable {sink : DataSink}

theorem Clean.of_eq {other : DataSink} (h : sink.Clean) (hobserved : other.observed = sink.observed)
    (hreceivers : other.receivers = sink.receivers) : other.Clean where
  observed := by
    rw [hobserved]
    exact h.observed
  queued := by
    rw [hreceivers]
    exact h.queued

theorem Clean.modifyReceiver (h : sink.Clean) (handle : Nat) {change : SinkStream → SinkStream}
    (hchange : ∀ stream : SinkStream, stream.Fits → (change stream).Fits) :
    (sink.modifyReceiver handle change).Clean where
  observed := h.observed
  queued stream hstream := by
    obtain ⟨place, hplace⟩ := List.mem_iff_getElem?.mp hstream
    rw [DataSink.modifyReceiver, List.getElem?_modify, Option.map_eq_map, Option.map_eq_some_iff] at hplace
    obtain ⟨content, hcontent, hstream⟩ := hplace
    split at hstream
    · obtain ⟨before, rfl, rfl⟩ := Option.map_eq_some_iff.mp hstream
      exact hchange before (h.queued before (List.mem_of_getElem? hcontent))
    · rw [hstream] at hcontent
      exact h.queued stream (List.mem_of_getElem? hcontent)

/-- A subscriber that is given clean packets. -/
theorem Clean.react (h : sink.Clean) (subscriber : Subscriber) {key : StreamKey} {packets : List Packet}
    (hclean : CleanFor key packets) : (DataSink.react subscriber key packets sink).Clean := by
  cases subscriber with
  | receiver handle => exact h.modifyReceiver handle fun stream hstream => hstream.receive hclean
  | observer handle => exact ⟨List.forall_mem_cons.mpr ⟨hclean, h.observed⟩, h.queued⟩

theorem Clean.takeFrame (h : sink.Clean) (now : Nat) (frame : Bytes) : (sink.takeFrame now frame).1.Clean := by
  have hnoted : (sink.noted now frame).Clean := h.of_eq rfl rfl
  rw [takeFrame_fst]
  exact dispatch_invariant (·.router) DataSink.react Clean
    (fun subscriber _ _ _ hclean hworld => hworld.react subscriber hclean) (forall_mem_deliverable _) hnoted

theorem Clean.closeStream (h : sink.Clean) (handle : Nat) : (sink.closeStream handle).Clean := by
  rw [DataSink.closeStream]
  split
  · exact h
  · split <;> exact h.of_eq rfl rfl

/-- One operation. -/
theorem Clean.perform (h : sink.Clean) {operation : SinkOperation} (hdirect : operation.isDirect = false) :
    (sink.perform operation).Clean := by
  cases operation with
  | takeFrame now frame => exact h.takeFrame now frame
  | takeEthernetFrame now frame =>
    rw [DataSink.perform, takeEthernetFrame]
    split
    · exact h.takeFrame now _
    · exact h
  | expire | subscribe | unsubscribe | detach => exact h.of_eq rfl rfl
  | openStream key payloadType =>
    refine ⟨h.observed, fun stream hstream => ?_⟩
    rcases List.mem_append.mp hstream with hold | hnew
    · exact h.queued stream hold
    · cases List.mem_singleton.mp hnew
      exact List.forall_mem_nil _
  | moveStream handle key =>
    rw [DataSink.perform, moveStream]
    split
    · exact h
    · split
      · exact h
      · refine Clean.modifyReceiver ?_ handle fun _ hstream => hstream
        exact h.of_eq rfl rfl
  | closeStream handle => exact h.closeStream handle
  | dropStream handle =>
    refine ⟨(h.closeStream handle).observed, fun stream hstream => ?_⟩
    rcases List.mem_or_eq_of_mem_set hstream with hold | hnone
    · exact h.queued stream hold
    · cases hnone
  | receiveDirectly => cases hdirect
  | tryReceive handle =>
    refine h.modifyReceiver handle fun stream hstream => ?_
    rw [SinkStream.tryReceive]
    split
    · exact fun batch hbatch => hstream batch (List.mem_of_mem_dropLast hbatch)
    · exact hstream
  | drain handle => exact h.modifyReceiver handle fun _ _ => List.forall_mem_nil _
  | takeObserved => exact ⟨List.forall_mem_nil _, h.queued⟩

theorem clean_create {config : LinkConfig} (h : create config = .ok sink) : sink.Clean := by
  rw [create] at h
  cases hvalidate : config.validate with
  | error error =>
    rw [hvalidate] at h
    cases h
  | ok accepted =>
    rw [hvalidate] at h
    cases h
    exact ⟨List.forall_mem_nil _, fun _ hstream => (List.not_mem_nil hstream).elim⟩

theorem Clean.performAll {operations : List SinkOperation} (h : sink.Clean)
    (hdirect : ∀ operation ∈ operations, operation.isDirect = false) : (sink.performAll operations).Clean := by
  induction operations generalizing sink with
  | nil => exact h
  | cons operation operations ih =>
    obtain ⟨hfirst, hrest⟩ := List.forall_mem_cons.mp hdirect
    exact ih (h.perform hfirst) hrest

/-- A frame with one CAN frame. -/
def busFrame : Bytes :=
  (Encoder.encode { slot := 9, deviceId := 7, streamId := 9 } {}
    [.ofPayload 1 10 (.can (.ofIdentifier 0x123 [1, 2, 3]))]).2.toOption.getD [] |>.flatten

/-- A new sink. -/
def newSink : DataSink := { config := {}, decoder := { timeout := 2000 } }

end DataSink

end CaptureProtocol
