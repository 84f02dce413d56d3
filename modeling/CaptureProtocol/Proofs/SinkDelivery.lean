import CaptureProtocol.Sink.DataSink
import CaptureProtocol.Proofs.Reception
import Mathlib

/-!
# What a sink hands to its streams

* `SinkOperation`, `DataSink.Reachable` — the sinks that operations lead to; `Reachable.distinct` says that nothing
  subscribes twice to one address;
* `dispatch_publishes` — what publishing a group keeps, dispatching keeps;
* `DataSink.takeFrame_fst` — the packets of a frame are counted and noted, and then handed on;
* `DataSink.takeFrame_receiver` — a frame whose packets are all data of one address goes to an open stream of that
  address, once;
* `DataSink.takeArrivals_receiver` — all frames of a transmission;
* `SinkStream.receiveAll_latest` — what such a stream queues.
-/

namespace CaptureProtocol

/-! ### Subscriptions -/

namespace Router

variable {H : Type} {router : Router H} {key : StreamKey} {handler : H}

/-- Nothing subscribes twice to one address. -/
def Distinct (router : Router H) : Prop := ∀ entry ∈ router.entries, entry.2.Nodup

theorem mem_setEntry {list : List H} {entries : List (StreamKey × List H)} {entry : StreamKey × List H}
    (h : entry ∈ setEntry key list entries) : entry = (key, list) ∨ entry ∈ entries := by
  induction entries with
  | nil =>
    rw [setEntry] at h
    split at h
    · cases h
    · exact .inl (List.mem_singleton.mp h)
  | cons head rest ih =>
    rw [setEntry] at h
    split at h
    · split at h
      · exact .inr (List.mem_cons_of_mem _ h)
      · rcases List.mem_cons.mp h with rfl | hrest
        · exact .inl rfl
        · exact .inr (List.mem_cons_of_mem _ hrest)
    · rcases List.mem_cons.mp h with rfl | hrest
      · exact .inr (List.mem_cons_self ..)
      · exact (ih hrest).imp_right (List.mem_cons_of_mem _)

theorem Distinct.setHandlers (h : router.Distinct) {list : List H} (hlist : list.Nodup) :
    (router.setHandlers key list).Distinct := by
  intro entry hentry
  rcases mem_setEntry hentry with rfl | hold
  · exact hlist
  · exact h entry hold

theorem Distinct.handlers (h : router.Distinct) (key : StreamKey) : (router.handlers key).Nodup := by
  rw [Router.handlers]
  cases hlookup : router.entries.lookup key with
  | none => exact List.nodup_nil
  | some list =>
    obtain ⟨front, back, hentries, -⟩ := List.lookup_eq_some_iff.mp hlookup
    refine h (key, list) ?_
    rw [hentries]
    exact List.mem_append_right _ (List.mem_cons_self ..)

variable [DecidableEq H]

theorem Distinct.subscribe (h : router.Distinct) (key : StreamKey) (handler : H) :
    (router.subscribe key handler).1.Distinct := by
  rw [Router.subscribe]
  split
  · exact h
  · rename_i hnew
    refine h.setHandlers ((h.handlers key).append (List.nodup_singleton _) (List.disjoint_singleton.mpr ?_))
    rwa [List.contains_iff_mem] at hnew

theorem Distinct.unsubscribe (h : router.Distinct) (key : StreamKey) (handler : H) :
    (router.unsubscribe key handler).1.Distinct := by
  rw [Router.unsubscribe]
  split
  · exact h.setHandlers ((h.handlers key).filter _)
  · exact h

theorem Distinct.move (h : router.Distinct) (old new : StreamKey) (handler : H) :
    (router.move old new handler).Distinct := by
  rw [Router.move]
  split
  · exact h
  · exact (h.unsubscribe old handler).subscribe new handler

end Router

/-! ### Groups of packets -/

theorem foldl_addToGroups {key : StreamKey} {packets : List Packet} (h : ∀ packet ∈ packets, packet.key = key)
    (group : List Packet) :
    packets.foldl (fun found packet => addToGroups packet found) [(key, group)]
      = [(key, packets.reverse ++ group)] := by
  induction packets generalizing group with
  | nil => rfl
  | cons packet packets ih =>
    obtain ⟨hkey, hrest⟩ := List.forall_mem_cons.mp h
    rw [List.foldl_cons, addToGroups, if_pos hkey, ih hrest, List.reverse_cons, List.append_assoc,
      List.singleton_append]

/-- Packets of one address make one group. -/
theorem groups_of_key {key : StreamKey} {packets : List Packet} (hne : packets ≠ [])
    (h : ∀ packet ∈ packets, packet.key = key) : groups packets = [(key, packets)] := by
  cases packets with
  | nil => exact (hne rfl).elim
  | cons packet packets =>
    obtain ⟨hkey, hrest⟩ := List.forall_mem_cons.mp h
    rw [groups, List.foldl_cons, addToGroups, hkey, foldl_addToGroups hrest]
    show [(key, (packets.reverse ++ [packet]).reverse)] = _
    rw [List.reverse_append, List.reverse_reverse, List.reverse_singleton, List.singleton_append]

/-- What publishing a group keeps, dispatching keeps. -/
theorem dispatch_publishes {H W : Type} (routes : W → Router H) (react : Reaction H W) (holds : W → Prop)
    {packets : List Packet}
    (hpublish : ∀ entry ∈ groups packets, ∀ world, holds world →
      holds (publish routes react entry.1 entry.2 world).1)
    {world : W} (hworld : holds world) : holds (dispatch routes react packets world).1 := by
  have hfold : ∀ found : List (StreamKey × List Packet),
      (∀ entry ∈ found, ∀ world, holds world → holds (publish routes react entry.1 entry.2 world).1) →
        ∀ state : W × Nat, holds state.1 → holds (found.foldl (fun state entry =>
          ((publish routes react entry.1 entry.2 state.1).1,
            state.2 + (publish routes react entry.1 entry.2 state.1).2)) state).1 := by
    intro found
    induction found with
    | nil => exact fun _ _ hstate => hstate
    | cons entry found ih =>
      intro hfound state hstate
      obtain ⟨hentry, hrest⟩ := List.forall_mem_cons.mp hfound
      exact ih hrest _ (hentry state.1 hstate)
  exact hfold _ hpublish (world, 0) hworld

/-! ### Streams of a sink -/

namespace SinkStream

variable {stream : SinkStream}

/-- No packets hold nothing. -/
theorem batch?_nil (payloadType : PayloadType) : batch? payloadType [] = none := by
  cases payloadType <;> rfl

theorem receive_nil (stream : SinkStream) (key : StreamKey) : stream.receive key [] = stream := by
  rw [SinkStream.receive]
  split
  · rfl
  · obtain ⟨_, payloadType, _, _, _, _, _⟩ := stream
    cases payloadType <;> rfl

/-- Packets of the address and the payload type of a stream are all taken; what they hold is queued. -/
theorem receive_of_matching {packets : List Packet}
    (h : ∀ packet ∈ packets, packet.key = stream.key ∧ packet.payloadType = stream.payloadType) :
    stream.receive stream.key packets
      = match batch? stream.payloadType packets with
        | some batch => enqueue { stream with received := stream.received + packets.length } batch
        | none => { stream with received := stream.received + packets.length } := by
  have hkeys : packets.filter (·.key == stream.key) = packets :=
    List.filter_eq_self.mpr fun packet hpacket => beq_iff_eq.mpr (h packet hpacket).1
  have htypes : packets.filter (·.payloadType == stream.payloadType) = packets :=
    List.filter_eq_self.mpr fun packet hpacket => beq_iff_eq.mpr (h packet hpacket).2
  have hothers : packets.filter (not ∘ (·.payloadType == stream.payloadType)) = [] := by
    refine List.filter_eq_nil_iff.mpr fun packet hpacket => ?_
    rw [Function.comp_apply, beq_iff_eq.mpr (h packet hpacket).2]
    decide
  rw [receive, if_neg (not_not_intro rfl), hkeys, List.partition_eq_filter_filter, htypes, hothers]
  rfl

/-- A batch stays out where there is no room for it. -/
theorem enqueue_latest (stream : SinkStream) (batch : ReceivedBatch) (batches : List ReceivedBatch) :
    (batches.take ((stream.enqueue batch).capacity - (stream.enqueue batch).latest.length)).reverse
        ++ (stream.enqueue batch).latest
      = ((batch :: batches).take (stream.capacity - stream.latest.length)).reverse ++ stream.latest := by
  rw [enqueue]
  split
  · rename_i hroom
    obtain ⟨room, hspace⟩ := Nat.exists_eq_add_of_lt hroom
    have hbefore : stream.capacity - stream.latest.length = room + 1 := by omega
    have hafter : stream.capacity - (batch :: stream.latest).length = room := by
      rw [List.length_cons]
      omega
    dsimp only
    rw [hbefore, hafter, List.take_succ_cons, List.reverse_cons, List.append_assoc, List.singleton_append]
  · rename_i hfull
    have hnone : stream.capacity - stream.latest.length = 0 := Nat.sub_eq_zero_of_le (Nat.le_of_not_lt hfull)
    dsimp only
    rw [hnone, List.take_zero, List.take_zero]

/-- Packets that come in parts: each part that holds something makes one batch, and the earliest batches are queued,
as many as there is room for. -/
theorem receiveAll_latest {key : StreamKey} {payloadType : PayloadType} {parts : List (List Packet)}
    (hkey : stream.key = key) (htype : stream.payloadType = payloadType)
    (h : ∀ part ∈ parts, ∀ packet ∈ part, packet.key = key ∧ packet.payloadType = payloadType) :
    (parts.foldl (fun stream part => stream.receive key part) stream).latest
      = ((parts.filterMap (batch? payloadType)).take (stream.capacity - stream.latest.length)).reverse
        ++ stream.latest := by
  induction parts generalizing stream with
  | nil => rw [List.filterMap_nil, List.take_nil]; rfl
  | cons part parts ih =>
    subst hkey htype
    obtain ⟨hpart, hrest⟩ := List.forall_mem_cons.mp h
    rw [List.foldl_cons, receive_of_matching hpart]
    cases hbatch : batch? stream.payloadType part with
    | none =>
      rw [List.filterMap_cons_none hbatch]
      exact ih rfl rfl hrest
    | some batch =>
      have hsame : ∀ counted : SinkStream, (counted.enqueue batch).key = counted.key
          ∧ (counted.enqueue batch).payloadType = counted.payloadType := by
        intro counted
        rw [enqueue]
        split <;> exact ⟨rfl, rfl⟩
      rw [List.filterMap_cons_some hbatch]
      obtain ⟨hkept, htyped⟩ := hsame { stream with received := stream.received + part.length }
      refine (ih hkept htyped hrest).trans ?_
      exact enqueue_latest { stream with received := stream.received + part.length } batch _

end SinkStream

/-- Packets that report a status. -/
def Packet.isReport (packet : Packet) : Bool := packet.isValid && packet.messageType == .status

/-- The frame inside an Ethernet frame, at the same time. -/
def Arrival.unwrapped (arrival : Arrival) : Arrival :=
  { arrival with bytes := (Ethernet.unwrap? arrival.bytes).getD [] }

namespace DataSink

variable {sink : DataSink} {handle : Nat} {key : StreamKey} {stream : SinkStream}

/-! ### Publishing -/

theorem receiver?_modifyReceiver (sink : DataSink) (other handle : Nat) (change : SinkStream → SinkStream) :
    (sink.modifyReceiver other change).receiver? handle
      = if other = handle then (sink.receiver? handle).map change else sink.receiver? handle := by
  rw [receiver?, modifyReceiver, List.getElem?_modify, receiver?]
  cases sink.receivers[handle]? with
  | none => rw [Option.map_eq_map, Option.map_none, Option.join_none, Option.map_none, ite_self]
  | some place => by_cases hsame : other = handle <;> simp only [hsame, if_true, if_false, Option.map_eq_map,
      Option.map_some, Option.join_some]

theorem receiver?_react (sink : DataSink) (subscriber : Subscriber) (key : StreamKey) (packets : List Packet)
    (handle : Nat) :
    (react subscriber key packets sink).receiver? handle
      = if subscriber = .receiver handle then (sink.receiver? handle).map (·.receive key packets)
        else sink.receiver? handle := by
  cases subscriber with
  | receiver other =>
    rw [react, receiver?_modifyReceiver]
    exact if_congr (Subscriber.receiver.injEq ..).symm.to_iff rfl rfl
  | observer other => rfl

theorem react_decoder (sink : DataSink) (subscriber : Subscriber) (key : StreamKey) (packets : List Packet) :
    (react subscriber key packets sink).decoder = sink.decoder
      ∧ (react subscriber key packets sink).router = sink.router := by
  cases subscriber <;> exact ⟨rfl, rfl⟩

/-- A stream that subscribes once takes the packets once, whatever else subscribes. -/
theorem receiver?_foldl_react {subscribers : List Subscriber} (hnodup : subscribers.Nodup) (sink : DataSink)
    (key : StreamKey) (packets : List Packet) (handle : Nat) :
    (subscribers.foldl (fun sink subscriber => react subscriber key packets sink) sink).receiver? handle
      = if .receiver handle ∈ subscribers then (sink.receiver? handle).map (·.receive key packets)
        else sink.receiver? handle := by
  induction subscribers generalizing sink with
  | nil => rfl
  | cons subscriber subscribers ih =>
    obtain ⟨hfresh, hrest⟩ := List.nodup_cons.mp hnodup
    rw [List.foldl_cons, ih hrest, receiver?_react]
    by_cases hsame : subscriber = .receiver handle
    · subst hsame
      rw [if_neg hfresh, if_pos rfl, if_pos (List.mem_cons_self ..)]
    · rw [if_neg hsame]
      refine if_congr ?_ rfl rfl
      rw [List.mem_cons, or_iff_right (Ne.symm hsame)]

theorem foldl_react_decoder (subscribers : List Subscriber) (sink : DataSink) (key : StreamKey)
    (packets : List Packet) :
    (subscribers.foldl (fun sink subscriber => react subscriber key packets sink) sink).decoder = sink.decoder
      ∧ (subscribers.foldl (fun sink subscriber => react subscriber key packets sink) sink).router = sink.router := by
  induction subscribers generalizing sink with
  | nil => exact ⟨rfl, rfl⟩
  | cons subscriber subscribers ih =>
    obtain ⟨hdecoder, hrouter⟩ := ih (react subscriber key packets sink)
    obtain ⟨hdecoderStep, hrouterStep⟩ := react_decoder sink subscriber key packets
    exact ⟨hdecoder.trans hdecoderStep, hrouter.trans hrouterStep⟩

/-- Packets of one address, none of which is a status report, are handed to the subscribers of the address. -/
theorem dispatch_of_key (sink : DataSink) {packets : List Packet} (h : ∀ packet ∈ packets, packet.key = key) :
    (dispatch (·.router) react packets sink).1
      = if packets = [] then sink
        else (sink.router.handlers key).foldl (fun sink subscriber => react subscriber key packets sink) sink := by
  split
  · rename_i hempty
    rw [hempty]
    rfl
  · rename_i hne
    rw [dispatch, groups_of_key hne h]
    rfl

/-! ### Frames -/

/-- The invalid packets are counted and the reports are put on the board; nothing else changes. -/
theorem foldl_takeStatus_eq (packets : List Packet) (sink : DataSink) :
    packets.foldl takeStatus sink
      = { sink with
          invalidPackets := sink.invalidPackets + (packets.filter (!·.isValid)).length
          board := (packets.filter Packet.isReport).foldl (fun board packet => (board.process packet).1)
            sink.board } := by
  induction packets generalizing sink with
  | nil => rfl
  | cons packet packets ih =>
    rw [List.foldl_cons, ih, takeStatus]
    by_cases hvalid : packet.isValid = true
    · by_cases hstatus : packet.messageType = .status
      · simp [Packet.isReport, hvalid, hstatus]
      · simp [Packet.isReport, hvalid, hstatus]
    · simp [Packet.isReport, hvalid]
      omega

/-- The sink after a frame was decoded, before its packets are handed on. -/
def noted (sink : DataSink) (now : Nat) (frame : Bytes) : DataSink :=
  { sink with
    decoder := (sink.decoder.decode now frame).1
    frames := sink.frames + 1
    invalidPackets := sink.invalidPackets + ((sink.decoder.decode now frame).2.filter (!·.isValid)).length
    board := ((sink.decoder.decode now frame).2.filter Packet.isReport).foldl
      (fun board packet => (board.process packet).1) sink.board }

/-- The packets of a frame are counted and noted, and then handed on. -/
theorem takeFrame_fst (sink : DataSink) (now : Nat) (frame : Bytes) :
    (sink.takeFrame now frame).1
      = (dispatch (·.router) react ((sink.decoder.decode now frame).2.filter isDeliverable)
          (sink.noted now frame)).1 := by
  have hnoted := foldl_takeStatus_eq (sink.decoder.decode now frame).2
    { sink with decoder := (sink.decoder.decode now frame).1, frames := sink.frames + 1 }
  exact congrArg (fun noted =>
    (dispatch (·.router) react ((sink.decoder.decode now frame).2.filter isDeliverable) noted).1) hnoted

/-- A frame whose packets are all data of one address goes to an open stream of that address, once. -/
theorem takeFrame_receiver (hdistinct : sink.router.Distinct)
    (hopen : .receiver handle ∈ sink.router.handlers key) (hstream : sink.receiver? handle = some stream) {now : Nat}
    {frame : Bytes}
    (hpackets : ∀ packet ∈ (sink.decoder.decode now frame).2, isDeliverable packet = true ∧ packet.key = key) :
    (sink.takeFrame now frame).1.receiver? handle = some (stream.receive key (sink.decoder.decode now frame).2)
      ∧ (sink.takeFrame now frame).1.decoder = (sink.decoder.decode now frame).1
      ∧ (sink.takeFrame now frame).1.router = sink.router := by
  have hfilter : (sink.decoder.decode now frame).2.filter isDeliverable = (sink.decoder.decode now frame).2 :=
    List.filter_eq_self.mpr fun packet hpacket => (hpackets packet hpacket).1
  rw [takeFrame_fst, hfilter, dispatch_of_key _ fun packet hpacket => (hpackets packet hpacket).2]
  split
  · rename_i hempty
    rw [hempty, SinkStream.receive_nil]
    exact ⟨hstream, rfl, rfl⟩
  · obtain ⟨hdecoder, hrouter⟩ := foldl_react_decoder (sink.router.handlers key) (sink.noted now frame) key
      (sink.decoder.decode now frame).2
    refine ⟨?_, hdecoder, hrouter⟩
    show (List.foldl _ (sink.noted now frame) (sink.router.handlers key)).receiver? handle = _
    rw [receiver?_foldl_react (hdistinct.handlers key), if_pos hopen]
    show (sink.receiver? handle).map _ = _
    rw [hstream, Option.map_some]

/-! ### Transmissions -/

/-- Takes Ethernet frames in order, each at its own time. -/
def takeArrivals (sink : DataSink) (arrivals : List Arrival) : DataSink :=
  arrivals.foldl (fun sink arrival => (sink.takeEthernetFrame arrival.time arrival.bytes).1) sink

/-- A transmission that gives data of one address only: the open stream of the address takes its packets in parts, one
for each frame. -/
theorem takeArrivals_receiver {arrivals : List Arrival} (hdistinct : sink.router.Distinct)
    (hopen : .receiver handle ∈ sink.router.handlers key) (hstream : sink.receiver? handle = some stream)
    (hunwrap : ∀ arrival ∈ arrivals, Ethernet.unwrap? arrival.bytes = some arrival.unwrapped.bytes)
    (hpackets : ∀ packet ∈ (sink.decoder.receive (arrivals.map Arrival.unwrapped)).2,
      isDeliverable packet = true ∧ packet.key = key) :
    ∃ parts : List (List Packet), parts.length = arrivals.length
      ∧ parts.flatten = (sink.decoder.receive (arrivals.map Arrival.unwrapped)).2
      ∧ (sink.takeArrivals arrivals).receiver? handle
        = some (parts.foldl (fun stream part => stream.receive key part) stream) := by
  induction arrivals generalizing sink stream with
  | nil => exact ⟨[], rfl, rfl, hstream⟩
  | cons arrival arrivals ih =>
    obtain ⟨hfirst, hrest⟩ := List.forall_mem_cons.mp hunwrap
    rw [List.map_cons, Decoder.receive_cons] at hpackets
    obtain ⟨hnow, hlater⟩ := List.forall_mem_append.mp hpackets
    have htake : (sink.takeEthernetFrame arrival.time arrival.bytes).1
        = (sink.takeFrame arrival.time arrival.unwrapped.bytes).1 := by
      rw [takeEthernetFrame, hfirst]
    obtain ⟨hreceived, hdecoder, hrouter⟩ := takeFrame_receiver hdistinct hopen hstream hnow
    rw [← hdecoder] at hlater
    rw [← hrouter] at hdistinct hopen
    obtain ⟨parts, hcount, hparts, hafter⟩ := ih hdistinct hopen hreceived hrest hlater
    refine ⟨(sink.decoder.decode arrival.time arrival.unwrapped.bytes).2 :: parts, ?_, ?_, ?_⟩
    · rw [List.length_cons, List.length_cons, hcount]
    · rw [List.flatten_cons, hparts, hdecoder, List.map_cons, Decoder.receive_cons]
      rfl
    · rw [takeArrivals, List.foldl_cons, htake]
      exact hafter

/-! ### Reachable sinks -/

end DataSink

/-- An operation of a sink or of one of its streams. -/
inductive SinkOperation where
  | takeFrame (now : Nat) (frame : Bytes)
  | takeEthernetFrame (now : Nat) (frame : Bytes)
  | expire (now : Nat)
  | subscribe (key : StreamKey) (observer : Nat)
  | unsubscribe (key : StreamKey) (observer : Nat)
  | openStream (key : StreamKey) (payloadType : PayloadType)
  | moveStream (handle : Nat) (key : StreamKey)
  | closeStream (handle : Nat)
  | dropStream (handle : Nat)
  /-- Packets are handed to a stream from outside. -/
  | receiveDirectly (handle : Nat) (key : StreamKey) (packets : List Packet)
  | tryReceive (handle : Nat)
  | drain (handle : Nat)
  | takeObserved
  | detach

namespace DataSink

variable {sink : DataSink}

/-- The sink after an operation. -/
def perform (sink : DataSink) : SinkOperation → DataSink
  | .takeFrame now frame => (sink.takeFrame now frame).1
  | .takeEthernetFrame now frame => (sink.takeEthernetFrame now frame).1
  | .expire now => (sink.expire now).1
  | .subscribe key observer => (sink.subscribe key observer).1
  | .unsubscribe key observer => (sink.unsubscribe key observer).1
  | .openStream key payloadType => (sink.openStream key payloadType).2
  | .moveStream handle key => sink.moveStream handle key
  | .closeStream handle => sink.closeStream handle
  | .dropStream handle => sink.dropStream handle
  | .receiveDirectly handle key packets => sink.receiveDirectly handle key packets
  | .tryReceive handle => sink.modifyReceiver handle fun stream => stream.tryReceive.2
  | .drain handle => sink.modifyReceiver handle fun stream => stream.drain.2
  | .takeObserved => sink.takeObserved.2
  | .detach => sink.detach

/-- A sink that was created and has gone through operations. -/
inductive Reachable : DataSink → Prop
  | create {config : LinkConfig} {sink : DataSink} (hcreate : create config = .ok sink) : Reachable sink
  | perform {sink : DataSink} (hreachable : Reachable sink) (operation : SinkOperation) :
      Reachable (sink.perform operation)

theorem takeFrame_router (sink : DataSink) (now : Nat) (frame : Bytes) :
    (sink.takeFrame now frame).1.router = sink.router := by
  have hnoted : (sink.noted now frame).router = sink.router := rfl
  rw [takeFrame_fst]
  refine dispatch_publishes (·.router) react (fun world : DataSink => world.router = sink.router) ?_ hnoted
  intro entry _ world hworld
  exact (foldl_react_decoder _ world entry.1 entry.2).2.trans hworld

theorem Reachable.distinct (h : Reachable sink) : sink.router.Distinct := by
  induction h with
  | @create config sink hcreate =>
    rw [DataSink.create] at hcreate
    cases hvalidate : config.validate with
    | error error =>
      rw [hvalidate] at hcreate
      cases hcreate
    | ok accepted =>
      rw [hvalidate] at hcreate
      cases hcreate
      exact List.forall_mem_nil _
  | @perform sink _ operation ih =>
    have hclose : ∀ handle, (sink.closeStream handle).router.Distinct := by
      intro handle
      rw [closeStream]
      split
      · exact ih
      · split
        · exact ih.unsubscribe _ _
        · exact ih
    cases operation with
    | takeFrame now frame => rw [DataSink.perform, takeFrame_router]; exact ih
    | takeEthernetFrame now frame =>
      rw [DataSink.perform, takeEthernetFrame]
      split
      · rw [takeFrame_router]
        exact ih
      · exact ih
    | subscribe key observer => exact ih.subscribe key _
    | unsubscribe key observer => exact ih.unsubscribe key _
    | openStream key payloadType => exact ih.subscribe key _
    | moveStream handle key =>
      rw [DataSink.perform, moveStream]
      split
      · exact ih
      · split
        · exact ih
        · show (if sink.attached then _ else _ : Router Subscriber).Distinct
          split
          · exact ih.move _ _ _
          · exact ih
    | closeStream handle => exact hclose handle
    | dropStream handle => exact hclose handle
    | detach => exact List.forall_mem_nil _
    | expire | receiveDirectly | tryReceive | drain | takeObserved => exact ih

end DataSink

end CaptureProtocol
