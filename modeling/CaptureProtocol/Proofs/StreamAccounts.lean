import CaptureProtocol.Proofs.Listeners
import CaptureProtocol.Proofs.PayloadGrammar
import Mathlib

/-!
# The books of a stream

A stream counts the packets that it takes and refuses and the batches that it drops.  Whatever is done with it, in
whatever order, the counters and the queue add up.

* `StreamCall`, `SinkStream.call` — what is done with a stream; `StreamCall.operation` — the same through a sink;
* `addressed` — what each call of `receive` hands to a stream that has, at that moment, the address of the call;
* `SinkStream.Accounts` — how counters and queue change while packets are handed over; `Accounts.trans` puts two
  accounts together, `accounts_call` is the account of one call, `accounts_collect` of all of them;
* `ReceivedBatch.Holds` — a batch has what packets hold; `SinkStream.exists_batch?` gives the batch of a call;
* `DataSink.receiver?_foldl_operation` — calls through a sink;
* `SinkStream.collect_balances` — the books of a new stream.
-/

namespace CaptureProtocol

/-- What is done with a stream. -/
inductive StreamCall where
  | receive (key : StreamKey) (packets : List Packet)
  | move (key : StreamKey)
  | tryReceive
  | drain
deriving DecidableEq, Inhabited, Repr

/-- A call of a stream, made through its sink. -/
def StreamCall.operation (handle : Nat) : StreamCall → SinkOperation
  | receive key packets => .receiveDirectly handle key packets
  | move key => .moveStream handle key
  | tryReceive => .tryReceive handle
  | drain => .drain handle

/-- The packets that each call of `receive` hands to a stream of an address: those of this address, if the call is for
it, and otherwise none. -/
def addressed (key : StreamKey) : List StreamCall → List (List Packet)
  | [] => []
  | .receive called packets :: calls =>
    (if called = key then packets.filter (fun packet => packet.key = key) else []) :: addressed key calls
  | .move moved :: calls => addressed moved calls
  | .tryReceive :: calls | .drain :: calls => addressed key calls

namespace SinkStream

/-- The stream after a call, and what the call takes out. -/
def call (stream : SinkStream) : StreamCall → SinkStream × List ReceivedBatch
  | .receive key packets => (stream.receive key packets, [])
  | .move key => ({ stream with key }, [])
  | .tryReceive => (stream.tryReceive.2, stream.tryReceive.1.toList)
  | .drain => (stream.drain.2, stream.drain.1)

/-- The packets that a stream takes. -/
def accepted (payloadType : PayloadType) (packets : List Packet) : List Packet :=
  packets.filter fun packet => packet.payloadType = payloadType

/-- The packets that a stream refuses. -/
def refused (payloadType : PayloadType) (packets : List Packet) : List Packet :=
  packets.filter fun packet => packet.payloadType ≠ payloadType

/-- What is queued for the packets that are handed over, call by call, if there is room. -/
def offered (payloadType : PayloadType) (lists : List (List Packet)) : List ReceivedBatch :=
  (lists.map (accepted payloadType)).filterMap (batch? payloadType)

/-- How a stream changes while packets are handed to it and batches are taken out: the counters grow by what was
handed over, and what has come into the queue has left it or waits, in order. -/
structure Accounts (before : SinkStream) (lists : List (List Packet)) (taken : List ReceivedBatch)
    (after : SinkStream) : Prop where
  payloadType : after.payloadType = before.payloadType
  capacity : after.capacity = before.capacity
  received : after.received
    = before.received + total (fun packets => (accepted before.payloadType packets).length) lists
  rejected : after.rejected = before.rejected + total (fun packets => (refused before.payloadType packets).length) lists
  /-- The batches that came into the queue; the others were dropped. -/
  flow : ∃ admitted, admitted.Sublist (offered before.payloadType lists)
    ∧ before.latest.reverse ++ admitted = taken ++ after.latest.reverse
    ∧ after.dropped + admitted.length = before.dropped + (offered before.payloadType lists).length
  room : before.latest.length ≤ before.capacity → after.latest.length ≤ after.capacity

variable {before between after stream : SinkStream} {first second : List (List Packet)}
  {taken later : List ReceivedBatch}

theorem Accounts.trans (h : Accounts before first taken between) (hlater : Accounts between second later after) :
    Accounts before (first ++ second) (taken ++ later) after := by
  obtain ⟨admitted, hadmitted, hqueue, hdropped⟩ := h.flow
  obtain ⟨others, hothers, hqueueLater, hdroppedLater⟩ := hlater.flow
  rw [h.payloadType] at hothers hdroppedLater
  have hoffered : offered before.payloadType (first ++ second)
      = offered before.payloadType first ++ offered before.payloadType second := by
    rw [offered, List.map_append, List.filterMap_append]
    rfl
  refine ⟨hlater.payloadType.trans h.payloadType, hlater.capacity.trans h.capacity, ?_, ?_,
    ⟨admitted ++ others, ?_, ?_, ?_⟩, fun hroom => hlater.room (h.room hroom)⟩
  · rw [hlater.received, h.received, h.payloadType, total_append, Nat.add_assoc]
  · rw [hlater.rejected, h.rejected, h.payloadType, total_append, Nat.add_assoc]
  · rw [hoffered]
    exact hadmitted.append hothers
  · rw [← List.append_assoc, hqueue, List.append_assoc, hqueueLater, List.append_assoc]
  · rw [hoffered, List.length_append, List.length_append]
    omega

/-- Nothing is handed over; batches leave the queue from its front. -/
theorem accounts_of_queue (key : StreamKey) {latest : List ReceivedBatch}
    (h : stream.latest.reverse = taken ++ latest.reverse) :
    Accounts stream [] taken { stream with key, latest } := by
  refine ⟨rfl, rfl, rfl, rfl, ⟨[], List.nil_sublist _, ?_, rfl⟩, ?_⟩
  · rw [List.append_nil]
    exact h
  · intro hroom
    have hlength := congrArg List.length h
    simp only [List.length_append, List.length_reverse] at hlength
    show latest.length ≤ stream.capacity
    omega

theorem offered_singleton (payloadType : PayloadType) (packets : List Packet) :
    offered payloadType [packets] = (batch? payloadType (accepted payloadType packets)).toList := by
  cases hbatch : batch? payloadType (accepted payloadType packets) <;> simp [offered, hbatch]

/-- The stream after packets were counted. -/
def count (stream : SinkStream) (handed : List Packet) : SinkStream :=
  { stream with
    received := stream.received + (accepted stream.payloadType handed).length
    rejected := stream.rejected + (refused stream.payloadType handed).length }

/-- A call for the address of a stream. -/
theorem receive_self (stream : SinkStream) (packets : List Packet) :
    let handed := packets.filter fun packet => packet.key = stream.key
    stream.receive stream.key packets
      = match batch? stream.payloadType (accepted stream.payloadType handed) with
        | some batch => (stream.count handed).enqueue batch
        | none => stream.count handed := by
  intro handed
  have hrefused : refused stream.payloadType handed
      = handed.filter (not ∘ fun packet => packet.payloadType == stream.payloadType) := by
    refine List.filter_congr ?_
    intro packet _
    simp [BEq.beq]
  rw [receive, if_neg (not_not_intro rfl), List.partition_eq_filter_filter]
  simp only [count, hrefused]
  rfl

/-- A batch is queued if there is room, and else dropped. -/
theorem enqueue_cases (stream : SinkStream) (batch : ReceivedBatch) :
    (stream.latest.length < stream.capacity
        ∧ stream.enqueue batch = { stream with latest := batch :: stream.latest })
      ∨ (stream.capacity ≤ stream.latest.length
        ∧ stream.enqueue batch = { stream with dropped := stream.dropped + 1 }) := by
  rw [enqueue]
  split
  · rename_i hroom
    exact .inl ⟨hroom, rfl⟩
  · rename_i hfull
    exact .inr ⟨Nat.le_of_not_lt hfull, rfl⟩

section

variable {handed : List Packet}

/-- Packets that hold nothing are only counted. -/
theorem accounts_count (h : batch? stream.payloadType (accepted stream.payloadType handed) = none) :
    Accounts stream [handed] [] (stream.count handed) := by
  have hoffered := offered_singleton stream.payloadType handed
  rw [h, Option.toList_none] at hoffered
  refine ⟨rfl, rfl, rfl, rfl, ⟨[], List.nil_sublist _, List.append_nil _, ?_⟩, id⟩
  rw [hoffered]
  rfl

/-- What other packets hold is queued if there is room. -/
theorem accounts_enqueue {batch : ReceivedBatch}
    (h : batch? stream.payloadType (accepted stream.payloadType handed) = some batch) :
    Accounts stream [handed] [] ((stream.count handed).enqueue batch) := by
  have hoffered := offered_singleton stream.payloadType handed
  rw [h, Option.toList_some] at hoffered
  rcases enqueue_cases (stream.count handed) batch with ⟨hroom, hafter⟩ | ⟨-, hafter⟩
  · rw [hafter]
    refine ⟨rfl, rfl, rfl, rfl, ⟨[batch], ?_, ?_, ?_⟩, fun _ => hroom⟩
    · rw [hoffered]
    · rw [List.nil_append, List.reverse_cons]
      rfl
    · rw [hoffered]
      rfl
  · rw [hafter]
    refine ⟨rfl, rfl, rfl, rfl, ⟨[], List.nil_sublist _, List.append_nil _, ?_⟩, id⟩
    rw [hoffered]
    rfl

/-- A call for the address of a stream hands over the packets of this address. -/
theorem accounts_receive (stream : SinkStream) (packets : List Packet) :
    Accounts stream [packets.filter fun packet => packet.key = stream.key] [] (stream.receive stream.key packets) := by
  rw [receive_self]
  split
  · rename_i hbatch
    exact accounts_enqueue hbatch
  · rename_i hnone
    exact accounts_count hnone

/-- A call for another address hands nothing over. -/
theorem accounts_receive_of_ne {called : StreamKey} (h : called ≠ stream.key) (packets : List Packet) :
    Accounts stream [[]] [] (stream.receive called packets) := by
  rw [receive, if_pos h]
  exact accounts_count (batch?_nil stream.payloadType)

end

/-- The account of one call. -/
theorem accounts_call (stream : SinkStream) (call : StreamCall) :
    Accounts stream (addressed stream.key [call]) (stream.call call).2 (stream.call call).1 := by
  cases call with
  | receive called packets =>
    rw [addressed, addressed]
    by_cases hkey : called = stream.key
    · subst hkey
      rw [if_pos rfl]
      exact accounts_receive stream packets
    · rw [if_neg hkey]
      exact accounts_receive_of_ne hkey packets
  | move key => exact accounts_of_queue key rfl
  | tryReceive =>
    show Accounts stream [] stream.tryReceive.1.toList stream.tryReceive.2
    rw [tryReceive]
    cases hlast : stream.latest.getLast? with
    | none => exact accounts_of_queue stream.key rfl
    | some batch =>
      refine accounts_of_queue stream.key ?_
      show stream.latest.reverse = [batch] ++ stream.latest.dropLast.reverse
      rw [List.singleton_append, ← List.reverse_concat, List.dropLast_append_getLast? batch hlast]
  | drain => exact accounts_of_queue stream.key (List.append_nil _).symm

/-- What later calls hand over depends on the address that a call leaves. -/
theorem addressed_cons (stream : SinkStream) (call : StreamCall) (calls : List StreamCall) :
    addressed stream.key (call :: calls)
      = addressed stream.key [call] ++ addressed (stream.call call).1.key calls := by
  cases call with
  | receive called packets =>
    show _ = _ ++ addressed (stream.receive called packets).key calls
    rw [key_receive, addressed, addressed, addressed, List.singleton_append]
  | move key => rfl
  | tryReceive =>
    show _ = _ ++ addressed stream.tryReceive.2.key calls
    rw [key_tryReceive]
    rfl
  | drain => rfl

/-- The account of a run of calls.  The induction is on the calls that are still to come. -/
theorem accounts_collect (stream : SinkStream) (calls : List StreamCall) :
    Accounts stream (addressed stream.key calls) (Run.collect call stream calls).2 (Run.collect call stream calls).1 := by
  induction calls generalizing stream with
  | nil => exact accounts_of_queue stream.key rfl
  | cons call calls ih =>
    rw [Run.collect_cons, addressed_cons]
    exact (accounts_call stream call).trans (ih (stream.call call).1)

/-- A batch is dropped only when the queue is full. -/
theorem dropped_call (stream : SinkStream) (call : StreamCall) :
    (stream.call call).1.dropped = stream.dropped ∨ stream.capacity ≤ stream.latest.length := by
  cases call with
  | receive called packets =>
    by_cases hkey : called = stream.key
    · subst hkey
      show (stream.receive stream.key packets).dropped = _ ∨ _
      rw [receive_self]
      split
      · rename_i batch _
        rcases enqueue_cases (stream.count (packets.filter fun packet => packet.key = stream.key)) batch with
          ⟨-, hafter⟩ | ⟨hfull, -⟩
        · rw [hafter]
          exact .inl rfl
        · exact .inr hfull
      · exact .inl rfl
    · show (stream.receive called packets).dropped = _ ∨ _
      rw [receive, if_pos hkey]
      exact .inl rfl
  | move key => exact .inl rfl
  | tryReceive =>
    show stream.tryReceive.2.dropped = _ ∨ _
    rw [tryReceive]
    split <;> exact .inl rfl
  | drain => exact .inl rfl

end SinkStream

/-! ### What a batch holds -/

/-- A batch holds what packets hold, one after the other. -/
def ReceivedBatch.Holds (packets : List Packet) : ReceivedBatch → Prop
  | .can frames => packets.map SinkStream.receivedCan? = frames.map some
  | .analog output => ∃ blocks : List (UInt64 × AnalogBlock), packets.map SinkStream.analogBlock? = blocks.map some
      ∧ output.values = blocks.flatMap fun block => block.2.physicalValues

theorem map_eq_map_some_filterMap {α β : Type} {f : α → Option β} {list : List α}
    (h : ∀ entry ∈ list, ∃ value, f entry = some value) : list.map f = (list.filterMap f).map some := by
  induction list with
  | nil => rfl
  | cons entry list ih =>
    obtain ⟨⟨value, hvalue⟩, hrest⟩ := List.forall_mem_cons.mp h
    rw [List.filterMap_cons_some hvalue, List.map_cons, List.map_cons, hvalue, ih hrest]

namespace SinkStream

theorem exists_receivedCan? {packet : Packet} (h : packet.payloadType = .can ∨ packet.payloadType = .canFd) :
    ∃ frame, receivedCan? packet = some frame := by
  obtain ⟨hcan, hcanFd, -⟩ := packet.payload.payloadType_eq_iff
  rcases h with h | h
  · obtain ⟨frame, hframe⟩ := hcan.mp h
    rw [receivedCan?, hframe]
    exact ⟨_, rfl⟩
  · obtain ⟨frame, hframe⟩ := hcanFd.mp h
    rw [receivedCan?, hframe]
    exact ⟨_, rfl⟩

theorem exists_analogBlock? {packet : Packet} (h : packet.payloadType = .analog) :
    ∃ block, analogBlock? packet = some block := by
  obtain ⟨-, -, hanalog, -⟩ := packet.payload.payloadType_eq_iff
  obtain ⟨block, hblock⟩ := hanalog.mp h
  rw [analogBlock?, hblock]
  exact ⟨_, rfl⟩

/-- Packets that a stream takes make a batch that holds what they hold. -/
theorem exists_batch? {payloadType : PayloadType} (hdata : payloadType.isData = true) {packets : List Packet}
    (hne : packets ≠ []) (htype : ∀ packet ∈ packets, packet.payloadType = payloadType) :
    ∃ batch, batch? payloadType packets = some batch ∧ batch.Holds packets := by
  have hframes : payloadType = .can ∨ payloadType = .canFd →
      ∃ batch, batch? payloadType packets = some batch ∧ batch.Holds packets := by
    intro hbus
    have hmap : packets.map receivedCan? = (packets.filterMap receivedCan?).map some :=
      map_eq_map_some_filterMap fun packet hpacket => exists_receivedCan? (by rwa [htype packet hpacket])
    have hfilled : (packets.filterMap receivedCan?).isEmpty = false := by
      rw [List.isEmpty_eq_false_iff]
      intro hempty
      rw [hempty, List.map_nil, List.map_eq_nil_iff] at hmap
      exact hne hmap
    refine ⟨.can (packets.filterMap receivedCan?), ?_, hmap⟩
    rcases hbus with rfl | rfl <;> simp [batch?, hfilled]
  cases payloadType with
  | can => exact hframes (.inl rfl)
  | canFd => exact hframes (.inr rfl)
  | analog =>
    have hmap : packets.map analogBlock? = (packets.filterMap analogBlock?).map some :=
      map_eq_map_some_filterMap fun packet hpacket => exists_analogBlock? (htype packet hpacket)
    cases hblocks : packets.filterMap analogBlock? with
    | nil =>
      rw [hblocks, List.map_nil, List.map_eq_nil_iff] at hmap
      exact absurd hmap hne
    | cons block blocks =>
      rw [hblocks] at hmap
      simp only [batch?, hblocks]
      exact ⟨_, rfl, block :: blocks, hmap, rfl⟩
  | _ => cases hdata

/-- One batch is offered for each call that hands over a packet which the stream takes. -/
theorem forall₂_offered {payloadType : PayloadType} (hdata : payloadType.isData = true) (lists : List (List Packet)) :
    List.Forall₂ (fun packets batch => batch? payloadType packets = some batch ∧ batch.Holds packets)
      ((lists.map (accepted payloadType)).filter (· ≠ [])) (offered payloadType lists) := by
  induction lists with
  | nil => exact .nil
  | cons packets lists ih =>
    by_cases hnone : accepted payloadType packets = []
    · have hbatch : batch? payloadType (accepted payloadType packets) = none := by rw [hnone, batch?_nil]
      rw [offered, List.map_cons, List.filterMap_cons_none hbatch, List.filter_cons_of_neg (by simp [hnone])]
      exact ih
    · have htype : ∀ packet ∈ accepted payloadType packets, packet.payloadType = payloadType :=
        fun packet hpacket => of_decide_eq_true (List.mem_filter.mp hpacket).2
      obtain ⟨batch, hbatch, hholds⟩ := exists_batch? hdata hnone htype
      rw [offered, List.map_cons, List.filterMap_cons_some hbatch, List.filter_cons_of_pos (by simpa using hnone)]
      exact .cons ⟨hbatch, hholds⟩ ih

end SinkStream

/-! ### Calls through the sink -/

/-- A call through the sink does to the stream what the call does. -/
theorem DataSink.receiver?_perform_operation (sink : DataSink) (handle : Nat) (call : StreamCall) :
    (sink.perform (call.operation handle)).receiver? handle
      = (sink.receiver? handle).map fun stream => (stream.call call).1 := by
  cases call with
  | move key =>
    show (sink.moveStream handle key).receiver? handle = _
    rw [moveStream]
    cases hreceiver : sink.receiver? handle with
    | none => exact hreceiver
    | some stream =>
      dsimp only
      split
      · rename_i hkey
        rw [hreceiver, ← hkey]
        rfl
      · have hmodified := receiver?_modifyReceiver
          { sink with router := if sink.attached then sink.router.move stream.key key (.receiver handle) else sink.router }
          handle handle fun stream => { stream with key }
        rw [if_pos rfl] at hmodified
        refine hmodified.trans ?_
        show (sink.receiver? handle).map _ = _
        rw [hreceiver]
        rfl
  | receive key packets => exact (receiver?_modifyReceiver sink handle handle _).trans (if_pos rfl)
  | tryReceive => exact (receiver?_modifyReceiver sink handle handle _).trans (if_pos rfl)
  | drain => exact (receiver?_modifyReceiver sink handle handle _).trans (if_pos rfl)

theorem DataSink.receiver?_foldl_operation (sink : DataSink) (handle : Nat) (calls : List StreamCall) :
    ((calls.map (StreamCall.operation handle)).foldl perform sink).receiver? handle
      = (sink.receiver? handle).map fun stream => (Run.collect SinkStream.call stream calls).1 := by
  induction calls generalizing sink with
  | nil =>
    show sink.receiver? handle = (sink.receiver? handle).map id
    rw [Option.map_id, id]
  | cons call calls ih =>
    rw [List.map_cons, List.foldl_cons, ih, receiver?_perform_operation, Option.map_map]
    refine congrArg (fun change => (sink.receiver? handle).map change) ?_
    funext stream
    rw [Run.collect_cons]
    rfl

/-! ### The books of a new stream -/

namespace SinkStream

/-- Whatever is done with a new stream of bus data: it has received the packets of its type that were handed to it under
the address that it then had, and rejected those of other types; the batches that were taken out, those that wait and
those that were dropped are as many as the calls with a packet that it received; the queue has never more batches than
it holds, and a batch is dropped only when it is full; the batches come out in the order of these calls, and each holds
what the packets of its call hold.  Through a sink it is the same. -/
theorem collect_balances (key : StreamKey) {payloadType : PayloadType} (hdata : payloadType.isData = true)
    (capacity : Nat) (calls : List StreamCall) :
    let after := (Run.collect call { key, payloadType, capacity } calls).1
    let taken := (Run.collect call { key, payloadType, capacity } calls).2
    let handed := addressed key calls
    after.received = total (fun packets => (accepted payloadType packets).length) handed
      ∧ after.rejected = total (fun packets => (refused payloadType packets).length) handed
      ∧ taken.length + after.latest.length + after.dropped
        = (handed.map (accepted payloadType)).countP (· ≠ [])
      ∧ after.latest.length ≤ capacity
      ∧ (∀ next, (after.call next).1.dropped ≠ after.dropped → after.latest.length = capacity)
      ∧ (∃ batches, List.Forall₂ (fun packets batch => batch? payloadType packets = some batch ∧ batch.Holds packets)
            ((handed.map (accepted payloadType)).filter (· ≠ [])) batches
          ∧ (taken ++ after.latest.reverse).Sublist batches)
      ∧ ∀ (sink : DataSink) (handle : Nat), sink.receiver? handle = some { key, payloadType, capacity } →
          ((calls.map (StreamCall.operation handle)).foldl DataSink.perform sink).receiver? handle = some after := by
  intro after taken handed
  have haccounts : Accounts { key, payloadType, capacity } handed taken after := accounts_collect _ calls
  obtain ⟨admitted, hadmitted, hqueue, hdropped⟩ := haccounts.flow
  have hqueue : admitted = taken ++ after.latest.reverse := hqueue
  have hdropped : after.dropped + admitted.length = 0 + (offered payloadType handed).length := hdropped
  have hroom : after.latest.length ≤ capacity :=
    (haccounts.room (Nat.zero_le capacity)).trans_eq haccounts.capacity
  have hoffered := forall₂_offered hdata handed
  have hcount := hoffered.length_eq
  rw [← List.countP_eq_length_filter] at hcount
  refine ⟨?_, ?_, ?_, hroom, ?_, ⟨offered payloadType handed, hoffered, ?_⟩, ?_⟩
  · rw [haccounts.received, Nat.zero_add]
  · rw [haccounts.rejected, Nat.zero_add]
  · rw [hqueue, List.length_append, List.length_reverse] at hdropped
    rw [hcount]
    omega
  · intro next hnext
    have hfull := (dropped_call after next).resolve_left hnext
    rw [haccounts.capacity] at hfull
    exact Nat.le_antisymm hroom hfull
  · rw [← hqueue]
    exact hadmitted
  · intro sink handle hreceiver
    rw [DataSink.receiver?_foldl_operation, hreceiver]
    rfl

/-- A CAN packet of stream 3 of an interface. -/
def busPacket (interfaceId : UInt32) : Packet :=
  { Packet.ofPayload interfaceId 10 (.can (.ofIdentifier 0x123 [1])) with deviceId := 7, streamId := 3 }

/-- What happens to a stream of interface 1 that later moves to interface 2.  The first call for its address hands over
a packet of another address and one of another type; the second finds the queue full, if that holds one batch. -/
def crowdedCalls : List StreamCall :=
  [.receive ⟨7, 1, 3⟩ [busPacket 1, busPacket 2, { busPacket 1 with payload := .canFd {} }],
   .receive ⟨7, 2, 3⟩ [busPacket 2],
   .receive ⟨7, 1, 3⟩ [busPacket 1, busPacket 1],
   .tryReceive,
   .move ⟨7, 2, 3⟩,
   .receive ⟨7, 1, 3⟩ [busPacket 1],
   .receive ⟨7, 2, 3⟩ [busPacket 1, busPacket 2]]

/-- Of the three calls with a packet that the stream took, one batch was taken out, one waits and one was dropped. -/
theorem collect_balances_crowdedCalls :
    let after := (Run.collect call { key := ⟨7, 1, 3⟩, payloadType := .can, capacity := 1 } crowdedCalls).1
    let taken := (Run.collect call { key := ⟨7, 1, 3⟩, payloadType := .can, capacity := 1 } crowdedCalls).2
    PayloadType.can.isData = true
      ∧ after.received = 4 ∧ after.rejected = 1
      ∧ taken.length + after.latest.length + after.dropped = 3
      ∧ taken.length = 1 ∧ after.dropped = 1 := by
  obtain ⟨hreceived, hrejected, hbatches, -⟩ :=
    collect_balances ⟨7, 1, 3⟩ (show PayloadType.can.isData = true from rfl) 1 crowdedCalls
  exact ⟨rfl, hreceived.trans (by decide), hrejected.trans (by decide), hbatches.trans (by decide), by decide, by decide⟩

end SinkStream

end CaptureProtocol
