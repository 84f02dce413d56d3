import CaptureProtocol.Proofs.GroupedDelivery
import Mathlib

/-!
# Where the packets of a frame go

A sink gives back all that it decodes.  Each packet is counted as invalid, is put on the board or is dispatched, and
what is dispatched can be found again at the subscribers: each of them got the packets of its addresses.

* `DataSink.decoded`, `returned`, `dispatched` — the packets of an operation;
* `DataSink.observedBy`, `batchesFor` — what an observer has been given, and what a subscriber is given of packets;
* `publish_observedBy`, `publish_receiver?` — one batch that is published; `publishAll_observedBy`,
  `publishAll_receiver?` — batches one after another;
* `DataSink.Handed` — the sink after packets were dispatched; `handed_dispatch`;
* `DataSink.Accounts` — the account of one operation; `accounts` for every operation on a sink whose subscribers are
  distinct;
* `DataSink.performAll_clean` — sinks that are fed any frames.
-/

namespace CaptureProtocol

namespace DataSink

variable {sink : DataSink} {operation : SinkOperation} {arrival : Arrival}

/-! ### The packets of an operation -/

/-- The packets that are decoded in an operation. -/
def decoded (sink : DataSink) (operation : SinkOperation) : List Packet :=
  match operation.arrival? with
  | some arrival => (sink.decoder.decode arrival.time arrival.bytes).2
  | none => []

/-- The packets that an operation gives back. -/
def returned (sink : DataSink) : SinkOperation → List Packet
  | .takeFrame now frame => (sink.takeFrame now frame).2
  | .takeEthernetFrame now frame => (sink.takeEthernetFrame now frame).2
  | _ => []

/-- The packets of an operation that are meant for subscribers. -/
def dispatched (sink : DataSink) (operation : SinkOperation) : List Packet :=
  (sink.decoded operation).filter isDeliverable

theorem decoded_of_arrival (h : operation.arrival? = some arrival) :
    sink.decoded operation = (sink.decoder.decode arrival.time arrival.bytes).2 := by
  rw [decoded, h]

theorem decoded_of_none (h : operation.arrival? = none) : sink.decoded operation = [] := by
  rw [decoded, h]

/-- All that is decoded is given back. -/
theorem returned_eq_decoded (sink : DataSink) (operation : SinkOperation) :
    sink.returned operation = sink.decoded operation := by
  cases operation with
  | takeEthernetFrame now frame =>
    rw [returned, takeEthernetFrame, decoded, SinkOperation.arrival?]
    cases Ethernet.unwrap? frame <;> rfl
  | _ => rfl

/-- Every packet is invalid, a report or deliverable. -/
theorem length_eq_kinds (packets : List Packet) :
    packets.length = (packets.filter (!·.isValid)).length + (packets.filter Packet.isReport).length
      + (packets.filter isDeliverable).length := by
  induction packets with
  | nil => rfl
  | cons packet packets ih =>
    by_cases hvalid : packet.isValid = true
    · by_cases hstatus : packet.messageType = .status
      · simp [Packet.isReport, isDeliverable, hvalid, hstatus] at ih ⊢
        omega
      · simp [Packet.isReport, isDeliverable, hvalid, hstatus] at ih ⊢
        omega
    · simp [Packet.isReport, isDeliverable, hvalid] at ih ⊢
      omega

/-! ### What each subscriber is given -/

/-- What an observer has been given, in the order of the calls. -/
def observedBy (sink : DataSink) (observer : Nat) : List Delivery :=
  sink.observed.reverse.filter fun delivery => delivery.observer = observer

/-- What a subscriber is given of packets: the batches of the addresses to which it subscribes. -/
def batchesFor (sink : DataSink) (subscriber : Subscriber) (packets : List Packet) :
    List (StreamKey × List Packet) :=
  (batches packets).filter fun entry => subscriber ∈ sink.router.handlers entry.1

theorem observedBy_react (sink : DataSink) (subscriber : Subscriber) (key : StreamKey) (packets : List Packet)
    (observer : Nat) :
    (react subscriber key packets sink).observedBy observer
      = sink.observedBy observer ++ if subscriber = .observer observer then [⟨observer, key, packets⟩] else [] := by
  cases subscriber with
  | receiver handle => exact (List.append_nil _).symm
  | observer other =>
    rw [react, observedBy, List.reverse_cons, List.filter_append, List.filter_singleton, observedBy]
    by_cases hsame : other = observer <;> simp [hsame]

/-- An observer that subscribes once is given the packets once, whatever else subscribes. -/
theorem observedBy_foldl_react {subscribers : List Subscriber} (hnodup : subscribers.Nodup) (sink : DataSink)
    (key : StreamKey) (packets : List Packet) (observer : Nat) :
    (subscribers.foldl (fun sink subscriber => react subscriber key packets sink) sink).observedBy observer
      = sink.observedBy observer ++ if .observer observer ∈ subscribers then [⟨observer, key, packets⟩] else [] := by
  induction subscribers generalizing sink with
  | nil => exact (List.append_nil _).symm
  | cons subscriber subscribers ih =>
    obtain ⟨hfresh, hrest⟩ := List.nodup_cons.mp hnodup
    rw [List.foldl_cons, ih hrest, observedBy_react, List.append_assoc]
    by_cases hsame : subscriber = .observer observer
    · subst hsame
      rw [if_pos rfl, if_neg hfresh, if_pos (List.mem_cons_self ..), List.append_nil]
    · rw [if_neg hsame, List.nil_append]
      refine congrArg _ (if_congr ?_ rfl rfl)
      rw [List.mem_cons, or_iff_right (Ne.symm hsame)]

theorem publish_router (sink : DataSink) (key : StreamKey) (batch : List Packet) :
    (publish (·.router) react key batch sink).1.router = sink.router :=
  (foldl_react_decoder (sink.router.handlers key) sink key batch).2

theorem publish_observedBy (hdistinct : sink.router.Distinct) (key : StreamKey) (batch : List Packet)
    (observer : Nat) :
    (publish (·.router) react key batch sink).1.observedBy observer
      = sink.observedBy observer
        ++ if .observer observer ∈ sink.router.handlers key then [⟨observer, key, batch⟩] else [] :=
  observedBy_foldl_react (hdistinct.handlers key) sink key batch observer

theorem publish_receiver? (hdistinct : sink.router.Distinct) (key : StreamKey) (batch : List Packet) (handle : Nat) :
    (publish (·.router) react key batch sink).1.receiver? handle
      = if .receiver handle ∈ sink.router.handlers key then (sink.receiver? handle).map (·.receive key batch)
        else sink.receiver? handle :=
  receiver?_foldl_react (hdistinct.handlers key) sink key batch handle

/-- Of batches that are published one after another, an observer is given those of its addresses. -/
theorem publishAll_observedBy (hdistinct : sink.router.Distinct) (list : List (StreamKey × List Packet))
    (observer : Nat) :
    (publishAll (·.router) react list sink).1.observedBy observer
      = sink.observedBy observer
        ++ (list.filter fun entry => .observer observer ∈ sink.router.handlers entry.1).map fun entry =>
          ⟨observer, entry.1, entry.2⟩ := by
  induction list generalizing sink with
  | nil => exact (List.append_nil _).symm
  | cons entry list ih =>
    have hrouter := publish_router sink entry.1 entry.2
    have hrest := ih (show (publish (·.router) react entry.1 entry.2 sink).1.router.Distinct from hrouter ▸ hdistinct)
    rw [publish_observedBy hdistinct, hrouter, List.append_assoc] at hrest
    refine hrest.trans (congrArg _ ?_)
    rw [List.filter_cons]
    by_cases hsubscribed : Subscriber.observer observer ∈ sink.router.handlers entry.1 <;> simp [hsubscribed]

/-- So is a stream. -/
theorem publishAll_receiver? (hdistinct : sink.router.Distinct) (list : List (StreamKey × List Packet))
    (handle : Nat) :
    (publishAll (·.router) react list sink).1.receiver? handle
      = (sink.receiver? handle).map fun stream =>
          (list.filter fun entry => .receiver handle ∈ sink.router.handlers entry.1).foldl
            (fun stream entry => stream.receive entry.1 entry.2) stream := by
  induction list generalizing sink with
  | nil => exact Option.map_id'.symm
  | cons entry list ih =>
    have hrouter := publish_router sink entry.1 entry.2
    have hrest := ih (show (publish (·.router) react entry.1 entry.2 sink).1.router.Distinct from hrouter ▸ hdistinct)
    rw [publish_receiver? hdistinct, hrouter] at hrest
    refine hrest.trans ?_
    rw [List.filter_cons]
    by_cases hsubscribed : Subscriber.receiver handle ∈ sink.router.handlers entry.1
    · simp only [hsubscribed, if_true, decide_true, Option.map_map, List.foldl_cons]
      rfl
    · simp only [hsubscribed, if_false, decide_false, Bool.false_eq_true]

/-- A sink after packets were dispatched.  The packets make clean batches, and every packet is in one of them; each
subscriber was given the batches of its addresses, once and in order. -/
structure Handed (sink after : DataSink) (packets : List Packet) : Prop where
  clean : ∀ entry ∈ batches packets, CleanFor entry.1 entry.2
  complete : ((batches packets).flatMap (·.2)).Perm packets
  observed : ∀ observer, after.observedBy observer
    = sink.observedBy observer ++ (sink.batchesFor (.observer observer) packets).map fun entry =>
        ⟨observer, entry.1, entry.2⟩
  received : ∀ handle, after.receiver? handle
    = (sink.receiver? handle).map fun stream =>
        (sink.batchesFor (.receiver handle) packets).foldl (fun stream entry => stream.receive entry.1 entry.2) stream

theorem handed_dispatch (hdistinct : sink.router.Distinct) {packets : List Packet}
    (h : ∀ packet ∈ packets, isDeliverable packet = true) :
    sink.Handed (dispatch (·.router) react packets sink).1 packets where
  clean := by
    rw [← groups_eq]
    exact clean_groups h
  complete := by
    rw [← groups_eq]
    exact groups_perm packets
  observed observer := by
    rw [dispatch_eq_publishAll]
    exact publishAll_observedBy hdistinct _ observer
  received handle := by
    rw [dispatch_eq_publishAll]
    exact publishAll_receiver? hdistinct _ handle

/-! ### Accounts -/

/-- Where the packets of an operation go: all of them are given back; each is counted as invalid, is put on the board or
is dispatched to the subscribers. -/
structure Accounts (sink : DataSink) (operation : SinkOperation) : Prop where
  returned : sink.returned operation = sink.decoded operation
  /-- Only valid status packets change the board. -/
  board : (sink.perform operation).board = sink.board.processAll ((sink.decoded operation).filter Packet.isReport)
  counted : sink.invalidPackets + (sink.decoded operation).length
    = (sink.perform operation).invalidPackets + ((sink.decoded operation).filter Packet.isReport).length
      + (sink.dispatched operation).length
  /-- A frame is noted, and its packets are dispatched. -/
  dispatched : ∀ arrival, operation.arrival? = some arrival → sink.perform operation
    = (dispatch (·.router) react (sink.dispatched operation) (sink.noted arrival.time arrival.bytes)).1
  /-- The subscribers have got them. -/
  handed : operation.arrival?.isSome = true → sink.Handed (sink.perform operation) (sink.dispatched operation)
  /-- Whatever else subscribed, and whatever it did, would be given clean packets only. -/
  clean : ∀ {H W : Type} (routes : W → Router H) (reaction : Reaction H W) (holds : W → Prop),
    (∀ handler key packets world, CleanFor key packets → holds world →
      holds (reaction handler key packets world)) →
      ∀ world, holds world → holds (handOn routes reaction (sink.decoded operation) world)

theorem closeStream_board (sink : DataSink) (handle : Nat) :
    (sink.closeStream handle).board = sink.board ∧ (sink.closeStream handle).invalidPackets = sink.invalidPackets := by
  rw [closeStream]
  split
  · exact ⟨rfl, rfl⟩
  · split <;> exact ⟨rfl, rfl⟩

/-- Operations that take no frame leave the board and the count of invalid packets. -/
theorem perform_board (sink : DataSink) (h : operation.arrival? = none) :
    (sink.perform operation).board = sink.board
      ∧ (sink.perform operation).invalidPackets = sink.invalidPackets := by
  cases operation with
  | takeFrame now frame => cases h
  | takeEthernetFrame now frame =>
    rw [perform, takeEthernetFrame, Option.map_eq_none_iff.mp h]
    exact ⟨rfl, rfl⟩
  | closeStream handle | dropStream handle => exact sink.closeStream_board handle
  | moveStream handle key =>
    rw [perform, moveStream]
    split
    · exact ⟨rfl, rfl⟩
    · split <;> exact ⟨rfl, rfl⟩
  | expire | subscribe | unsubscribe | openStream | receiveDirectly | tryReceive | drain | takeObserved | detach =>
    exact ⟨rfl, rfl⟩

/-- What is handed on to any handlers is clean. -/
theorem handOn_clean {H W : Type} (routes : W → Router H) (reaction : Reaction H W) (holds : W → Prop)
    (hreaction : ∀ handler key packets world, CleanFor key packets → holds world →
      holds (reaction handler key packets world))
    (packets : List Packet) {world : W} (hworld : holds world) : holds (handOn routes reaction packets world) :=
  dispatch_invariant routes reaction holds hreaction (forall_mem_deliverable packets) hworld

theorem accounts_of_none (h : operation.arrival? = none) : sink.Accounts operation where
  returned := sink.returned_eq_decoded operation
  board := by
    rw [(sink.perform_board h).1, decoded_of_none h]
    rfl
  counted := by
    rw [(sink.perform_board h).2, DataSink.dispatched, decoded_of_none h]
    rfl
  dispatched arrival harrival := by
    rw [h] at harrival
    cases harrival
  handed harrival := by
    rw [h] at harrival
    cases harrival
  clean routes reaction holds hreaction _ hworld := handOn_clean routes reaction holds hreaction _ hworld

theorem perform_dispatched (h : operation.arrival? = some arrival) :
    sink.perform operation
      = (dispatch (·.router) react (sink.dispatched operation) (sink.noted arrival.time arrival.bytes)).1 := by
  rw [perform_arrival h, takeFrame_fst, dispatched, decoded_of_arrival h]

theorem accounts_of_arrival (hdistinct : sink.router.Distinct) (h : operation.arrival? = some arrival) :
    sink.Accounts operation where
  returned := sink.returned_eq_decoded operation
  board := by
    rw [perform_arrival h, (sink.takeFrame_noted arrival.time arrival.bytes).1, decoded_of_arrival h]
    rfl
  counted := by
    rw [perform_arrival h, (sink.takeFrame_noted arrival.time arrival.bytes).2, DataSink.dispatched,
      decoded_of_arrival h, length_eq_kinds]
    show _ = sink.invalidPackets + _ + _ + _
    omega
  dispatched other hother := by
    rw [h] at hother
    cases hother
    exact perform_dispatched h
  handed _ := by
    have hnoted : (sink.noted arrival.time arrival.bytes).router.Distinct := hdistinct
    have hhanded := handed_dispatch hnoted (forall_mem_deliverable (sink.decoded operation))
    rw [perform_dispatched h]
    exact ⟨hhanded.clean, hhanded.complete, hhanded.observed, hhanded.received⟩
  clean routes reaction holds hreaction _ hworld := handOn_clean routes reaction holds hreaction _ hworld

/-- The account of an operation on a sink to which nothing subscribes twice under one address. -/
theorem accounts (hdistinct : sink.router.Distinct) (operation : SinkOperation) : sink.Accounts operation := by
  cases harrival : operation.arrival? with
  | none => exact accounts_of_none harrival
  | some arrival => exact accounts_of_arrival hdistinct harrival

theorem Reachable.performAll (h : Reachable sink) (operations : List SinkOperation) :
    Reachable (sink.performAll operations) := by
  induction operations generalizing sink with
  | nil => exact h
  | cons operation operations ih => exact ih (h.perform operation)

/-- Whatever frames a sink is fed, whatever is subscribed: handlers are given clean packets, streams queue only what
fits, and every decoded packet is accounted for. -/
theorem performAll_clean {config : LinkConfig} (hcreate : create config = .ok sink) {operations : List SinkOperation}
    (hdirect : ∀ operation ∈ operations, operation.isDirect = false) :
    (sink.performAll operations).Clean ∧ ∀ operation, (sink.performAll operations).Accounts operation :=
  ⟨(clean_create hcreate).performAll hdirect, accounts ((Reachable.create hcreate).performAll operations).distinct⟩

/-- A stream and an observer of one address; bytes that are no frame, a frame, and a frame that is cut short. -/
def servedOperations : List SinkOperation :=
  [.openStream ⟨7, 1, 9⟩ .can, .subscribe ⟨7, 1, 9⟩ 0, .takeEthernetFrame 0 [0x99, 0xFE],
   .takeEthernetFrame 0 (Ethernet.wrap [2, 0, 0, 0, 0, 1] busFrame), .takeFrame 0 (busFrame.take 30)]

/-- The observer has been given one packet, and is given that of another frame. -/
theorem performAll_clean_served :
    let served := newSink.performAll servedOperations
    create {} = .ok newSink ∧ (∀ operation ∈ servedOperations, operation.isDirect = false)
      ∧ (served.observedBy 0).length = 1 ∧ served.invalidPackets = 1
      ∧ served.Clean ∧ (∀ operation, served.Accounts operation)
      ∧ (served.dispatched (.takeFrame 1 busFrame)).length = 1
      ∧ (served.perform (.takeFrame 1 busFrame)).observedBy 0
        = served.observedBy 0 ++ [⟨0, ⟨7, 1, 9⟩, served.dispatched (.takeFrame 1 busFrame)⟩] := by
  intro served
  have hcreate : create {} = .ok newSink := rfl
  have hdirect : ∀ operation ∈ servedOperations, operation.isDirect = false := by decide
  obtain ⟨hclean, haccounts⟩ := performAll_clean hcreate hdirect
  have hgiven : served.batchesFor (.observer 0) (served.dispatched (.takeFrame 1 busFrame))
      = [(⟨7, 1, 9⟩, served.dispatched (.takeFrame 1 busFrame))] := by decide +kernel
  have hobserved := ((haccounts (.takeFrame 1 busFrame)).handed rfl).observed 0
  rw [hgiven] at hobserved
  exact ⟨hcreate, hdirect, by decide +kernel, by decide +kernel, hclean, haccounts, by decide +kernel, hobserved⟩

end DataSink

end CaptureProtocol
