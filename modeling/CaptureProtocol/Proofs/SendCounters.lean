import CaptureProtocol.Proofs.LinkDelivery
import CaptureProtocol.Proofs.PendingUpdates
import CaptureProtocol.Total
import Mathlib

/-!
# What the counters of a stream leave out

A stream counts the packets and frames that it sends, and the packets that cannot be encoded.  When a frame is refused,
the send ends there and counts nothing: neither its packets nor the frames that were taken before.

* `Metered` — a sender with counts of the frames that it takes and refuses; `Metered.sendAll_plain`, `sendAll_counts`:
  it answers what the sender answers, and counts it;
* `SendTally`, `CaptureStream.tally` — the packets of a send and the counts of a metered sender; `send_metered`: with
  it, a send does to the stream what it does without;
* `CaptureStream.send_counters` — what a send adds to the counters, by each of the paths that it can take;
* `CaptureStream.Accounts` — the counters after sends, with what they leave out; `packets_complete`, `frames_complete`:
  when that is nothing;
* `CaptureModule.tallies`, `Tallied` — the sends of a stream among any operations; `Tallied.onStream`, `Tallied.perform`
  for one operation, `Tallied.performAll` for all;
* `CaptureModule.performAll_counters` — the counters of the streams of a module after any operations;
  `uncounted_severedRun`: where two packets are missing.
-/

namespace CaptureProtocol

/-! ### A sender that counts -/

/-- A sender with counts of its answers. -/
structure Metered (T : Type) where
  sender : T
  /-- The frames that it took. -/
  taken : Nat := 0
  refused : Nat := 0

namespace Metered

variable {T : Type} [FrameSender T]

/-- Hands a frame to the sender and counts the answer. -/
def send (metered : Metered T) (frame : Bytes) : Metered T × Except LinkError Unit :=
  match FrameSender.send metered.sender frame with
  | (sender, .ok ()) => ({ metered with sender, taken := metered.taken + 1 }, .ok ())
  | (sender, .error error) => ({ metered with sender, refused := metered.refused + 1 }, .error error)

instance : FrameSender (Metered T) := ⟨send⟩

theorem send_eq (metered : Metered T) (frame : Bytes) : FrameSender.send metered frame = metered.send frame := rfl

/-- The counts change nothing of what becomes of the sender, and nothing of what it answers. -/
theorem sendAll_plain (metered : Metered T) (frames : List Bytes) :
    (sendAll metered frames).1.sender = (sendAll metered.sender frames).1
      ∧ (sendAll metered frames).2 = (sendAll metered.sender frames).2 := by
  induction frames generalizing metered with
  | nil => exact ⟨rfl, rfl⟩
  | cons frame frames ih =>
    rw [sendAll, sendAll, send_eq, send]
    rcases FrameSender.send metered.sender frame with ⟨sender, error | _⟩
    · exact ⟨rfl, rfl⟩
    · exact ih _

/-- All frames are taken, or one is refused, and it is the last one handed over. -/
theorem sendAll_counts (metered : Metered T) (frames : List Bytes) :
    (sendAll metered frames).2 = .ok () ∧ (sendAll metered frames).1.taken = metered.taken + frames.length
        ∧ (sendAll metered frames).1.refused = metered.refused
      ∨ (∃ error, (sendAll metered frames).2 = .error error)
        ∧ (sendAll metered frames).1.refused = metered.refused + 1 := by
  induction frames generalizing metered with
  | nil => exact .inl ⟨rfl, rfl, rfl⟩
  | cons frame frames ih =>
    rw [sendAll, send_eq, send, List.length_cons]
    rcases FrameSender.send metered.sender frame with ⟨sender, error | _⟩
    · exact .inr ⟨⟨error, rfl⟩, rfl⟩
    · rcases ih { metered with sender, taken := metered.taken + 1 } with ⟨hanswer, htaken, hrefused⟩ | hrefused
      · exact .inl ⟨hanswer, htaken.trans (Nat.succ_add_eq_add_succ ..), hrefused⟩
      · exact .inr hrefused

end Metered

/-- The shared parts with a sender that starts to count. -/
def LinkResources.metered {T : Type} (resources : LinkResources T) : LinkResources (Metered T) :=
  { resources with sender := { sender := resources.sender } }

/-! ### One send -/

/-- What happens in a send. -/
structure SendTally where
  /-- The packets that the batch becomes: none if the time of one overflows. -/
  packets : Nat
  /-- The frames that the sender takes. -/
  taken : Nat
  /-- The frames that the sender refuses. -/
  refused : Nat
deriving DecidableEq, Repr

/-- A frame was refused, and the send ended there. -/
def SendTally.cutShort (tally : SendTally) : Bool := tally.refused != 0

theorem SendTally.cutShort_iff {tally : SendTally} : tally.cutShort = true ↔ tally.refused ≠ 0 := bne_iff_ne

theorem total_eq_zero_iff {α : Type} {measure : α → Nat} {list : List α} :
    total measure list = 0 ↔ ∀ entry ∈ list, measure entry = 0 := by
  induction list with
  | nil => exact iff_of_true rfl (List.forall_mem_nil _)
  | cons head tail ih => rw [total_cons, Nat.add_eq_zero_iff, ih, List.forall_mem_cons]

namespace CaptureStream

variable {T : Type} [FrameSender T] {resources : LinkResources T} {stream : CaptureStream} {interfaceId : UInt32}
  {batch : SignalBatch}

/-- What happens when a batch is sent. -/
def tally (resources : LinkResources T) (stream : CaptureStream) (interfaceId : UInt32) (batch : SignalBatch) :
    SendTally where
  packets := ((stream.inlet.packets? interfaceId batch).getD []).length
  taken := (stream.send resources.metered interfaceId batch).1.sender.taken
  refused := (stream.send resources.metered interfaceId batch).1.sender.refused

/-- The counts of a metered sender change nothing of what a send leaves of the sender and the stream, and nothing of its
answer. -/
theorem send_metered (resources : LinkResources T) (stream : CaptureStream) (interfaceId : UInt32)
    (batch : SignalBatch) :
    (stream.send resources.metered interfaceId batch).1.sender.sender
        = (stream.send resources interfaceId batch).1.sender
      ∧ (stream.send resources.metered interfaceId batch).2 = (stream.send resources interfaceId batch).2 := by
  cases hpackets : stream.inlet.packets? interfaceId batch with
  | none =>
    rw [send_of_overflow hpackets, send_of_overflow hpackets]
    exact ⟨rfl, rfl⟩
  | some packets =>
    by_cases hnone : packets = []
    · subst hnone
      rw [send_of_nil hpackets, send_of_nil hpackets]
      exact ⟨rfl, rfl⟩
    · rcases hencode : resources.encoders.encode stream.id.toNat resources.limits packets with
        ⟨encoders, error | frames⟩
      · rw [send_of_encode_error hpackets hnone hencode, send_of_encode_error hpackets hnone (by exact hencode)]
        exact ⟨rfl, rfl⟩
      · obtain ⟨hsender, hanswer⟩ := Metered.sendAll_plain resources.metered.sender frames
        rw [send_of_encode_ok hpackets hnone hencode, send_of_encode_ok hpackets hnone (by exact hencode), hanswer]
        exact ⟨hsender, rfl⟩

/-- A send counts all of its packets and all frames that were taken, or a frame was refused and it counts nothing. -/
theorem send_counters (resources : LinkResources T) (stream : CaptureStream) (interfaceId : UInt32)
    (batch : SignalBatch) {tally : SendTally} (htally : stream.tally resources interfaceId batch = tally)
    {after : CaptureStream} (hafter : (stream.send resources interfaceId batch).2.1 = after) :
    tally.refused = 0
        ∧ after.packetsSent + after.packetsDropped = stream.packetsSent + stream.packetsDropped + tally.packets
        ∧ after.framesSent = stream.framesSent + tally.taken
      ∨ tally.refused = 1 ∧ 0 < tally.packets ∧ after = stream := by
  subst htally
  rw [← (send_metered resources stream interfaceId batch).2] at hafter
  subst hafter
  cases hpackets : stream.inlet.packets? interfaceId batch with
  | none =>
    rw [CaptureStream.tally, send_of_overflow hpackets, hpackets]
    exact .inl ⟨rfl, rfl, rfl⟩
  | some packets =>
    by_cases hnone : packets = []
    · -- there is nothing to send
      subst hnone
      rw [CaptureStream.tally, send_of_nil hpackets, hpackets]
      exact .inl ⟨rfl, rfl, rfl⟩
    · rcases hencode : resources.metered.encoders.encode stream.id.toNat resources.metered.limits packets with
        ⟨encoders, error | frames⟩
      · -- no frame is handed over
        rw [CaptureStream.tally, send_of_encode_error hpackets hnone hencode, hpackets]
        exact .inl ⟨rfl, (Nat.add_assoc ..).symm, rfl⟩
      · rw [CaptureStream.tally, send_of_encode_ok hpackets hnone hencode, hpackets]
        rcases Metered.sendAll_counts resources.metered.sender frames with
          ⟨hanswer, htaken, hrefused⟩ | ⟨⟨error, hanswer⟩, hrefused⟩
        · have hall : frames.length = (sendAll resources.metered.sender frames).1.taken :=
            (Nat.zero_add _).symm.trans htaken.symm
          rw [hanswer]
          exact .inl ⟨hrefused, Nat.add_right_comm .., congrArg (stream.framesSent + ·) hall⟩
        · rw [hanswer]
          exact .inr ⟨hrefused, List.length_pos_iff.mpr hnone, rfl⟩

/-! ### The counters after several sends -/

/-- The counters of a stream after sends, with what they leave out: all that happened in the sends that were cut
short. -/
structure Accounts (stream : CaptureStream) (tallies : List SendTally) : Prop where
  packets : stream.packetsSent + stream.packetsDropped + total SendTally.packets (tallies.filter SendTally.cutShort)
    = total SendTally.packets tallies
  frames : stream.framesSent + total SendTally.taken (tallies.filter SendTally.cutShort)
    = total SendTally.taken tallies
  /-- Nothing is cut short where there is nothing to send. -/
  cutShort : ∀ tally ∈ tallies, tally.cutShort = true → 0 < tally.packets

variable {tallies : List SendTally}

theorem Accounts.packets_complete (h : stream.Accounts tallies) :
    stream.packetsSent + stream.packetsDropped = total SendTally.packets tallies
      ↔ ∀ tally ∈ tallies, tally.refused = 0 := by
  have hpackets := h.packets
  have hmissed : total SendTally.packets (tallies.filter SendTally.cutShort) = 0
      ↔ ∀ tally ∈ tallies, tally.refused = 0 := by
    rw [total_eq_zero_iff, List.forall_mem_filter]
    refine forall₂_congr fun tally hmem => ⟨fun hzero => ?_, fun hwhole hcut => ?_⟩
    · by_contra hrefused
      have hcut := SendTally.cutShort_iff.mpr hrefused
      exact (h.cutShort tally hmem hcut).ne' (hzero hcut)
    · exact (SendTally.cutShort_iff.mp hcut hwhole).elim
  rw [← hmissed]
  omega

theorem Accounts.frames_complete (h : stream.Accounts tallies) :
    stream.framesSent = total SendTally.taken tallies
      ↔ ∀ tally ∈ tallies, tally.refused = 0 ∨ tally.taken = 0 := by
  have hframes := h.frames
  have hmissed : total SendTally.taken (tallies.filter SendTally.cutShort) = 0
      ↔ ∀ tally ∈ tallies, tally.refused = 0 ∨ tally.taken = 0 := by
    rw [total_eq_zero_iff, List.forall_mem_filter]
    refine forall₂_congr fun tally _ => ?_
    rw [SendTally.cutShort_iff, ← or_iff_not_imp_left]
  rw [← hmissed]
  omega

theorem accounts_new (owner : Nat) (id : UInt8) (inlet : SignalInlet) : Accounts { owner, id, inlet } [] where
  packets := rfl
  frames := rfl
  cutShort := List.forall_mem_nil _

/-- One more send. -/
theorem Accounts.send (h : stream.Accounts tallies) (resources : LinkResources T) (interfaceId : UInt32)
    (batch : SignalBatch) :
    (stream.send resources interfaceId batch).2.1.Accounts (tallies ++ [stream.tally resources interfaceId batch]) := by
  have hpackets := h.packets
  have hframes := h.frames
  generalize htally : stream.tally resources interfaceId batch = tally
  generalize hafter : (stream.send resources interfaceId batch).2.1 = after
  rcases send_counters resources stream interfaceId batch htally hafter with
    ⟨hrefused, hcounted, htaken⟩ | ⟨hrefused, hsome, rfl⟩
  · have hwhole : ¬ tally.cutShort = true := by simp [SendTally.cutShort_iff, hrefused]
    have hsame : (tallies ++ [tally]).filter SendTally.cutShort = tallies.filter SendTally.cutShort := by
      rw [List.filter_append, List.filter_cons_of_neg hwhole, List.filter_nil, List.append_nil]
    refine ⟨?_, ?_, List.forall_mem_append.mpr ⟨h.cutShort, ?_⟩⟩
    · rw [hsame, total_append, total_cons, total_nil]
      omega
    · rw [hsame, total_append, total_cons, total_nil]
      omega
    · exact List.forall_mem_singleton.mpr fun hcut => (hwhole hcut).elim
  · have hcut : tally.cutShort = true := by simp [SendTally.cutShort_iff, hrefused]
    have hmore : (tallies ++ [tally]).filter SendTally.cutShort = tallies.filter SendTally.cutShort ++ [tally] := by
      rw [List.filter_append, List.filter_cons_of_pos hcut, List.filter_nil]
    refine ⟨?_, ?_, List.forall_mem_append.mpr ⟨h.cutShort, ?_⟩⟩
    · rw [hmore, total_append, total_append]
      omega
    · rw [hmore, total_append, total_append]
      omega
    · exact List.forall_mem_singleton.mpr fun _ => hsome

/-- The counters change in nothing but sends. -/
theorem kept_accounts (T : Type) (tallies : List SendTally) : Kept T fun stream => stream.Accounts tallies where
  connect _ _ h := ⟨h.packets, h.frames, h.cutShort⟩
  disconnect h := ⟨h.packets, h.frames, h.cutShort⟩
  staged _ h := ⟨h.packets, h.frames, h.cutShort⟩
  moveToId := by
    intro resources stream id h
    rw [moveToId_stream]
    exact ⟨h.packets, h.frames, h.cutShort⟩
  moveToPayloadType := by
    intro resources stream payloadType h
    rcases moveToPayloadType_cases resources stream payloadType with hmove | ⟨encoder, -, -, hmove⟩
    · rw [hmove]
      exact h
    · rw [hmove]
      exact ⟨h.packets, h.frames, h.cutShort⟩

/-- What happens in an operation of the stream if it is a send. -/
def tally? (resources : LinkResources T) (stream : CaptureStream) (interfaceId : UInt32) :
    StreamOperation → Option SendTally
  | .send batch => some (stream.tally resources interfaceId batch)
  | .connect .. | .disconnect | .stage | .changeId _ | .changePayloadType _ | .commit => none

theorem Accounts.run (h : stream.Accounts tallies) (resources : LinkResources T) (interfaceId : UInt32)
    (change : StreamOperation) :
    (change.run interfaceId resources stream).2.Accounts
      (tallies ++ (stream.tally? resources interfaceId change).toList) := by
  cases change with
  | send batch => exact h.send resources interfaceId batch
  | connect | disconnect | stage | changeId | changePayloadType | commit =>
    rw [tally?, Option.toList_none, List.append_nil]
    exact (kept_accounts T tallies).run interfaceId (fun _ hsame => by cases hsame) h

end CaptureStream

/-! ### Any operations -/

namespace CaptureModule

variable {T : Type} [FrameSender T] {capture : CaptureModule T} {key : Nat} {before : List SendTally}

/-- What happens in an operation if it sends a batch through the handle of a stream that there is. -/
def tally? (capture : CaptureModule T) (key : Nat) (operation : CaptureOperation T) : Option SendTally := do
  let change ← streamChange? key operation
  let stream ← capture.streams[key]?
  stream.tally? capture.resources (capture.interfaceIdOf stream) change

/-- What happens in all sends through a handle while operations are performed. -/
def tallies (capture : CaptureModule T) (key : Nat) : List (CaptureOperation T) → List SendTally
  | [] => []
  | operation :: operations =>
    (capture.tally? key operation).toList ++ (capture.perform operation).1.tallies key operations

/-- The stream with a handle accounts for sends; as long as there is no such stream, there was none. -/
def Tallied (capture : CaptureModule T) (key : Nat) (before : List SendTally) : Prop :=
  (capture.streams[key]?).elim (before = []) fun stream => stream.Accounts before

/-- One more operation of the stream. -/
theorem Tallied.onStream (h : capture.Tallied key before) (change : StreamOperation) :
    (capture.perform (.onStream key change)).1.Tallied key
      (before ++ (capture.tally? key (.onStream key change)).toList) := by
  have hchange : streamChange? key (.onStream key change : CaptureOperation T) = some change :=
    streamChange?_eq_some.mpr rfl
  cases hstream : capture.streams[key]? with
  | none =>
    have htally : capture.tally? key (.onStream key change) = none := by
      rw [tally?, hchange, hstream]
      rfl
    rw [CaptureModule.perform, performStream_of_none hstream, htally, Option.toList_none, List.append_nil]
    exact h
  | some stream =>
    have htally : capture.tally? key (.onStream key change)
        = stream.tally? capture.resources (capture.interfaceIdOf stream) change := by
      rw [tally?, hchange, hstream]
      rfl
    have haccounts : stream.Accounts before := by
      rw [Tallied, hstream] at h
      exact h
    have hkey : key < capture.streams.length := (List.getElem?_eq_some_iff.mp hstream).1
    rw [CaptureModule.perform, performStream_eq hstream, htally, Tallied, List.getElem?_set_self hkey]
    exact haccounts.run capture.resources (capture.interfaceIdOf stream) change

/-- One more operation, whatever it is. -/
theorem Tallied.perform (h : capture.Tallied key before) (operation : CaptureOperation T) :
    (capture.perform operation).1.Tallied key (before ++ (capture.tally? key operation).toList) := by
  cases hchange : streamChange? key operation with
  | some change =>
    have hoperation := streamChange?_eq_some.mp hchange
    subst hoperation
    exact h.onStream change
  | none =>
    have htally : capture.tally? key operation = none := by
      rw [tally?, hchange]
      rfl
    rw [htally, Option.toList_none, List.append_nil, Tallied]
    rw [Tallied] at h
    rcases capture.perform_otherStream hchange with hsame | ⟨hnone, owner, id, payloadType, hnew⟩
    · rw [hsame]
      exact h
    · -- the new stream has sent nothing, and nothing was sent through its handle
      rw [hnone] at h
      have hnothing : before = [] := h
      rw [hnew, hnothing]
      exact CaptureStream.accounts_new owner id { payloadType }

theorem Tallied.performAll (h : capture.Tallied key before) (operations : List (CaptureOperation T)) :
    (capture.performAll operations).Tallied key (before ++ capture.tallies key operations) := by
  induction operations generalizing capture before with
  | nil =>
    rw [CaptureModule.tallies, List.append_nil]
    exact h
  | cons operation operations ih =>
    rw [CaptureModule.tallies, ← List.append_assoc]
    exact ih (h.perform operation)

omit [FrameSender T] in
/-- A new module has no streams. -/
theorem tallied_create {config : LinkConfig} {device : ModuleIdentity} {sender : T}
    (hcreate : create config device sender = .ok capture) (key : Nat) : capture.Tallied key [] := by
  rw [create_eq_ok hcreate]
  rfl

/-- After any operations of a new module, with any sender: the counters of a stream, and what happened in the sends
that were cut short, are all packets that its batches became, and all of its frames that the sender took.  So the
packets are all counted exactly if no send was cut short, and the frames exactly if no send that was cut short had
frames taken. -/
theorem performAll_counters {config : LinkConfig} {device : ModuleIdentity} {sender : T}
    (hcreate : create config device sender = .ok capture) (operations : List (CaptureOperation T))
    {stream : CaptureStream} (hstream : (capture.performAll operations).streams[key]? = some stream) :
    let sends := capture.tallies key operations
    let missed := sends.filter SendTally.cutShort
    stream.packetsSent + stream.packetsDropped + total SendTally.packets missed = total SendTally.packets sends
      ∧ stream.framesSent + total SendTally.taken missed = total SendTally.taken sends
      ∧ (stream.packetsSent + stream.packetsDropped = total SendTally.packets sends
        ↔ ∀ tally ∈ sends, tally.refused = 0)
      ∧ (stream.framesSent = total SendTally.taken sends
        ↔ ∀ tally ∈ sends, tally.refused = 0 ∨ tally.taken = 0) := by
  intro sends missed
  have haccounts : stream.Accounts sends := by
    have htallied := (tallied_create hcreate key).performAll operations
    rw [Tallied, hstream] at htallied
    exact htallied
  exact ⟨haccounts.packets, haccounts.frames, haccounts.packets_complete, haccounts.frames_complete⟩

/-- A sender that takes so many frames. -/
structure Allowance where
  left : Nat
deriving DecidableEq, Inhabited, Repr

instance : FrameSender Allowance where
  send allowance _ :=
    if allowance.left = 0 then (allowance, .error .queueClosed) else ({ left := allowance.left - 1 }, .ok ())

/-- A stream sends the same batch twice. -/
def repeatedRun : List (CaptureOperation Allowance) :=
  [.addInterface .can none, .onInterface 0 (.addStream .can none),
    .onStream 0 (.connect (some .can) (some (.microseconds none))), .onStream 0 (.send benchBatch),
    .onStream 0 (.send benchBatch)]

/-- Each batch becomes two packets with a frame of their own, and there is room for three frames: the second send is
refused its second frame, and its first is not counted. -/
theorem performAll_counters_repeatedRun :
    ∃ capture stream, create { minFrameSize := 44, maxFrameSize := 44 } { deviceId := 3 } { left := 3 } = .ok capture
      ∧ (capture.performAll repeatedRun).streams[0]? = some stream
      ∧ capture.tallies 0 repeatedRun = [⟨2, 2, 0⟩, ⟨2, 1, 1⟩]
      ∧ stream.packetsSent + stream.packetsDropped + 2 = 4 ∧ stream.framesSent + 1 = 3 := by
  obtain ⟨capture, hcreate⟩ : ∃ capture, create { minFrameSize := 44, maxFrameSize := 44 } { deviceId := 3 }
      ({ left := 3 } : Allowance) = .ok capture := ⟨_, rfl⟩
  have hcapture := create_eq_ok hcreate
  have hstream : ((capture.performAll repeatedRun).streams[0]?).isSome = true := by
    rw [hcapture]
    decide +kernel
  obtain ⟨stream, hstream⟩ := Option.isSome_iff_exists.mp hstream
  have htallies : capture.tallies 0 repeatedRun = [⟨2, 2, 0⟩, ⟨2, 1, 1⟩] := by
    rw [hcapture]
    decide +kernel
  obtain ⟨hpackets, hframes, -⟩ := performAll_counters hcreate repeatedRun hstream
  rw [htallies] at hpackets hframes
  exact ⟨capture, stream, hcreate, hstream, htallies, hpackets, hframes⟩

/-- A stream sends a batch after the queue was closed. -/
def severedRun : List (CaptureOperation LoopbackQueue) :=
  [.addInterface .can none, .onInterface 0 (.addStream .can none),
    .onStream 0 (.connect (some .can) (some (.microseconds none))),
    .replaceSender { bench.resources.sender with isOpen := false }, .onStream 0 (.send benchBatch)]

/-- Two packets that were neither sent nor dropped, if one believes the counters of a live stream. -/
theorem uncounted_severedRun :
    (bench.performAll severedRun).Live 0
      ∧ total SendTally.packets (bench.tallies 0 severedRun) = 2
      ∧ ∃ stream, (bench.performAll severedRun).streams[0]? = some stream
        ∧ stream.packetsSent + stream.packetsDropped = 0 := by
  have hcounters : ((bench.performAll severedRun).streams[0]?).map
      (fun stream => stream.packetsSent + stream.packetsDropped) = some 0 := by decide +kernel
  obtain ⟨stream, hstream, hcounted⟩ := Option.map_eq_some_iff.mp hcounters
  exact ⟨by decide +kernel, by decide +kernel, stream, hstream, hcounted⟩

end CaptureModule

end CaptureProtocol
