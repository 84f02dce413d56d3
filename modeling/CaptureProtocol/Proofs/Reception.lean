import CaptureProtocol.Frame.Decoder
import Mathlib

/-!
# Receiving frames over time

A decoder receives frames at moments of its own clock.  This file says once what a piece of a frame can do to a
decoder, and what a run of frames keeps.

* `Run.collect_invariant`, `Run.collect_steady` — what a run keeps, and a run that changes nothing;
* `pending?_hold`, `pending?_forget`, `hold_hold`, `forget_hold` — the pending payloads as a table;
* `Every` — a property of all pending payloads;
* `Outcome` — the seven things that a piece can do; `accept_outcome`: it does one of them;
* `Arrival`, `Decoder.receive` — frames with their arrival times;
* `Decoder.Undisturbed` — nothing that is pending goes stale in a run; `undisturbed_of_within` gives it for
  frames that arrive within the timeout;
* `Decoder.Consistent` — every pending payload is held under its own address, as in every decoder that started
  empty: `Reachable.consistent`.
-/

namespace CaptureProtocol

/-! ### Runs -/

namespace Run

variable {σ α β γ : Type}

/-- What every step keeps and gives, a run keeps and gives. -/
theorem collect_invariant {step : σ → α → σ × List β} (holds : σ → Prop) (good : β → Prop)
    (hstep : ∀ state input, holds state →
      holds (step state input).1 ∧ ∀ output ∈ (step state input).2, good output)
    (inputs : List α) {state : σ} (hstate : holds state) :
    holds (collect step state inputs).1 ∧ ∀ output ∈ (collect step state inputs).2, good output := by
  induction inputs generalizing state with
  | nil => exact ⟨hstate, List.forall_mem_nil _⟩
  | cons input inputs ih =>
    obtain ⟨hnext, hgood⟩ := hstep state input hstate
    obtain ⟨hend, hlater⟩ := ih hnext
    rw [collect_cons]
    refine ⟨hend, fun output houtput => ?_⟩
    rcases List.mem_append.mp houtput with hnow | hafter
    · exact hgood output hnow
    · exact hlater output hafter

theorem collect_map (step : σ → α → σ × List β) (change : γ → α) (state : σ) (inputs : List γ) :
    collect step state (inputs.map change) = collect (fun state input => step state (change input)) state inputs := by
  induction inputs generalizing state with
  | nil => rfl
  | cons input inputs ih => rw [List.map_cons, collect_cons, collect_cons, ih]

/-- Inputs that give one output each and change nothing. -/
theorem collect_steady {step : σ → α → σ × List β} {state : σ} (give : α → β) {inputs : List α}
    (h : ∀ input ∈ inputs, step state input = (state, [give input])) :
    collect step state inputs = (state, inputs.map give) := by
  induction inputs with
  | nil => rfl
  | cons input inputs ih =>
    obtain ⟨hinput, hlater⟩ := List.forall_mem_cons.mp h
    rw [collect_cons, hinput, ih hlater]
    rfl

end Run

namespace Decoder

/-! ### The table of pending payloads -/

section Table

variable (decoder : Decoder) (key other : StreamKey) (pending later : PendingPayload)

theorem lookup_filter_self {α : Type} (entries : List (StreamKey × α)) (key : StreamKey) :
    (entries.filter (·.1 != key)).lookup key = none := by
  induction entries with
  | nil => rfl
  | cons entry entries ih =>
    by_cases h : entry.1 = key
    · rw [List.filter_cons_of_neg (by simp [h])]
      exact ih
    · rw [List.filter_cons_of_pos (by simp [h]), List.lookup_cons, beq_eq_false_iff_ne.mpr (Ne.symm h)]
      exact ih

/-- An entry is found among those that are kept when its address is one to keep. -/
theorem lookup_filter_of_pos {α : Type} (entries : List (StreamKey × α)) (keep : StreamKey → Bool) {key : StreamKey}
    (hkey : keep key = true) : (entries.filter fun entry => keep entry.1).lookup key = entries.lookup key := by
  induction entries with
  | nil => rfl
  | cons entry entries ih =>
    rw [List.filter_cons]
    by_cases hentry : keep entry.1 = true
    · rw [if_pos hentry, List.lookup_cons, List.lookup_cons, ih]
    · have hne : key ≠ entry.1 := by
        rintro rfl
        exact hentry hkey
      rw [if_neg hentry, List.lookup_cons, beq_eq_false_iff_ne.mpr hne, ih]

@[simp] theorem pending?_forget : (decoder.forget key).pending? key = none :=
  lookup_filter_self decoder.pending key

theorem pending?_forget_ne (hne : other ≠ key) : (decoder.forget key).pending? other = decoder.pending? other :=
  lookup_filter_of_pos decoder.pending (· != key) (bne_iff_ne.mpr hne)

@[simp] theorem pending?_hold : (decoder.hold key pending).pending? key = some pending := by
  rw [pending?, hold, List.lookup_cons, beq_self_eq_true]

theorem pending?_hold_ne (hne : other ≠ key) :
    (decoder.hold key pending).pending? other = decoder.pending? other := by
  rw [pending?, hold, List.lookup_cons, beq_eq_false_iff_ne.mpr hne]
  exact decoder.pending?_forget_ne key other hne

@[simp] theorem forget_hold : (decoder.hold key pending).forget key = decoder.forget key := by
  simp [hold, forget, List.filter_filter]

@[simp] theorem hold_hold : (decoder.hold key pending).hold key later = decoder.hold key later := by
  rw [hold, forget_hold]
  rfl

theorem mem_of_pending? {decoder : Decoder} {key : StreamKey} {pending : PendingPayload}
    (h : decoder.pending? key = some pending) : (key, pending) ∈ decoder.pending := by
  obtain ⟨front, back, hsplit, -⟩ := List.lookup_eq_some_iff.mp h
  rw [hsplit]
  exact List.mem_append_right _ List.mem_cons_self

theorem mem_of_mem_forget {decoder : Decoder} {key : StreamKey} {entry : StreamKey × PendingPayload}
    (h : entry ∈ (decoder.forget key).pending) : entry ∈ decoder.pending :=
  List.mem_of_mem_filter h

/-- What a decoder holds after an entry was put in: the entry, or what was there. -/
theorem mem_hold {decoder : Decoder} {key : StreamKey} {pending : PendingPayload}
    {entry : StreamKey × PendingPayload} (h : entry ∈ (decoder.hold key pending).pending) :
    entry = (key, pending) ∨ entry ∈ decoder.pending := by
  rcases List.mem_cons.mp h with h | h
  · exact .inl h
  · exact .inr (mem_of_mem_forget h)

end Table

/-- Every pending payload has a property. -/
def Every (property : StreamKey × PendingPayload → Prop) (decoder : Decoder) : Prop :=
  ∀ entry ∈ decoder.pending, property entry

section Every

variable {property : StreamKey × PendingPayload → Prop} {decoder : Decoder}

theorem every_empty (timeout : Nat) : Every property { timeout } := List.forall_mem_nil _

theorem Every.expire (h : decoder.Every property) (now : Nat) : (decoder.expire now).1.Every property :=
  fun entry hentry => h entry (List.mem_of_mem_filter hentry)

theorem Every.forget (h : decoder.Every property) (key : StreamKey) : (decoder.forget key).Every property :=
  fun entry hentry => h entry (mem_of_mem_forget hentry)

theorem Every.hold (h : decoder.Every property) {key : StreamKey} {pending : PendingPayload}
    (hpending : property (key, pending)) : (decoder.hold key pending).Every property := by
  intro entry hentry
  rcases mem_hold hentry with rfl | hentry
  · exact hpending
  · exact h entry hentry

theorem Every.of_pending? (h : decoder.Every property) {key : StreamKey} {pending : PendingPayload}
    (hpending : decoder.pending? key = some pending) : property (key, pending) :=
  h _ (mem_of_pending? hpending)

end Every

/-! ### What a piece can do -/

/-- The effect of one piece of a frame: the decoder after it and the packets that it gives. -/
inductive Outcome (now : Nat) (frame : FrameHeader) (decoder : Decoder) : Piece → Decoder → List Packet → Prop
  /-- A message that was cut short is handed on as it is. -/
  | truncated (message : Message) :
      Outcome now frame decoder (.truncated message) decoder
        [packetOf frame message.header (.undefined message.header.payloadType message.body)]
  /-- A whole payload is handed on. -/
  | single {message : Message} (hposition : message.header.flags.segmentation = .unsegmented) :
      Outcome now frame decoder (.whole message) decoder
        [packetOf frame message.header (.parse frame.messageType message.header.payloadType message.body)]
  /-- A first part replaces what is pending. -/
  | opened {message : Message} (hposition : message.header.flags.segmentation = .first) :
      Outcome now frame decoder (.whole message)
        (decoder.hold (keyOf frame message.header) (.start now frame message)) []
  /-- A later part finds nothing pending. -/
  | orphan {message : Message}
      (hposition : message.header.flags.segmentation = .intermediary ∨
        message.header.flags.segmentation = .last)
      (hpending : decoder.pending? (keyOf frame message.header) = none) :
      Outcome now frame decoder (.whole message) decoder []
  /-- A later part does not carry the next frame number. -/
  | broken {message : Message} {pending : PendingPayload}
      (hposition : message.header.flags.segmentation = .intermediary ∨
        message.header.flags.segmentation = .last)
      (hpending : decoder.pending? (keyOf frame message.header) = some pending)
      (hnext : pending.next ≠ frame.sequence) :
      Outcome now frame decoder (.whole message) (decoder.forget (keyOf frame message.header)) []
  /-- A part in the middle is kept. -/
  | appended {message : Message} {pending : PendingPayload}
      (hposition : message.header.flags.segmentation = .intermediary)
      (hpending : decoder.pending? (keyOf frame message.header) = some pending)
      (hnext : pending.next = frame.sequence) :
      Outcome now frame decoder (.whole message)
        (decoder.hold (keyOf frame message.header) (pending.append message.body)) []
  /-- The last part completes the payload. -/
  | completed {message : Message} {pending : PendingPayload}
      (hposition : message.header.flags.segmentation = .last)
      (hpending : decoder.pending? (keyOf frame message.header) = some pending)
      (hnext : pending.next = frame.sequence) :
      Outcome now frame decoder (.whole message) (decoder.forget (keyOf frame message.header))
        [(pending.append message.body).packet]

theorem later_ne_first {position : Segmentation} (h : position = .intermediary ∨ position = .last) :
    position ≠ .first := by
  rcases h with rfl | rfl <;> decide

theorem proceed_outcome (now : Nat) (frame : FrameHeader) (decoder : Decoder) (message : Message) (isLast : Bool)
    (hposition : message.header.flags.segmentation = if isLast then .last else .intermediary) :
    Outcome now frame decoder (.whole message) (proceed frame message isLast decoder).1
      (proceed frame message isLast decoder).2 := by
  have hlater : message.header.flags.segmentation = .intermediary ∨
      message.header.flags.segmentation = .last := by
    cases isLast
    · exact .inl hposition
    · exact .inr hposition
  simp only [proceed]
  cases hpending : decoder.pending? (keyOf frame message.header) with
  | none => exact .orphan hlater hpending
  | some pending =>
    by_cases hnext : pending.next = frame.sequence
    · simp only [if_pos hnext]
      cases isLast
      · exact .appended hposition hpending hnext
      · exact .completed hposition hpending hnext
    · simp only [if_neg hnext]
      exact .broken hlater hpending hnext

/-- A piece has one of the seven effects. -/
theorem accept_outcome (now : Nat) (frame : FrameHeader) (decoder : Decoder) (piece : Piece) :
    ∃ after packets, accept now frame decoder piece = (after, packets)
      ∧ Outcome now frame decoder piece after packets := by
  refine ⟨_, _, rfl, ?_⟩
  cases piece with
  | truncated message => exact .truncated message
  | whole message =>
    dsimp only
    cases hposition : message.header.flags.segmentation with
    | unsegmented => exact .single hposition
    | first => exact .opened hposition
    | intermediary => exact proceed_outcome now frame decoder message false hposition
    | last => exact proceed_outcome now frame decoder message true hposition

/-! ### One frame -/

/-- Everything that is pending is still young enough. -/
def Fresh (decoder : Decoder) (now : Nat) : Prop :=
  decoder.Every fun entry => now - entry.2.since < decoder.timeout

/-- Nothing is forgotten while everything is young enough. -/
theorem expire_of_fresh {decoder : Decoder} {now : Nat} (hfresh : decoder.Fresh now) :
    (decoder.expire now).1 = decoder := by
  have hkept : decoder.pending.filter (fun entry => decide (now - entry.2.since < decoder.timeout))
      = decoder.pending :=
    List.filter_eq_self.mpr fun entry hentry => decide_eq_true (hfresh entry hentry)
  show { decoder with pending := _ } = decoder
  exact congrArg (fun pending => { decoder with pending }) hkept

theorem decode_of_short {decoder : Decoder} {now : Nat} {bytes : Bytes} (h : FrameHeader.read bytes = none) :
    decoder.decode now bytes = ((decoder.expire now).1, []) := by
  simp only [decode, h]

theorem decode_of_read {decoder : Decoder} {now : Nat} {bytes rest : Bytes} {frame : FrameHeader}
    (h : FrameHeader.read bytes = some (frame, rest)) :
    decoder.decode now bytes = Run.collect (accept now frame) (decoder.expire now).1 (cut rest) := by
  simp only [decode, h]

/-- What staleness and the pieces of a frame keep, the frame keeps; and what all pieces give, it gives. -/
theorem decode_invariant (holds : Decoder → Prop) (good : Packet → Prop) {now : Nat} {bytes : Bytes}
    (hexpire : ∀ decoder, holds decoder → holds (decoder.expire now).1)
    (haccept : ∀ frame rest, FrameHeader.read bytes = some (frame, rest) → ∀ decoder piece, holds decoder →
      holds (accept now frame decoder piece).1 ∧ ∀ packet ∈ (accept now frame decoder piece).2, good packet)
    {decoder : Decoder} (hdecoder : holds decoder) :
    holds (decoder.decode now bytes).1 ∧ ∀ packet ∈ (decoder.decode now bytes).2, good packet := by
  cases hread : FrameHeader.read bytes with
  | none =>
    rw [decode_of_short hread]
    exact ⟨hexpire decoder hdecoder, List.forall_mem_nil _⟩
  | some found =>
    obtain ⟨frame, rest⟩ := found
    rw [decode_of_read hread]
    exact Run.collect_invariant holds good (haccept frame rest hread) (cut rest) (hexpire decoder hdecoder)

end Decoder

/-! ### Runs of frames -/

/-- A frame with the moment at which it arrives, in milliseconds. -/
structure Arrival where
  /-- When the frame arrives. -/
  time : Nat
  bytes : Bytes
deriving DecidableEq, Inhabited, Repr

namespace Decoder

/-- Takes frames in order, each at its own time. -/
def receive (decoder : Decoder) (arrivals : List Arrival) : Decoder × List Packet :=
  Run.collect (fun decoder arrival => decoder.decode arrival.time arrival.bytes) decoder arrivals

@[simp] theorem receive_nil (decoder : Decoder) : decoder.receive [] = (decoder, []) := rfl

theorem receive_cons (decoder : Decoder) (arrival : Arrival) (arrivals : List Arrival) :
    decoder.receive (arrival :: arrivals)
      = (((decoder.decode arrival.time arrival.bytes).1.receive arrivals).1,
         (decoder.decode arrival.time arrival.bytes).2
           ++ ((decoder.decode arrival.time arrival.bytes).1.receive arrivals).2) :=
  Run.collect_cons _ decoder arrival arrivals

theorem receive_append (decoder : Decoder) (front back : List Arrival) :
    decoder.receive (front ++ back)
      = (((decoder.receive front).1.receive back).1,
         (decoder.receive front).2 ++ ((decoder.receive front).1.receive back).2) :=
  Run.collect_append _ decoder front back

/-- Nothing that is pending goes stale while the frames arrive. -/
def Undisturbed : Decoder → List Arrival → Prop
  | _, [] => True
  | decoder, arrival :: arrivals =>
    decoder.Fresh arrival.time ∧ (decoder.decode arrival.time arrival.bytes).1.Undisturbed arrivals

theorem undisturbed_append {decoder : Decoder} {front back : List Arrival} :
    decoder.Undisturbed (front ++ back)
      ↔ decoder.Undisturbed front ∧ (decoder.receive front).1.Undisturbed back := by
  induction front generalizing decoder with
  | nil => simp [Undisturbed]
  | cons arrival front ih =>
    rw [List.cons_append, Undisturbed, Undisturbed, ih, receive_cons, and_assoc]

/-- The timeout never changes. -/
theorem timeout_accept (now : Nat) (frame : FrameHeader) (decoder : Decoder) (piece : Piece) :
    (accept now frame decoder piece).1.timeout = decoder.timeout := by
  obtain ⟨after, packets, haccept, houtcome⟩ := accept_outcome now frame decoder piece
  rw [haccept]
  cases houtcome <;> rfl

/-- What arrives within the timeout before a moment is still young enough at that moment. -/
theorem fresh_decode {decoder : Decoder} {last now : Nat} (bytes : Bytes) (hfresh : decoder.Fresh last)
    (hnow : last - now < decoder.timeout) : (decoder.decode now bytes).1.Fresh last ∧
      (decoder.decode now bytes).1.timeout = decoder.timeout := by
  refine (decode_invariant (fun state => state.Fresh last ∧ state.timeout = decoder.timeout) (fun _ => True) ?_ ?_
    ⟨hfresh, rfl⟩).1
  · rintro state ⟨hstate, htimeout⟩
    exact ⟨Every.expire hstate now, htimeout⟩
  · rintro frame rest - state piece ⟨hstate, htimeout⟩
    refine ⟨⟨?_, (timeout_accept now frame state piece).trans htimeout⟩, fun _ _ => trivial⟩
    obtain ⟨after, packets, haccept, houtcome⟩ := accept_outcome now frame state piece
    rw [haccept]
    cases houtcome with
    | truncated | single | orphan => exact hstate
    | opened => exact Every.hold hstate (by rw [htimeout]; exact hnow)
    | broken | completed => exact Every.forget hstate _
    | appended _ hpending _ =>
      have hyoung := Every.of_pending? hstate hpending
      exact Every.hold hstate hyoung

/-- Frames disturb nothing when at the last moment nothing pending and nothing that arrives is stale. -/
theorem undisturbed_of_within {decoder : Decoder} (last : Nat) {arrivals : List Arrival}
    (hfresh : decoder.Fresh last)
    (harrivals : ∀ arrival ∈ arrivals, arrival.time ≤ last ∧ last - arrival.time < decoder.timeout) :
    decoder.Undisturbed arrivals := by
  induction arrivals generalizing decoder with
  | nil => trivial
  | cons arrival arrivals ih =>
    obtain ⟨hle, hwithin⟩ := harrivals arrival List.mem_cons_self
    obtain ⟨hnext, htimeout⟩ := fresh_decode arrival.bytes hfresh hwithin
    refine ⟨fun entry hentry => ?_, ih hnext fun later hlater => ?_⟩
    · have := hfresh entry hentry
      omega
    · rw [htimeout]
      exact harrivals later (List.mem_cons_of_mem _ hlater)

/-! ### Every payload under its own address -/

/-- Every pending payload is held under the address of its first part. -/
def Consistent (decoder : Decoder) : Prop :=
  decoder.Every fun entry => entry.1 = keyOf entry.2.frame entry.2.header

theorem consistent_empty (timeout : Nat) : Consistent { timeout } := every_empty timeout

theorem Consistent.accept {decoder : Decoder} (h : decoder.Consistent) (now : Nat) (frame : FrameHeader)
    (piece : Piece) : (accept now frame decoder piece).1.Consistent := by
  obtain ⟨after, packets, haccept, houtcome⟩ := accept_outcome now frame decoder piece
  rw [haccept]
  cases houtcome with
  | truncated | single | orphan => exact h
  | opened => exact Every.hold h rfl
  | broken | completed => exact Every.forget h _
  | appended _ hpending _ =>
    have hown := Every.of_pending? h hpending
    exact Every.hold h hown

theorem Consistent.decode {decoder : Decoder} (h : decoder.Consistent) (now : Nat) (bytes : Bytes) :
    (decoder.decode now bytes).1.Consistent :=
  (decode_invariant Consistent (fun _ => True) (fun _ h => Every.expire h now)
    (fun frame _ _ _ piece h => ⟨h.accept now frame piece, fun _ _ => trivial⟩) h).1

/-- The decoders that there can be: one starts empty, then takes frames, forgets what is stale or is cleared. -/
inductive Reachable : Decoder → Prop
  | empty (timeout : Nat) : Reachable { timeout }
  | decode {decoder : Decoder} (h : Reachable decoder) (now : Nat) (bytes : Bytes) :
      Reachable (decoder.decode now bytes).1
  | expire {decoder : Decoder} (h : Reachable decoder) (now : Nat) : Reachable (decoder.expire now).1
  | clear {decoder : Decoder} (h : Reachable decoder) : Reachable decoder.clear

theorem Reachable.consistent {decoder : Decoder} (h : decoder.Reachable) : decoder.Consistent := by
  induction h with
  | empty timeout => exact consistent_empty timeout
  | decode _ now bytes ih => exact ih.decode now bytes
  | expire _ now ih => exact Every.expire ih now
  | clear => exact List.forall_mem_nil _

end Decoder

end CaptureProtocol
