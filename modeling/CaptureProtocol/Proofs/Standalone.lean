import CaptureProtocol.Proofs.FrameGrammar
import Mathlib

/-!
# Messages that stand alone

An unsegmented message, and one that is cut short by the end of its frame, is answered by a packet of its own.  What
the decoder holds has no part in it, and it leaves no trace in the decoder.  Only the parts of longer payloads depend on
earlier frames, and no frame has both the first and the last part of one: the last must carry a later frame number.

* `Run.credited` — a run that keeps a record of which input gave an output; `collect_credited`: and changes nothing else;
* `Heard.standsAlone`, `Heard.packet` — the messages that stand alone, and their packets; `standalone`: those of a frame;
* `Decoder.take_of_standsAlone`, `take_of_awaitsAfter` — what a message that stands alone does, and what a part can do
  while all that is pending waits for the next frame;
* `Decoder.credits` — the packets of a frame with the messages that gave them; `filter_collect_credited`,
  `credits_of_expired`;
* `Decoder.stale`, `expire_count` — what is forgotten before a frame;
* `Decoder.decode_unblocked` — everything together.
-/

namespace CaptureProtocol

/-! ### Runs with a record -/

namespace Run

variable {σ α β : Type}

/-- A step that says of each output which input gave it. -/
def credited (step : σ → α → σ × List β) (state : σ) (input : α) : σ × List (α × β) :=
  ((step state input).1, (step state input).2.map (Prod.mk input))

/-- The record changes neither the state nor the outputs. -/
theorem collect_credited (step : σ → α → σ × List β) (state : σ) (inputs : List α) :
    (collect (credited step) state inputs).1 = (collect step state inputs).1
      ∧ (collect (credited step) state inputs).2.map Prod.snd = (collect step state inputs).2 := by
  induction inputs generalizing state with
  | nil => exact ⟨rfl, rfl⟩
  | cons input inputs ih =>
    obtain ⟨hstate, houtputs⟩ := ih (step state input).1
    rw [collect_cons, collect_cons]
    simp only [credited, List.map_append, List.map_map]
    refine ⟨hstate, congrArg₂ (· ++ ·) ?_ houtputs⟩
    exact List.map_id'' (fun _ => rfl) _

end Run

/-! ### Messages that stand alone -/

/-- Whether a message is unsegmented or cut short. -/
def Heard.standsAlone (heard : Heard) : Bool :=
  match heard.piece with
  | .truncated _ => true
  | .whole message => message.header.flags.segmentation == .unsegmented

/-- The packet of a message by itself. -/
def Heard.packet (heard : Heard) : Packet :=
  match heard.piece with
  | .truncated message =>
    packetOf heard.frame message.header (.undefined message.header.payloadType message.body)
  | .whole message =>
    packetOf heard.frame message.header (.parse heard.frame.messageType message.header.payloadType message.body)

/-- The messages of a list that stand alone, with their packets. -/
def ownPackets (history : List Heard) : List (Heard × Packet) :=
  (history.filter Heard.standsAlone).map fun heard => (heard, heard.packet)

/-- The packets of the messages of a frame that stand alone. -/
def standalone (bytes : Bytes) : List Packet := (ownPackets (hear bytes)).map Prod.snd

theorem ownPackets_cons_of_pos {heard : Heard} (h : heard.standsAlone = true) (history : List Heard) :
    ownPackets (heard :: history) = (heard, heard.packet) :: ownPackets history := by
  rw [ownPackets, List.filter_cons_of_pos h, List.map_cons]
  rfl

theorem ownPackets_cons_of_neg {heard : Heard} (h : ¬ heard.standsAlone = true) (history : List Heard) :
    ownPackets (heard :: history) = ownPackets history := by
  rw [ownPackets, List.filter_cons_of_neg h]
  rfl

namespace Decoder

theorem take_of_standsAlone {heard : Heard} (h : heard.standsAlone = true) (now : Nat) (decoder : Decoder) :
    decoder.take now heard = (decoder, [heard.packet]) := by
  obtain ⟨frame, piece⟩ := heard
  cases piece with
  | truncated message => rfl
  | whole message =>
    have hposition : message.header.flags.segmentation = .unsegmented := beq_iff_eq.mp h
    simp only [take, accept, hposition]
    rfl

/-- All that is pending waits for the frame after the one with this number. -/
def AwaitsAfter (sequence : UInt16) (decoder : Decoder) : Prop := decoder.Every fun entry => entry.2.next = sequence + 1

theorem add_one_ne_self (sequence : UInt16) : sequence + 1 ≠ sequence := by
  intro h
  have hvalue := congrArg UInt16.toNat h
  have hlt := sequence.toNat_lt
  rw [UInt16.toNat_add] at hvalue
  simp only [UInt16.reduceToNat] at hvalue
  omega

/-- A part gives nothing while all that is pending waits for the next frame, and leaves it so. -/
theorem take_of_awaitsAfter {heard : Heard} {decoder : Decoder} (h : decoder.AwaitsAfter heard.frame.sequence)
    (hpart : ¬ heard.standsAlone = true) (now : Nat) :
    (decoder.take now heard).1.AwaitsAfter heard.frame.sequence ∧ (decoder.take now heard).2 = [] := by
  obtain ⟨frame, piece⟩ := heard
  obtain ⟨after, packets, haccept, houtcome⟩ := accept_outcome now frame decoder piece
  rw [take, haccept]
  -- whatever the frame itself has opened carries its own number, not the next one
  have hlate : ∀ {key pending}, decoder.pending? key = some pending → pending.next ≠ frame.sequence := by
    intro key pending hpending hnext
    exact add_one_ne_self frame.sequence ((h.of_pending? hpending).symm.trans hnext)
  cases houtcome with
  | truncated => exact absurd rfl hpart
  | single hposition => exact absurd (beq_iff_eq.mpr hposition) hpart
  | opened => exact ⟨Every.hold h rfl, rfl⟩
  | orphan => exact ⟨h, rfl⟩
  | broken => exact ⟨Every.forget h _, rfl⟩
  | appended _ hpending hnext => exact absurd hnext (hlate hpending)
  | completed _ hpending hnext => exact absurd hnext (hlate hpending)

/-! ### The packets of a frame -/

/-- The packets of a frame, each with the message that gave it. -/
def credits (now : Nat) (decoder : Decoder) (bytes : Bytes) : List (Heard × Packet) :=
  (Run.collect (Run.credited (take now)) (decoder.expire now).1 (hear bytes)).2

theorem map_snd_credits (now : Nat) (decoder : Decoder) (bytes : Bytes) :
    (decoder.credits now bytes).map Prod.snd = (decoder.decode now bytes).2 := by
  rw [decode_eq_collect]
  exact (Run.collect_credited _ _ _).2

/-- Whatever a decoder holds, the messages that stand alone give their own packets, in order. -/
theorem filter_collect_credited (now : Nat) (decoder : Decoder) (history : List Heard) :
    (Run.collect (Run.credited (take now)) decoder history).2.filter (fun credit => credit.1.standsAlone)
      = ownPackets history := by
  induction history generalizing decoder with
  | nil => rfl
  | cons heard history ih =>
    rw [Run.collect_cons, List.filter_append, ih]
    by_cases h : heard.standsAlone = true
    · simp only [Run.credited, take_of_standsAlone h now decoder, ownPackets_cons_of_pos h]
      simp [h]
    · rw [ownPackets_cons_of_neg h, List.append_left_eq_self, List.filter_eq_nil_iff]
      intro credit hcredit
      obtain ⟨packet, -, rfl⟩ := List.mem_map.mp hcredit
      exact h

/-- A frame that finds nothing pending gives these packets only. -/
theorem collect_credited_of_awaitsAfter (now : Nat) {sequence : UInt16} {decoder : Decoder}
    (h : decoder.AwaitsAfter sequence) {history : List Heard}
    (hhistory : ∀ heard ∈ history, heard.frame.sequence = sequence) :
    (Run.collect (Run.credited (take now)) decoder history).2 = ownPackets history := by
  induction history generalizing decoder with
  | nil => rfl
  | cons heard history ih =>
    obtain ⟨rfl, hlater⟩ := List.forall_mem_cons.mp hhistory
    rw [Run.collect_cons]
    by_cases halone : heard.standsAlone = true
    · simp only [Run.credited, take_of_standsAlone halone now decoder, ownPackets_cons_of_pos halone]
      rw [ih h hlater]
      rfl
    · obtain ⟨hnext, hnothing⟩ := take_of_awaitsAfter h halone now
      simp only [Run.credited, hnothing, ownPackets_cons_of_neg halone]
      rw [ih hnext hlater]
      rfl

/-- All that is heard in a frame is heard under one number. -/
theorem exists_sequence_hear (bytes : Bytes) :
    ∃ sequence, ∀ heard ∈ hear bytes, heard.frame.sequence = sequence := by
  cases hread : FrameHeader.read bytes with
  | none =>
    rw [hear_of_short hread]
    exact ⟨0, List.forall_mem_nil _⟩
  | some found =>
    rw [hear_of_read hread]
    exact ⟨found.1.sequence, List.forall_mem_map.mpr fun _ _ => rfl⟩

/-- A decoder that has forgotten everything before a frame gives the packets of the messages that stand alone. -/
theorem credits_of_expired {now : Nat} {decoder : Decoder} (h : (decoder.expire now).1.pending = []) (bytes : Bytes) :
    decoder.credits now bytes = ownPackets (hear bytes) := by
  obtain ⟨sequence, hsequence⟩ := exists_sequence_hear bytes
  refine collect_credited_of_awaitsAfter now ?_ hsequence
  intro entry hentry
  rw [h] at hentry
  cases hentry

theorem decode_of_expired {now : Nat} {decoder : Decoder} (h : (decoder.expire now).1.pending = []) (bytes : Bytes) :
    (decoder.decode now bytes).2 = standalone bytes := by
  rw [← map_snd_credits, credits_of_expired h, standalone]

/-! ### Staleness -/

/-- Whether a payload has been pending for a whole timeout. -/
def stale (timeout now : Nat) (entry : StreamKey × PendingPayload) : Bool := timeout ≤ now - entry.2.since

theorem pending_expire (decoder : Decoder) (now : Nat) :
    (decoder.expire now).1.pending = decoder.pending.filter fun entry => !stale decoder.timeout now entry := by
  refine List.filter_congr fun entry _ => ?_
  simp only [stale, ← decide_not, Nat.not_le]

/-- What is forgotten, and what is not, makes up what was pending. -/
theorem expire_count (decoder : Decoder) (now : Nat) :
    (decoder.expire now).2 = decoder.pending.countP (stale decoder.timeout now) := by
  have hcount := List.length_eq_countP_add_countP (stale decoder.timeout now) (l := decoder.pending)
  have hkept : (decoder.expire now).2 = decoder.pending.length - (decoder.expire now).1.pending.length := rfl
  rw [pending_expire, ← List.countP_eq_length_filter] at hkept
  simp only [Bool.not_eq_true, Bool.decide_eq_false] at hcount
  omega

/-- With a timeout of 0 everything is stale at once. -/
theorem expire_of_timeout_eq_zero {decoder : Decoder} (h : decoder.timeout = 0) (now : Nat) :
    (decoder.expire now).1.pending = [] := by
  rw [pending_expire, List.filter_eq_nil_iff]
  intro entry _
  simp [stale, h]

theorem timeout_decode (decoder : Decoder) (now : Nat) (bytes : Bytes) :
    (decoder.decode now bytes).1.timeout = decoder.timeout :=
  (decode_invariant (fun state => state.timeout = decoder.timeout) (fun _ => True) (fun _ h => h)
    (fun frame _ _ state piece h => ⟨(timeout_accept now frame state piece).trans h, fun _ _ => trivial⟩) rfl).1

theorem timeout_receive (decoder : Decoder) (history : List Arrival) :
    (decoder.receive history).1.timeout = decoder.timeout := by
  induction history generalizing decoder with
  | nil => rfl
  | cons arrival history ih =>
    rw [receive_cons]
    exact (ih _).trans (timeout_decode _ _ _)

/-- What is pending never blocks a message that is complete.  The packets of the messages that stand alone are the same
from any two decoders, at any moments and in the same order.  A decoder that holds nothing gives no others, and neither
does one with a timeout of 0, whatever it has received.  What goes stale is forgotten and counted, and nothing else. -/
theorem decode_unblocked (bytes : Bytes) :
    (∀ (decoder : Decoder) (now : Nat), (decoder.credits now bytes).map Prod.snd = (decoder.decode now bytes).2)
      ∧ (∀ (left right : Decoder) (now later : Nat),
        (left.credits now bytes).filter (fun credit => credit.1.standsAlone)
          = (right.credits later bytes).filter fun credit => credit.1.standsAlone)
      ∧ (∀ (decoder : Decoder) (now : Nat),
        ((decoder.credits now bytes).filter fun credit => credit.1.standsAlone).map Prod.snd = standalone bytes)
      ∧ (∀ (decoder : Decoder) (now : Nat), decoder.pending = [] →
        ∀ credit ∈ decoder.credits now bytes, credit.1.standsAlone = true)
      ∧ (∀ decoder : Decoder, decoder.timeout = 0 → ∀ (history : List Arrival) (now : Nat),
        ((decoder.receive history).1.decode now bytes).2 = standalone bytes)
      ∧ ∀ (decoder : Decoder) (now : Nat), (decoder.expire now).1.timeout = decoder.timeout
        ∧ (decoder.expire now).1.pending.Sublist decoder.pending
        ∧ (∀ entry ∈ decoder.pending,
          entry ∈ (decoder.expire now).1.pending ↔ now - entry.2.since < decoder.timeout)
        ∧ (decoder.expire now).2
          = decoder.pending.countP fun entry => decide (decoder.timeout ≤ now - entry.2.since) := by
  refine ⟨fun decoder now => map_snd_credits now decoder bytes, fun left right now later => ?_,
    fun decoder now => ?_, fun decoder now hpending credit hcredit => ?_, fun decoder htimeout history now => ?_,
    fun decoder now => ?_⟩
  · exact (filter_collect_credited _ _ _).trans (filter_collect_credited _ _ _).symm
  · exact congrArg (List.map Prod.snd) (filter_collect_credited _ _ _)
  · have hexpired : (decoder.expire now).1.pending = [] := by
      rw [pending_expire, hpending]
      rfl
    rw [credits_of_expired hexpired, ownPackets] at hcredit
    obtain ⟨heard, hheard, rfl⟩ := List.mem_map.mp hcredit
    exact (List.mem_filter.mp hheard).2
  · exact decode_of_expired (expire_of_timeout_eq_zero ((timeout_receive decoder history).trans htimeout) now) bytes
  · rw [pending_expire]
    refine ⟨rfl, List.filter_sublist, fun entry hentry => ?_, expire_count decoder now⟩
    simp [List.mem_filter, hentry, stale]

end Decoder

end CaptureProtocol
