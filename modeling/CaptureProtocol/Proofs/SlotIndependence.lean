import CaptureProtocol.Run
import CaptureProtocol.Proofs.RackRuns
import CaptureProtocol.Proofs.Shielding
import Mathlib

/-!
# Slots do not see each other

Several clients call one rack.  Whatever the order in which their calls take effect, a slot answers as if it were
called alone, and numbers its frames without a gap.

* `RackCall`, `RackAnswer`, `EncoderRack.exchange` — the calls and their answers;
* `EncoderRack.SameSlot` — two racks agree on a slot; `SameSlot.call` says that a call of the slot is answered alike
  and keeps this, `sameSlot_call` that a call of another slot does not touch it;
* `EncoderRack.exchanges_filter` — the exchanges of a slot are those of its own calls;
* `Encoder.map_frameNumber?_writeFrames` — the frames of a call are numbered on;
* `EncoderRack.StandsAt` — a slot is bound and has come to a number; `StandsAt.call` and `StandsAt.run` say how far
  calls move it, `StandsAt.numbersSent_sublist` and `numbersSent_eq` which numbers their frames carry;
* `EncoderRack.slots_independent` — everything together.
-/

namespace CaptureProtocol

/-- The slot that an operation addresses. -/
def RackOperation.slot : RackOperation → Nat
  | assign slot .. | retype slot _ | release slot | encode slot _ => slot

/-- A call of a rack. -/
inductive RackCall where
  | operate (operation : RackOperation)
  /-- Asks whether a slot is bound. -/
  | ask (slot : Nat)
deriving DecidableEq, Inhabited, Repr

namespace RackCall

/-- The slot that a call addresses. -/
def slot : RackCall → Nat
  | operate operation => operation.slot
  | ask slot => slot

/-- Whether a call binds a slot anew or empties it. -/
def rebinds (slot : Nat) : RackCall → Bool
  | operate (.assign other ..) | operate (.release other) => slot == other
  | operate (.retype ..) | operate (.encode ..) | ask _ => false

end RackCall

/-- The answer to a call. -/
inductive RackAnswer where
  | done
  | frames (frames : List Bytes)
  | bound (yes : Bool)
  | refused (error : LinkError)
deriving DecidableEq, Inhabited, Repr

namespace RackAnswer

/-- The answer of a call that gives nothing when it succeeds. -/
def ofResult {α : Type} : Except LinkError α → RackAnswer
  | .ok _ => done
  | .error error => refused error

/-- The answer of a call that gives frames. -/
def ofFrames : Except LinkError (List Bytes) → RackAnswer
  | .ok sent => frames sent
  | .error error => refused error

/-- The frames of an answer. -/
def sent : RackAnswer → List Bytes
  | .frames sent => sent
  | done | bound _ | refused _ => []

/-- Whether a call was refused. -/
def isRefused : RackAnswer → Bool
  | refused _ => true
  | done | .frames _ | bound _ => false

theorem sent_ofResult {α : Type} (result : Except LinkError α) : (ofResult result).sent = [] := by
  cases result <;> rfl

end RackAnswer

/-- The number that a frame carries. -/
def frameNumber? (frame : Bytes) : Option UInt16 := (FrameHeader.read frame).map (·.1.sequence)

/-- Numbers that follow each other, as frames carry them. -/
def consecutive (first count : Nat) : List (Option UInt16) :=
  (List.range count).map fun index => some (UInt16.ofNat (first + index))

namespace EncoderRack

/-- The answer to a call. -/
def answer (rack : EncoderRack) : RackCall → RackAnswer
  | .operate (.assign slot deviceId streamId payloadType) =>
    .ofResult (rack.assign slot deviceId streamId payloadType)
  | .operate (.retype slot payloadType) => .ofResult (rack.retype slot payloadType)
  | .operate (.release _) => .done
  | .operate (.encode slot call) => .ofFrames (rack.encode slot call.limits call.packets).2
  | .ask slot => .bound (rack.isBound slot)

/-- The rack after a call. -/
def call (rack : EncoderRack) : RackCall → EncoderRack
  | .operate operation => (rack.perform operation).1
  | .ask _ => rack

/-- The rack after a call, and the call with its answer. -/
def exchange (rack : EncoderRack) (call : RackCall) : EncoderRack × List (RackCall × RackAnswer) :=
  (rack.call call, [(call, rack.answer call)])

/-- The rack after calls, one after the other. -/
def after (rack : EncoderRack) (calls : List RackCall) : EncoderRack := (Run.collect exchange rack calls).1

/-- Calls with their answers. -/
def exchanges (rack : EncoderRack) (calls : List RackCall) : List (RackCall × RackAnswer) :=
  (Run.collect exchange rack calls).2

/-- How many frame numbers a call uses up in a slot. -/
def numbersStartedIn (slot : Nat) (rack : EncoderRack) : RackCall → Nat
  | .operate operation => if operation.slot = slot then rack.numbersStarted operation else 0
  | .ask _ => 0

/-- How many frame numbers calls use up in a slot. -/
def numbersTaken (slot : Nat) : EncoderRack → List RackCall → Nat
  | _, [] => 0
  | rack, call :: calls => rack.numbersStartedIn slot call + (rack.call call).numbersTaken slot calls

/-- The numbers of all frames that a slot gives, in order. -/
def numbersSent (slot : Nat) (exchanges : List (RackCall × RackAnswer)) : List (Option UInt16) :=
  (exchanges.filter (·.1.slot = slot)).flatMap fun exchange => exchange.2.sent.map frameNumber?

variable {rack other : EncoderRack} {slot changed : Nat} {encoder : Encoder} {calls : List RackCall}

@[simp] theorem after_nil (rack : EncoderRack) : rack.after [] = rack := rfl

@[simp] theorem exchanges_nil (rack : EncoderRack) : rack.exchanges [] = [] := rfl

@[simp] theorem after_cons (rack : EncoderRack) (call : RackCall) (calls : List RackCall) :
    rack.after (call :: calls) = (rack.call call).after calls := by
  rw [after, Run.collect_cons]
  rfl

@[simp] theorem exchanges_cons (rack : EncoderRack) (call : RackCall) (calls : List RackCall) :
    rack.exchanges (call :: calls) = (call, rack.answer call) :: (rack.call call).exchanges calls := by
  rw [exchanges, Run.collect_cons]
  rfl

/-! ### Racks that agree on a slot -/

/-- Two racks have as many slots, and agree on one of them. -/
structure SameSlot (slot : Nat) (rack other : EncoderRack) : Prop where
  size : other.size = rack.size
  content : other.slots[slot]? = rack.slots[slot]?

theorem SameSlot.refl (slot : Nat) (rack : EncoderRack) : SameSlot slot rack rack := ⟨rfl, rfl⟩

theorem SameSlot.symm (h : SameSlot slot rack other) : SameSlot slot other rack := ⟨h.size.symm, h.content.symm⟩

theorem SameSlot.trans {third : EncoderRack} (h : SameSlot slot rack other) (hthird : SameSlot slot other third) :
    SameSlot slot rack third := ⟨hthird.size.trans h.size, hthird.content.trans h.content⟩

theorem SameSlot.encoder? (h : SameSlot slot rack other) : other.encoder? slot = rack.encoder? slot := by
  rw [EncoderRack.encoder?, h.content]
  rfl

theorem SameSlot.bound (h : SameSlot slot rack other) : other.bound slot = rack.bound slot := by
  rw [EncoderRack.bound, EncoderRack.bound, h.content, h.size]

theorem SameSlot.put (h : SameSlot slot rack other) (content : Option Encoder) :
    SameSlot slot (rack.put slot content) (other.put slot content) where
  size := by rw [size_put, size_put, h.size]
  content := by
    rw [EncoderRack.put, EncoderRack.put, List.getElem?_set_self', List.getElem?_set_self', h.content]

theorem sameSlot_put (h : changed ≠ slot) (content : Option Encoder) :
    SameSlot slot rack (rack.put changed content) where
  size := size_put _
  content := List.getElem?_set_ne h

/-- A call of a slot is answered from its content alone, and leaves racks that agree on it again. -/
theorem SameSlot.call {call : RackCall} (h : SameSlot call.slot rack other) :
    other.answer call = rack.answer call ∧ SameSlot call.slot (rack.call call) (other.call call) := by
  cases call with
  | ask slot =>
    change SameSlot slot rack other at h
    refine ⟨?_, h⟩
    rw [answer, answer, isBound, isBound, h.encoder?]
  | operate operation =>
    cases operation with
    | assign slot deviceId streamId payloadType =>
      change SameSlot slot rack other at h
      simp only [answer, EncoderRack.call, perform, assign, h.size]
      by_cases hslot : slot < rack.size
      · rw [if_pos hslot, if_pos hslot]
        exact ⟨rfl, h.put _⟩
      · rw [if_neg hslot, if_neg hslot]
        exact ⟨rfl, h⟩
    | retype slot payloadType =>
      change SameSlot slot rack other at h
      simp only [answer, EncoderRack.call, perform, retype, h.bound]
      cases rack.bound slot with
      | error error => exact ⟨rfl, h⟩
      | ok encoder => exact ⟨rfl, h.put _⟩
    | release slot => exact ⟨rfl, SameSlot.put h none⟩
    | encode slot call =>
      change SameSlot slot rack other at h
      simp only [answer, EncoderRack.call, perform, encode, h.bound]
      cases rack.bound slot with
      | error error => exact ⟨rfl, h⟩
      | ok encoder => exact ⟨rfl, h.put _⟩

/-- A call of another slot does not touch a slot. -/
theorem sameSlot_call {call : RackCall} (h : call.slot ≠ slot) : SameSlot slot rack (rack.call call) := by
  cases call with
  | ask other => exact SameSlot.refl slot rack
  | operate operation =>
    cases operation with
    | assign changed deviceId streamId payloadType =>
      change changed ≠ slot at h
      rw [EncoderRack.call, perform, assign]
      split
      · exact sameSlot_put h _
      · exact SameSlot.refl slot rack
    | retype changed payloadType =>
      change changed ≠ slot at h
      rw [EncoderRack.call, perform, retype]
      cases rack.bound changed with
      | error error => exact SameSlot.refl slot rack
      | ok encoder => exact sameSlot_put h _
    | release changed => exact sameSlot_put h none
    | encode changed call =>
      change changed ≠ slot at h
      rw [EncoderRack.call, perform, encode]
      cases rack.bound changed with
      | error error => exact SameSlot.refl slot rack
      | ok encoder => exact sameSlot_put h _

/-- What a slot answers and what is in it after calls is settled by its own calls. -/
theorem exchanges_filter (h : SameSlot slot rack other) (calls : List RackCall) :
    (rack.exchanges calls).filter (·.1.slot = slot) = other.exchanges (calls.filter (·.slot = slot))
      ∧ SameSlot slot (rack.after calls) (other.after (calls.filter (·.slot = slot))) := by
  induction calls generalizing rack other with
  | nil => simpa using h
  | cons call calls ih =>
    rw [exchanges_cons, after_cons]
    by_cases hslot : call.slot = slot
    · subst hslot
      obtain ⟨hanswer, hlater⟩ := h.call
      obtain ⟨hexchanges, hafter⟩ := ih hlater
      rw [List.filter_cons_of_pos (by simp), List.filter_cons_of_pos (by simp), exchanges_cons, after_cons, hanswer,
        hexchanges]
      exact ⟨rfl, hafter⟩
    · have hkept : SameSlot slot (rack.call call) other := (sameSlot_call hslot).symm.trans h
      rw [List.filter_cons_of_neg (by simpa using hslot), List.filter_cons_of_neg (by simpa using hslot)]
      exact ih hkept

/-! ### Refused calls -/

theorem bound_of_none (h : rack.encoder? slot = none) :
    rack.bound slot = .error (if slot < rack.size then .slotUnbound slot else .noSuchSlot slot rack.size) := by
  rw [encoder?, Option.join_eq_none_iff] at h
  rw [bound]
  rcases h with hmissing | hempty
  · have hslot : ¬ slot < rack.size := Nat.not_lt.mpr (List.getElem?_eq_none_iff.mp hmissing)
    rw [hmissing, if_neg hslot]
  · obtain ⟨hslot, -⟩ := List.getElem?_eq_some_iff.mp hempty
    rw [hempty, if_pos (show slot < rack.size from hslot)]

theorem exchange_encode_of_none (h : rack.encoder? slot = none) (call : Call) :
    rack.exchange (.operate (.encode slot call)) = (rack, [(.operate (.encode slot call),
      .refused (if slot < rack.size then .slotUnbound slot else .noSuchSlot slot rack.size))]) := by
  rw [exchange, EncoderRack.call, perform, answer, encode, bound_of_none h]
  rfl

theorem exchange_retype_of_none (h : rack.encoder? slot = none) (payloadType : Option PayloadType) :
    rack.exchange (.operate (.retype slot payloadType)) = (rack, [(.operate (.retype slot payloadType),
      .refused (if slot < rack.size then .slotUnbound slot else .noSuchSlot slot rack.size))]) := by
  rw [exchange, EncoderRack.call, perform, answer, retype, bound_of_none h]
  rfl

theorem exchange_assign_of_size_le (h : rack.size ≤ slot) (deviceId : UInt16) (streamId : UInt8)
    (payloadType : Option PayloadType) :
    rack.exchange (.operate (.assign slot deviceId streamId payloadType))
      = (rack, [(.operate (.assign slot deviceId streamId payloadType), .refused (.noSuchSlot slot rack.size))]) := by
  rw [exchange, EncoderRack.call, perform, answer, assign, if_neg (Nat.not_lt.mpr h)]
  rfl

end EncoderRack

/-! ### Numbers of frames -/

theorem consecutive_add (first front back : Nat) :
    consecutive first (front + back) = consecutive first front ++ consecutive (first + front) back := by
  rw [consecutive, List.range_add, List.map_append, List.map_map]
  congr 1
  refine List.map_congr_left ?_
  intro index _
  rw [Function.comp_apply, Nat.add_assoc]

/-- As long as the numbers do not wrap around, they differ. -/
theorem nodup_consecutive {first count : Nat} (h : count ≤ 65536) : (consecutive first count).Nodup := by
  refine List.Nodup.map_on ?_ List.nodup_range
  intro index hindex another hanother hsame
  have hnumber := congrArg UInt16.toNat (Option.some.inj hsame)
  rw [UInt16.toNat_ofNat', UInt16.toNat_ofNat'] at hnumber
  rw [List.mem_range] at hindex hanother
  omega

namespace Encoder

theorem frameNumber?_writeFrame (encoder : Encoder) (limits : FrameLimits) (index : Nat) (draft : FrameDraft) :
    frameNumber? (encoder.writeFrame limits index draft) = some (encoder.sequence + UInt16.ofNat index) := by
  rw [frameNumber?, writeFrame, List.append_assoc, FrameHeader.read_write]
  rfl

/-- Frames are numbered from the number of the encoder on. -/
theorem map_frameNumber?_writeFrames {encoder : Encoder} {first : Nat} (h : encoder.sequence = UInt16.ofNat first)
    (limits : FrameLimits) (drafts : List FrameDraft) :
    (encoder.writeFrames limits drafts).map frameNumber? = consecutive first drafts.length := by
  refine List.ext_getElem (by simp [writeFrames, consecutive]) ?_
  intro index hindex _
  simp only [writeFrames, consecutive, List.getElem_map, List.getElem_mapIdx, List.getElem_range]
  rw [frameNumber?_writeFrame, h, UInt16.ofNat_add]

end Encoder

namespace EncoderRack

variable {rack other : EncoderRack} {slot : Nat} {encoder : Encoder} {calls : List RackCall} {first : Nat}

/-- A slot is bound and has come to a number. -/
def StandsAt (rack : EncoderRack) (slot number : Nat) : Prop :=
  ∃ encoder, rack.encoder? slot = some encoder ∧ encoder.sequence = UInt16.ofNat number

theorem numbersTaken_append (slot : Nat) (rack : EncoderRack) (front back : List RackCall) :
    rack.numbersTaken slot (front ++ back)
      = rack.numbersTaken slot front + (rack.after front).numbersTaken slot back := by
  induction front generalizing rack with
  | nil => exact (Nat.zero_add _).symm
  | cons call front ih =>
    rw [List.cons_append, numbersTaken, ih, numbersTaken, after_cons, Nat.add_assoc]

theorem numbersTaken_singleton (slot : Nat) (rack : EncoderRack) (call : RackCall) :
    rack.numbersTaken slot [call] = rack.numbersStartedIn slot call := Nat.add_zero _

theorem numbersStartedIn_of_ne {call : RackCall} (h : call.slot ≠ slot) : rack.numbersStartedIn slot call = 0 := by
  cases call with
  | operate operation => exact if_neg h
  | ask other => rfl

theorem numbersStartedIn_encode (h : rack.encoder? slot = some encoder) (call : Call) :
    rack.numbersStartedIn slot (.operate (.encode slot call)) = encoder.framesStarted call.limits call.packets :=
  (if_pos rfl).trans (numbersStarted_encode h)

/-- A call of the encoder of a slot, with all that it gives: the frames carry the numbers that it takes, unless it is
refused. -/
theorem answer_encode (hstands : rack.StandsAt slot first) (call : Call) :
    (∃ frames, rack.answer (.operate (.encode slot call)) = .frames frames
        ∧ frames.map frameNumber? = consecutive first frames.length
        ∧ rack.numbersStartedIn slot (.operate (.encode slot call)) = frames.length)
      ∨ ∃ error, rack.answer (.operate (.encode slot call)) = .refused error := by
  obtain ⟨encoder, hencoder, hsequence⟩ := hstands
  rw [answer, encode_of_encoder? hencoder, numbersStartedIn_encode hencoder]
  cases hresult : (encoder.encode call.limits call.packets).2 with
  | error error => exact .inr ⟨error, rfl⟩
  | ok frames =>
    obtain ⟨-, -, rfl, hstarted⟩ := Encoder.encode_ok hresult
    have hlength : (encoder.writeFrames call.limits (layout call.limits call.packets)).length
        = (layout call.limits call.packets).length := List.length_mapIdx
    refine .inl ⟨_, rfl, ?_, hstarted.trans hlength.symm⟩
    rw [Encoder.map_frameNumber?_writeFrames hsequence, hlength]

/-- A call that does not bind the slot anew moves the number of the slot on by the numbers that it takes. -/
theorem StandsAt.call (h : rack.StandsAt slot first) {call : RackCall} (hcall : call.rebinds slot = false) :
    (rack.call call).StandsAt slot (first + rack.numbersStartedIn slot call) := by
  by_cases hslot : call.slot = slot
  · obtain ⟨encoder, hencoder, hsequence⟩ := h
    have hsize := lt_size_of_encoder? hencoder
    cases call with
    | ask other => exact ⟨encoder, hencoder, hsequence⟩
    | operate operation =>
      cases operation with
      | assign changed deviceId streamId payloadType =>
        rw [RackCall.rebinds, beq_eq_false_iff_ne] at hcall
        exact (hcall hslot.symm).elim
      | release changed =>
        rw [RackCall.rebinds, beq_eq_false_iff_ne] at hcall
        exact (hcall hslot.symm).elim
      | retype changed payloadType =>
        change changed = slot at hslot
        subst hslot
        refine ⟨{ encoder with payloadType }, ?_, ?_⟩
        · rw [EncoderRack.call, perform, retype, bound_eq_ok.mpr hencoder]
          change (rack.put changed _).encoder? changed = _
          rw [encoder?_put hsize, if_pos rfl]
        · rw [numbersStartedIn, if_pos (show (RackOperation.retype changed payloadType).slot = changed from rfl)]
          exact hsequence
      | encode changed call =>
        change changed = slot at hslot
        subst hslot
        refine ⟨_, by rw [EncoderRack.call, perform_encode hencoder, encoder?_put hsize, if_pos rfl], ?_⟩
        rw [numbersStartedIn_encode hencoder, Encoder.advance, hsequence, UInt16.ofNat_add]
  · rw [numbersStartedIn_of_ne hslot, Nat.add_zero]
    obtain ⟨encoder, hencoder, hsequence⟩ := h
    exact ⟨encoder, (sameSlot_call hslot).encoder?.trans hencoder, hsequence⟩

theorem StandsAt.run (h : rack.StandsAt slot first) (hcalls : ∀ call ∈ calls, call.rebinds slot = false) :
    (rack.after calls).StandsAt slot (first + rack.numbersTaken slot calls) := by
  induction calls generalizing rack first with
  | nil => exact h
  | cons call calls ih =>
    obtain ⟨hcall, hrest⟩ := List.forall_mem_cons.mp hcalls
    rw [after_cons, numbersTaken, ← Nat.add_assoc]
    exact ih (h.call hcall) hrest

/-! ### Numbers of a run -/

theorem numbersSent_cons (slot : Nat) (exchange : RackCall × RackAnswer) (exchanges : List (RackCall × RackAnswer)) :
    numbersSent slot (exchange :: exchanges) = numbersSent slot [exchange] ++ numbersSent slot exchanges := by
  rw [numbersSent, ← List.singleton_append, List.filter_append, List.flatMap_append]
  rfl

theorem numbersSent_of_ne {call : RackCall} (h : call.slot ≠ slot) (answer : RackAnswer) :
    numbersSent slot [(call, answer)] = [] := by
  rw [numbersSent, List.filter_cons_of_neg (by simpa using h)]
  rfl

theorem numbersSent_of_eq {call : RackCall} (h : call.slot = slot) (answer : RackAnswer) :
    numbersSent slot [(call, answer)] = answer.sent.map frameNumber? := by
  rw [numbersSent, List.filter_cons_of_pos (by simpa using h)]
  exact List.append_nil _

/-- A call gives the numbers that it takes, or it is a refused call that should have encoded and gives none. -/
theorem StandsAt.numbersSent (h : rack.StandsAt slot first) (call : RackCall) :
    EncoderRack.numbersSent slot [(call, rack.answer call)] = consecutive first (rack.numbersStartedIn slot call)
      ∨ EncoderRack.numbersSent slot [(call, rack.answer call)] = []
        ∧ ∃ packets error, call = .operate (.encode slot packets) ∧ rack.answer call = .refused error := by
  by_cases hslot : call.slot = slot
  · rw [numbersSent_of_eq hslot]
    cases call with
    | ask other => exact .inl rfl
    | operate operation =>
      cases operation with
      | assign changed deviceId streamId payloadType =>
        have hnone : rack.numbersStartedIn slot (.operate (.assign changed deviceId streamId payloadType)) = 0 :=
          ite_self 0
        rw [answer, RackAnswer.sent_ofResult, hnone]
        exact .inl rfl
      | retype changed payloadType =>
        have hnone : rack.numbersStartedIn slot (.operate (.retype changed payloadType)) = 0 := ite_self 0
        rw [answer, RackAnswer.sent_ofResult, hnone]
        exact .inl rfl
      | release changed =>
        have hnone : rack.numbersStartedIn slot (.operate (.release changed)) = 0 := ite_self 0
        rw [hnone]
        exact .inl rfl
      | encode changed packets =>
        change changed = slot at hslot
        subst hslot
        rcases answer_encode h packets with hframes | hrefused
        · obtain ⟨frames, hanswer, hnumbers, htaken⟩ := hframes
          left
          rw [hanswer, htaken]
          exact hnumbers
        · obtain ⟨error, hanswer⟩ := hrefused
          right
          rw [hanswer]
          exact ⟨rfl, packets, error, rfl, rfl⟩
  · left
    rw [numbersSent_of_ne hslot, numbersStartedIn_of_ne hslot]
    rfl

/-- The numbers of a run are taken in order from those that the run takes. -/
theorem StandsAt.numbersSent_sublist (h : rack.StandsAt slot first)
    (hcalls : ∀ call ∈ calls, call.rebinds slot = false) :
    (EncoderRack.numbersSent slot (rack.exchanges calls)).Sublist
      (consecutive first (rack.numbersTaken slot calls)) := by
  induction calls generalizing rack first with
  | nil => exact List.Sublist.refl _
  | cons call calls ih =>
    obtain ⟨hcall, hrest⟩ := List.forall_mem_cons.mp hcalls
    rw [exchanges_cons, numbersSent_cons, numbersTaken, consecutive_add]
    refine List.Sublist.append ?_ (ih (h.call hcall) hrest)
    rcases h.numbersSent call with hnumbers | hnone
    · rw [hnumbers]
    · rw [hnone.1]
      exact List.nil_sublist _

/-- When nothing that should be encoded is refused, all numbers that the run takes are those of its frames. -/
theorem StandsAt.numbersSent_eq (h : rack.StandsAt slot first)
    (hcalls : ∀ call ∈ calls, call.rebinds slot = false)
    (hrefused : ∀ packets error, (.operate (.encode slot packets), .refused error) ∉ rack.exchanges calls) :
    EncoderRack.numbersSent slot (rack.exchanges calls) = consecutive first (rack.numbersTaken slot calls) := by
  induction calls generalizing rack first with
  | nil => rfl
  | cons call calls ih =>
    obtain ⟨hcall, hrest⟩ := List.forall_mem_cons.mp hcalls
    rw [exchanges_cons] at hrefused ⊢
    rw [numbersSent_cons, numbersTaken, consecutive_add]
    have hlater := ih (h.call hcall) hrest fun packets error hmem =>
      hrefused packets error (List.mem_cons_of_mem _ hmem)
    rcases h.numbersSent call with hnumbers | hnone
    · rw [hnumbers, hlater]
    · obtain ⟨-, packets, error, rfl, hanswer⟩ := hnone
      exact (hrefused packets error (hanswer ▸ List.mem_cons_self ..)).elim

/-- A slot that was just bound numbers its frames from 0. -/
theorem standsAt_assign (h : slot < rack.size) (deviceId : UInt16) (streamId : UInt8)
    (payloadType : Option PayloadType) :
    (rack.call (.operate (.assign slot deviceId streamId payloadType))).StandsAt slot 0 := by
  refine ⟨{ slot, deviceId, streamId, payloadType }, ?_, rfl⟩
  rw [EncoderRack.call, perform, assign, if_pos h]
  change (rack.put slot _).encoder? slot = _
  rw [encoder?_put h, if_pos rfl]

/-- A slot of a rack answers its calls, and ends, as if no other slot were called.  Calls that need a bound slot are
refused without one, and a slot that does not exist cannot be bound; what is refused changes nothing.  Once a slot is
bound, and until it is bound anew or emptied, its frames are numbered from 0 on: each call goes on at the number that
those before it have come to, no number is given twice before all are used up, and none is left out unless a call was
refused. -/
theorem slots_independent (rack : EncoderRack) :
    (∀ slot calls,
      (rack.exchanges calls).filter (·.1.slot = slot) = rack.exchanges (calls.filter (·.slot = slot))
        ∧ (rack.after calls).slots[slot]? = (rack.after (calls.filter (·.slot = slot))).slots[slot]?)
      ∧ (∀ slot, rack.encoder? slot = none →
        let error := if slot < rack.size then .slotUnbound slot else .noSuchSlot slot rack.size
        (∀ packets, rack.exchange (.operate (.encode slot packets))
            = (rack, [(.operate (.encode slot packets), .refused error)]))
          ∧ ∀ payloadType, rack.exchange (.operate (.retype slot payloadType))
            = (rack, [(.operate (.retype slot payloadType), .refused error)]))
      ∧ (∀ slot, rack.size ≤ slot → ∀ deviceId streamId payloadType,
        rack.exchange (.operate (.assign slot deviceId streamId payloadType))
          = (rack, [(.operate (.assign slot deviceId streamId payloadType), .refused (.noSuchSlot slot rack.size))]))
      ∧ ∀ slot, slot < rack.size → ∀ deviceId streamId payloadType calls,
        (∀ call ∈ calls, call.rebinds slot = false) →
        let start := rack.call (.operate (.assign slot deviceId streamId payloadType))
        let taken := start.numbersTaken slot calls
        (start.after calls).StandsAt slot taken
          ∧ (∀ packets frames, (start.after calls).answer (.operate (.encode slot packets)) = .frames frames →
            frames.map frameNumber? = consecutive taken frames.length
              ∧ start.numbersTaken slot (calls ++ [.operate (.encode slot packets)]) = taken + frames.length)
          ∧ (taken ≤ 65536 → (numbersSent slot (start.exchanges calls)).Nodup)
          ∧ ((∀ packets error, (.operate (.encode slot packets), .refused error) ∉ start.exchanges calls) →
            numbersSent slot (start.exchanges calls) = consecutive 0 taken) := by
  refine ⟨?_, ?_, ?_, ?_⟩
  · intro slot calls
    obtain ⟨hexchanges, hafter⟩ := exchanges_filter (SameSlot.refl slot rack) calls
    exact ⟨hexchanges, hafter.content.symm⟩
  · intro slot hnone error
    exact ⟨exchange_encode_of_none hnone, exchange_retype_of_none hnone⟩
  · intro slot hmissing
    exact exchange_assign_of_size_le hmissing
  · intro slot hslot deviceId streamId payloadType calls hcalls start taken
    have hstart : start.StandsAt slot 0 := standsAt_assign hslot deviceId streamId payloadType
    have hafter : (start.after calls).StandsAt slot taken := by
      have hrun := hstart.run hcalls
      rwa [Nat.zero_add] at hrun
    refine ⟨hafter, ?_, ?_, hstart.numbersSent_eq hcalls⟩
    · intro packets frames hframes
      rcases answer_encode hafter packets with hgiven | hrefused
      · obtain ⟨given, hanswer, hnumbers, htaken⟩ := hgiven
        rw [hframes, RackAnswer.frames.injEq] at hanswer
        subst hanswer
        rw [numbersTaken_append, numbersTaken_singleton, htaken]
        exact ⟨hnumbers, rfl⟩
      · obtain ⟨error, hanswer⟩ := hrefused
        rw [hframes] at hanswer
        cases hanswer
    · intro htaken
      exact (nodup_consecutive htaken).sublist (hstart.numbersSent_sublist hcalls)

end EncoderRack

/-! ### Two clients -/

/-- One CAN message. -/
def messageCall : Call := ⟨{}, [.ofPayload 1 0 (.can (.ofIdentifier 45 [9]))]⟩

/-- One client sends in slot 2, and changes its payload type in between.  Another one has slot 1, which it sends in
before it is bound. -/
def clientCalls : List RackCall :=
  [.operate (.encode 2 messageCall), .operate (.encode 1 messageCall), .ask 2, .operate (.retype 2 (some .can)),
    .operate (.assign 1 0 1 none), .operate (.encode 2 messageCall), .operate (.release 1)]

namespace EncoderRack

theorem slots_independent_clients :
    let rack := empty 3
    let start := rack.call (.operate (.assign 2 0 2 none))
    rack.exchange (.operate (.encode 1 messageCall))
        = (rack, [(.operate (.encode 1 messageCall), .refused (.slotUnbound 1))])
      ∧ rack.exchange (.operate (.assign 7 0 7 none))
        = (rack, [(.operate (.assign 7 0 7 none), .refused (.noSuchSlot 7 3))])
      ∧ (numbersSent 2 (start.exchanges clientCalls)).Nodup
      ∧ numbersSent 2 (start.exchanges clientCalls) = consecutive 0 2
      ∧ ((start.after clientCalls).answer (.operate (.encode 2 messageCall))).sent.map frameNumber?
        = consecutive 2 1 := by
  intro rack start
  obtain ⟨-, hunbound, hmissing, hnumbers⟩ := slots_independent rack
  obtain ⟨-, hframes, hnodup, hall⟩ := hnumbers 2 (by decide) 0 2 none clientCalls (by decide)
  have htaken : start.numbersTaken 2 clientCalls = 2 := by decide +kernel
  have hlimit : start.numbersTaken 2 clientCalls ≤ 65536 := htaken ▸ (by decide)
  have hanswer : (start.after clientCalls).answer (.operate (.encode 2 messageCall))
      = .frames ((start.after clientCalls).answer (.operate (.encode 2 messageCall))).sent := by decide +kernel
  have hlength : ((start.after clientCalls).answer (.operate (.encode 2 messageCall))).sent.length = 1 := by
    decide +kernel
  have haccepted : ∀ exchange ∈ start.exchanges clientCalls,
      exchange.1.slot = 2 → exchange.2.isRefused = false := by decide +kernel
  refine ⟨(hunbound 1 (by decide)).1 messageCall, hmissing 7 (by decide) 0 7 none, hnodup hlimit, ?_, ?_⟩
  · rw [hall ?_, htaken]
    intro packets error hmem
    cases haccepted _ hmem rfl
  · rw [(hframes messageCall _ hanswer).1, htaken, hlength]

end EncoderRack

end CaptureProtocol
