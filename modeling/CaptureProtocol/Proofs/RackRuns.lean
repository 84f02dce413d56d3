import CaptureProtocol.Proofs.Bookkeeping
import CaptureProtocol.Proofs.Sending
import Mathlib

/-!
# Runs of a rack of encoders

Slots are bound, retyped, emptied, bound again and used in any order.

* `RackOperation`, `EncoderRack.perform`, `performAll` — the operations and what they do;
* `SentFrame`, `EncoderRack.sent` — the frames of a run, each with the place of the operation that gave it;
* `EncoderRack.numbersUsed` — how many frame numbers a run uses up;
* `Transmits` — a call is made of an encoder; `mem_sent` — every frame comes from one;
* `EncoderRack.Exclusive` — no stream is bound to two slots;
* `EncoderRack.encoder?_performAll` — a slot that is bound to a stream was so before, and numbers on, unless the stream
  was bound anew.
-/

namespace CaptureProtocol

/-- An operation of a rack. -/
inductive RackOperation where
  | assign (slot : Nat) (deviceId : UInt16) (streamId : UInt8) (payloadType : Option PayloadType)
  | retype (slot : Nat) (payloadType : Option PayloadType)
  | release (slot : Nat)
  | encode (slot : Nat) (call : Call)
deriving DecidableEq, Inhabited, Repr

/-- A frame of a run. -/
structure SentFrame where
  /-- The place of the operation that gave the frame. -/
  step : Nat
  bytes : Bytes
deriving DecidableEq, Inhabited, Repr

namespace EncoderRack

/-- The rack after an operation, and the frames that it gives.  What is refused leaves the slots as they are. -/
def perform (rack : EncoderRack) : RackOperation → EncoderRack × List Bytes
  | .assign slot deviceId streamId payloadType =>
    ((rack.assign slot deviceId streamId payloadType).toOption.getD rack, [])
  | .retype slot payloadType => ((rack.retype slot payloadType).toOption.getD rack, [])
  | .release slot => (rack.release slot, [])
  | .encode slot call =>
    ((rack.encode slot call.limits call.packets).1,
      (rack.encode slot call.limits call.packets).2.toOption.getD [])

/-- The rack after operations, one after the other. -/
def performAll (rack : EncoderRack) (operations : List RackOperation) : EncoderRack :=
  operations.foldl (fun rack operation => (rack.perform operation).1) rack

/-- The frames of operations, of which the first has the place `start`. -/
def sent : EncoderRack → Nat → List RackOperation → List SentFrame
  | _, _, [] => []
  | rack, start, operation :: operations =>
    (rack.perform operation).2.map (SentFrame.mk start) ++ (rack.perform operation).1.sent (start + 1) operations

/-- How many frame numbers an operation uses up. -/
def numbersStarted (rack : EncoderRack) : RackOperation → Nat
  | .encode slot call =>
    ((rack.encoder? slot).map fun encoder => encoder.framesStarted call.limits call.packets).getD 0
  | .assign .. | .retype .. | .release _ => 0

/-- How many frame numbers operations use up. -/
def numbersUsed : EncoderRack → List RackOperation → Nat
  | _, [] => 0
  | rack, operation :: operations =>
    rack.numbersStarted operation + (rack.perform operation).1.numbersUsed operations

/-- No stream is bound to two slots. -/
def Exclusive (rack : EncoderRack) : Prop :=
  ∀ {slot other : Nat} {encoder another : Encoder}, rack.encoder? slot = some encoder →
    rack.encoder? other = some another → encoder.deviceId = another.deviceId → encoder.streamId = another.streamId →
    slot = other

/-- At no time of a run a stream is bound to two slots. -/
def ExclusiveThroughout : EncoderRack → List RackOperation → Prop
  | rack, [] => rack.Exclusive
  | rack, operation :: operations => rack.Exclusive ∧ (rack.perform operation).1.ExclusiveThroughout operations

variable {rack : EncoderRack} {slot other : Nat} {encoder : Encoder} {operation : RackOperation}
  {operations front back : List RackOperation}

/-! ### Slots -/

theorem lt_size_of_encoder? (h : rack.encoder? slot = some encoder) : slot < rack.size := by
  by_contra hout
  rw [encoder?, List.getElem?_eq_none (Nat.le_of_not_lt hout)] at h
  cases h

theorem put_of_size_le (h : ¬ slot < rack.size) (content : Option Encoder) : rack.put slot content = rack :=
  congrArg mk (List.set_eq_of_length_le (Nat.le_of_not_lt h))

/-- A rack whose bound slots have addresses of their own. -/
theorem exclusive_of_nodup
    (h : (rack.slots.filterMap fun content => content.map fun encoder => (encoder.deviceId, encoder.streamId)).Nodup) :
    rack.Exclusive := by
  rw [List.Nodup, List.pairwise_filterMap, List.pairwise_iff_getElem] at h
  have hslot : ∀ {slot : Nat} {encoder : Encoder}, rack.encoder? slot = some encoder →
      ∃ hsize : slot < rack.slots.length, rack.slots[slot] = some encoder := fun hencoder =>
    List.getElem?_eq_some_iff.mp (Option.join_eq_some_iff.mp hencoder)
  intro slot other encoder another hencoder hanother hdevice hstream
  obtain ⟨hsize, hcontent⟩ := hslot hencoder
  obtain ⟨hotherSize, hotherContent⟩ := hslot hanother
  by_contra hne
  rcases Nat.lt_or_gt_of_ne hne with hbefore | hafter
  · exact h slot other hsize hotherSize hbefore _ (by rw [hcontent]; rfl) _ (by rw [hotherContent]; rfl)
      (Prod.ext hdevice hstream)
  · exact h other slot hotherSize hsize hafter _ (by rw [hotherContent]; rfl) _ (by rw [hcontent]; rfl)
      (Prod.ext hdevice.symm hstream.symm)

/-! ### Frames -/

/-- At a place of a run, a call is made of the encoder in a slot. -/
structure Transmits (rack : EncoderRack) (operations : List RackOperation) (step slot : Nat) (encoder : Encoder)
    (call : Call) : Prop where
  operation : operations[step]? = some (.encode slot call)
  encoder : (rack.performAll (operations.take step)).encoder? slot = some encoder

theorem Transmits.cons {step : Nat} {call : Call}
    (h : (rack.perform operation).1.Transmits operations step slot encoder call) :
    rack.Transmits (operation :: operations) (step + 1) slot encoder call := ⟨h.operation, h.encoder⟩

/-- One call is made at one place. -/
theorem Transmits.unique {step : Nat} {another : Encoder} {call otherCall : Call}
    (h : rack.Transmits operations step slot encoder call)
    (hother : rack.Transmits operations step other another otherCall) :
    other = slot ∧ another = encoder ∧ otherCall = call := by
  have hoperation := hother.operation
  rw [h.operation, Option.some.injEq, RackOperation.encode.injEq] at hoperation
  obtain ⟨rfl, rfl⟩ := hoperation
  have hencoder := hother.encoder
  rw [h.encoder, Option.some.injEq] at hencoder
  exact ⟨rfl, hencoder.symm, rfl⟩

/-- Every frame comes from a call. -/
theorem mem_sent {start : Nat} {frame : SentFrame} (h : frame ∈ rack.sent start operations) :
    ∃ step slot encoder call, frame.step = start + step ∧ rack.Transmits operations step slot encoder call
      ∧ frame.bytes ∈ Sender.sent ⟨encoder, [call]⟩ := by
  induction operations generalizing rack start with
  | nil => exact (List.not_mem_nil h).elim
  | cons operation operations ih =>
    rw [sent] at h
    rcases List.mem_append.mp h with hnow | hlater
    · obtain ⟨bytes, hbytes, rfl⟩ := List.mem_map.mp hnow
      cases operation with
      | assign | retype | release => exact (List.not_mem_nil hbytes).elim
      | encode slot call =>
        cases hbound : rack.bound slot with
        | error error =>
          rw [perform, encode, hbound] at hbytes
          exact (List.not_mem_nil hbytes).elim
        | ok encoder =>
          rw [perform, encode, hbound] at hbytes
          refine ⟨0, slot, encoder, call, rfl, ⟨rfl, bound_eq_ok.mp hbound⟩, ?_⟩
          show bytes ∈ (encoder.encode call.limits call.packets).2.toOption.getD [] ++ []
          rw [List.append_nil]
          exact hbytes
    · obtain ⟨step, slot, encoder, call, hstep, htransmits, hframe⟩ := ih hlater
      exact ⟨step + 1, slot, encoder, call, by omega, htransmits.cons, hframe⟩

theorem le_step_of_mem_sent {start : Nat} {frame : SentFrame} (h : frame ∈ rack.sent start operations) :
    start ≤ frame.step := by
  obtain ⟨step, _, _, _, hstep, -⟩ := mem_sent h
  omega

/-- The frames of a run come in the order of its operations. -/
theorem pairwise_sent (rack : EncoderRack) (start : Nat) (operations : List RackOperation) :
    (rack.sent start operations).Pairwise (·.step ≤ ·.step) := by
  induction operations generalizing rack start with
  | nil => exact .nil
  | cons operation operations ih =>
    rw [sent, List.pairwise_append]
    refine ⟨?_, ih _ _, fun frame hframe later hlater => ?_⟩
    · rw [List.pairwise_map]
      exact List.pairwise_of_forall fun _ _ => le_rfl
    · obtain ⟨bytes, -, rfl⟩ := List.mem_map.mp hframe
      exact (Nat.le_succ start).trans (le_step_of_mem_sent hlater)

/-! ### Numbers -/

theorem performAll_append (rack : EncoderRack) (front back : List RackOperation) :
    rack.performAll (front ++ back) = (rack.performAll front).performAll back := List.foldl_append ..

theorem numbersUsed_append (rack : EncoderRack) (front back : List RackOperation) :
    rack.numbersUsed (front ++ back) = rack.numbersUsed front + (rack.performAll front).numbersUsed back := by
  induction front generalizing rack with
  | nil => exact (Nat.zero_add _).symm
  | cons operation front ih =>
    rw [List.cons_append, numbersUsed, ih, numbersUsed, Nat.add_assoc]
    rfl

theorem numbersStarted_encode {call : Call} (h : rack.encoder? slot = some encoder) :
    rack.numbersStarted (.encode slot call) = encoder.framesStarted call.limits call.packets := by
  rw [numbersStarted, h]
  rfl

theorem perform_encode {call : Call} (h : rack.encoder? slot = some encoder) :
    (rack.perform (.encode slot call)).1
      = rack.put slot (some (encoder.advance (encoder.framesStarted call.limits call.packets))) := by
  rw [perform, encode, bound_eq_ok.mpr h, ← Encoder.encode_fst]

theorem size_perform (rack : EncoderRack) (operation : RackOperation) :
    (rack.perform operation).1.size = rack.size := by
  cases operation with
  | assign slot deviceId streamId payloadType =>
    rw [perform, assign]
    split
    · exact size_put _
    · rfl
  | retype slot payloadType =>
    rw [perform, retype]
    cases rack.bound slot with
    | error error => rfl
    | ok encoder => exact size_put _
  | release slot => exact size_put _
  | encode slot call => exact encode_size ..

theorem size_performAll (rack : EncoderRack) (operations : List RackOperation) :
    (rack.performAll operations).size = rack.size := by
  induction operations generalizing rack with
  | nil => rfl
  | cons operation operations ih => exact (ih _).trans (size_perform rack operation)

/-! ### Slots over time -/

/-- An operation that binds a slot to a stream. -/
def Binds (rack : EncoderRack) (deviceId : UInt16) (streamId : UInt8) (operation : RackOperation) : Prop :=
  ∃ slot payloadType, slot < rack.size ∧ operation = .assign slot deviceId streamId payloadType

/-- A slot was bound to the same stream before and has numbered on since. -/
def NumbersOn (rack : EncoderRack) (slot limit : Nat) (late : Encoder) : Prop :=
  ∃ early count, rack.encoder? slot = some early ∧ late.deviceId = early.deviceId ∧ late.streamId = early.streamId
    ∧ count ≤ limit ∧ late.sequence = early.sequence + UInt16.ofNat count

theorem NumbersOn.of_kept {late : Encoder} (h : rack.encoder? slot = some late) (limit : Nat) :
    rack.NumbersOn slot limit late := ⟨late, 0, h, rfl, rfl, Nat.zero_le _, by simp⟩

/-- One operation, which does not bind a slot to the stream. -/
theorem encoder?_perform {late : Encoder} (h : (rack.perform operation).1.encoder? slot = some late)
    (hbinds : ¬ rack.Binds late.deviceId late.streamId operation) :
    rack.NumbersOn slot (rack.numbersStarted operation) late := by
  cases operation with
  | assign changed deviceId streamId payloadType =>
    rw [perform, assign] at h
    by_cases hchanged : changed < rack.size
    · rw [if_pos hchanged] at h
      change (rack.put changed _).encoder? slot = _ at h
      rw [encoder?_put hchanged] at h
      split at h
      · cases h
        exact (hbinds ⟨changed, payloadType, hchanged, rfl⟩).elim
      · exact .of_kept h _
    · rw [if_neg hchanged] at h
      exact .of_kept h _
  | retype changed payloadType =>
    rw [perform, retype] at h
    cases hbound : rack.bound changed with
    | error error =>
      rw [hbound] at h
      exact .of_kept h _
    | ok encoder =>
      rw [hbound] at h
      change (rack.put changed (some { encoder with payloadType })).encoder? slot = _ at h
      have hencoder := bound_eq_ok.mp hbound
      rw [encoder?_put (lt_size_of_encoder? hencoder)] at h
      split at h
      · rename_i hsame
        cases h
        exact ⟨encoder, 0, hsame ▸ hencoder, rfl, rfl, Nat.zero_le _, by simp⟩
      · exact .of_kept h _
  | release changed =>
    change (rack.put changed none).encoder? slot = _ at h
    by_cases hchanged : changed < rack.size
    · rw [encoder?_put hchanged] at h
      split at h
      · cases h
      · exact .of_kept h _
    · rw [put_of_size_le hchanged] at h
      exact .of_kept h _
  | encode changed call =>
    cases hencoder : rack.encoder? changed with
    | none =>
      rw [perform, encode] at h
      cases hbound : rack.bound changed with
      | error error =>
        rw [hbound] at h
        exact .of_kept h _
      | ok encoder =>
        rw [bound_eq_ok.mp hbound] at hencoder
        cases hencoder
    | some encoder =>
      rw [perform_encode hencoder, encoder?_put (lt_size_of_encoder? hencoder)] at h
      rw [numbersStarted_encode hencoder]
      split at h
      · rename_i hsame
        cases h
        exact ⟨encoder, _, hsame ▸ hencoder, rfl, rfl, le_rfl, rfl⟩
      · exact .of_kept h _

/-- Operations that do not bind a slot to the stream. -/
theorem encoder?_performAll {late : Encoder} (h : (rack.performAll operations).encoder? slot = some late)
    (hbinds : ∀ operation ∈ operations, ¬ rack.Binds late.deviceId late.streamId operation) :
    rack.NumbersOn slot (rack.numbersUsed operations) late := by
  induction operations generalizing rack with
  | nil => exact .of_kept h _
  | cons operation operations ih =>
    obtain ⟨hfirst, hrest⟩ := List.forall_mem_cons.mp hbinds
    obtain ⟨between, count, hbetween, hdevice, hstream, hcount, hsequence⟩ := ih h fun later hlater => by
      rw [Binds, size_perform]
      exact hrest later hlater
    rw [hdevice, hstream] at hfirst
    obtain ⟨early, before, hearly, hearlyDevice, hearlyStream, hbefore, hearlySequence⟩ :=
      encoder?_perform hbetween hfirst
    refine ⟨early, before + count, hearly, hdevice.trans hearlyDevice, hstream.trans hearlyStream, ?_, ?_⟩
    · exact Nat.add_le_add hbefore hcount
    · rw [hsequence, hearlySequence, UInt16.ofNat_add, add_assoc]

theorem ExclusiveThroughout.performAll_take (h : rack.ExclusiveThroughout operations) (step : Nat) :
    (rack.performAll (operations.take step)).Exclusive := by
  induction operations generalizing rack step with
  | nil =>
    rw [List.take_nil]
    exact h
  | cons operation operations ih =>
    cases step with
    | zero => exact h.1
    | succ step => exact ih h.2 step

end EncoderRack

end CaptureProtocol
