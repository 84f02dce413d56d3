import CaptureProtocol.Proofs.Encoding
import Mathlib

/-!
# Senders

A sender is an encoder with the calls that are made of it.  Its frames are numbered through all calls; a call that
fails uses up numbers without giving frames.

* `Sender.sent`, `Sender.numbersUsed` — what the calls give, and how many frame numbers they use up;
* `Sender.ledger` — the laid-out frames by number; `mem_sent`: every frame that is sent stands in the ledger;
* `Sender.Cuts` — the parts of a packet stand in the ledger in a row;
* `Purpose` — a frame is shared by packets, or it is one of a row of parts; `Sender.entry_cases`: nothing else
  stands in the ledger;
* `Sender.number_injective` — two frames of a sender have two numbers.
-/

namespace CaptureProtocol

/-- A call of an encoder. -/
structure Call where
  limits : FrameLimits
  packets : List Packet
deriving DecidableEq, Inhabited, Repr

/-- An encoder with the calls that are made of it, in order. -/
structure Sender where
  encoder : Encoder
  calls : List Call
deriving DecidableEq, Inhabited, Repr

namespace Encoder

/-- The frames that calls give. -/
def sent : Encoder → List Call → List Bytes
  | _, [] => []
  | encoder, call :: calls =>
    (encoder.encode call.limits call.packets).2.toOption.getD []
      ++ (encoder.encode call.limits call.packets).1.sent calls

/-- How many frame numbers calls use up, those of failing calls included. -/
def numbersUsed : Encoder → List Call → Nat
  | _, [] => 0
  | encoder, call :: calls =>
    encoder.framesStarted call.limits call.packets
      + (encoder.encode call.limits call.packets).1.numbersUsed calls

/-- The frames of a call by number, each with its limits.  The numbers of a failing call have no frames. -/
def entries (encoder : Encoder) (call : Call) : List (Option (FrameLimits × FrameDraft)) :=
  match (encoder.encode call.limits call.packets).2 with
  | .ok _ => (layout call.limits call.packets).map fun draft => some (call.limits, draft)
  | .error _ => List.replicate (encoder.framesStarted call.limits call.packets) none

/-- The frames of all calls by number. -/
def ledger : Encoder → List Call → List (Option (FrameLimits × FrameDraft))
  | _, [] => []
  | encoder, call :: calls =>
    encoder.entries call ++ (encoder.encode call.limits call.packets).1.ledger calls

theorem entries_of_ok {encoder : Encoder} {call : Call} {frames : List Bytes}
    (h : (encoder.encode call.limits call.packets).2 = .ok frames) :
    encoder.entries call = (layout call.limits call.packets).map fun draft => some (call.limits, draft) := by
  simp only [entries, h]

theorem entries_length (encoder : Encoder) (call : Call) :
    (encoder.entries call).length = encoder.framesStarted call.limits call.packets := by
  cases hresult : (encoder.encode call.limits call.packets).2 with
  | error error =>
    simp only [entries, hresult]
    exact List.length_replicate
  | ok frames =>
    obtain ⟨-, -, -, hstarted⟩ := encode_ok hresult
    rw [entries_of_ok hresult, hstarted]
    exact List.length_map _

theorem ledger_length (encoder : Encoder) (calls : List Call) :
    (encoder.ledger calls).length = encoder.numbersUsed calls := by
  induction calls generalizing encoder with
  | nil => rfl
  | cons call calls ih => rw [ledger, numbersUsed, List.length_append, entries_length, ih]

/-- A frame that is sent stands in the ledger under its number. -/
theorem mem_sent {encoder : Encoder} {calls : List Call} {frame : Bytes} (h : frame ∈ encoder.sent calls) :
    ∃ index limits draft, (encoder.ledger calls)[index]? = some (some (limits, draft))
      ∧ frame = encoder.writeFrame limits index draft := by
  induction calls generalizing encoder with
  | nil => exact absurd h List.not_mem_nil
  | cons call calls ih =>
    rw [sent] at h
    rcases List.mem_append.mp h with hnow | hlater
    · cases hresult : (encoder.encode call.limits call.packets).2 with
      | error error =>
        rw [hresult] at hnow
        exact absurd hnow List.not_mem_nil
      | ok frames =>
        obtain ⟨-, -, rfl, -⟩ := encode_ok hresult
        rw [hresult] at hnow
        obtain ⟨index, hindex, rfl⟩ := List.mem_mapIdx.mp hnow
        refine ⟨index, call.limits, (layout call.limits call.packets)[index], ?_, rfl⟩
        have hlaid : (encoder.entries call)[index]?
            = some (some (call.limits, (layout call.limits call.packets)[index])) := by
          rw [entries_of_ok hresult, List.getElem?_map, List.getElem?_eq_getElem hindex]
          rfl
        obtain ⟨hlength, -⟩ := List.getElem?_eq_some_iff.mp hlaid
        rw [ledger, List.getElem?_append_left hlength]
        exact hlaid
    · obtain ⟨index, limits, draft, hentry, rfl⟩ := ih hlater
      refine ⟨(encoder.entries call).length + index, limits, draft, ?_, ?_⟩
      · rw [ledger, List.getElem?_append_right (Nat.le_add_right _ _), Nat.add_sub_cancel_left]
        exact hentry
      · rw [encode_fst, writeFrame_advance, entries_length]

end Encoder

/-! ### What a frame is for -/

/-- A part of a packet that is cut, as a frame. -/
theorem cutDrafts_getElem? (limits : FrameLimits) (packet : Packet) (index : Nat) :
    (cutDrafts limits packet)[index]?
      = ((chunks limits.bodyCapacity packet.payload.toBytes)[index]?).map fun part =>
          .single packet.messageType (.ofPacket packet
            (segmentPosition (chunks limits.bodyCapacity packet.payload.toBytes).length index) part) := by
  rw [cutDrafts, List.getElem?_map, segments_getElem?, Option.map_map]
  rfl

@[simp] theorem cutDrafts_length (limits : FrameLimits) (packet : Packet) :
    (cutDrafts limits packet).length = (chunks limits.bodyCapacity packet.payload.toBytes).length := by
  rw [cutDrafts, List.length_map, segments_length]

/-- What the frame under a number is for: packets share it, or it holds a part of a packet whose parts stand in a
row. -/
inductive Purpose (limits : FrameLimits) (packets : List Packet) (stands : Nat → FrameDraft → Prop) (index : Nat)
    (draft : FrameDraft) : Prop
  | shared {members : List Packet} (hmembers : members ⊆ packets) (hshares : draft.Shares limits members)
  | part {packet : Packet} (hpacket : packet ∈ packets) (hcut : limits.cuts packet = true) {first position : Nat}
      (hindex : index = first + position) (hposition : (cutDrafts limits packet)[position]? = some draft)
      (hrow : ∀ other part, (cutDrafts limits packet)[other]? = some part → stands (first + other) part)

/-- The purpose stays when frames are put in front and when there are more packets. -/
theorem Purpose.shift {limits : FrameLimits} {packets more : List Packet} {stands : Nat → FrameDraft → Prop}
    {index : Nat} {draft : FrameDraft} (h : Purpose limits packets stands index draft) (count : Nat)
    (shifted : Nat → FrameDraft → Prop) (hpackets : packets ⊆ more)
    (hstands : ∀ other part, stands other part → shifted (count + other) part) :
    Purpose limits more shifted (count + index) draft := by
  cases h with
  | shared hmembers hshares => exact .shared (List.Subset.trans hmembers hpackets) hshares
  | @part packet hpacket hcut first position hindex hposition hrow =>
    have hsum : count + index = count + first + position := by rw [hindex, Nat.add_assoc]
    refine .part (hpackets hpacket) hcut hsum hposition ?_
    intro other part hother
    rw [Nat.add_assoc]
    exact hstands _ part (hrow other part hother)

theorem LaidOut.purpose {limits : FrameLimits} {packets : List Packet} {drafts : List FrameDraft}
    (hlaidOut : LaidOut limits packets drafts) {index : Nat} {draft : FrameDraft}
    (hdraft : drafts[index]? = some draft) :
    Purpose limits packets (fun other part => drafts[other]? = some part) index draft := by
  induction hlaidOut generalizing index with
  | nil => cases hdraft
  | @shared head members packets drafts hshares _ ih =>
    cases index with
    | zero =>
      cases hdraft
      exact .shared (List.subset_append_left _ _) hshares
    | succ index =>
      rw [Nat.add_comm]
      refine (ih hdraft).shift 1 _ (List.subset_append_right _ _) fun other part hother => ?_
      rw [Nat.add_comm]
      exact hother
  | @cut packet packets drafts hcut _ ih =>
    by_cases hindex : index < (cutDrafts limits packet).length
    · rw [List.getElem?_append_left hindex] at hdraft
      refine .part List.mem_cons_self hcut (Nat.zero_add _).symm hdraft fun other part hother => ?_
      obtain ⟨hlength, -⟩ := List.getElem?_eq_some_iff.mp hother
      rw [Nat.zero_add, List.getElem?_append_left hlength]
      exact hother
    · rw [List.getElem?_append_right (Nat.le_of_not_lt hindex)] at hdraft
      have hstands : ∀ other part, drafts[other]? = some part →
          (cutDrafts limits packet ++ drafts)[(cutDrafts limits packet).length + other]? = some part := by
        intro other part hother
        rw [List.getElem?_append_right (Nat.le_add_right _ _), Nat.add_sub_cancel_left]
        exact hother
      have hshifted := (ih hdraft).shift _ (fun other part => (cutDrafts limits packet ++ drafts)[other]? = some part)
        (List.subset_cons_self packet packets) hstands
      rwa [Nat.add_sub_cancel' (Nat.le_of_not_lt hindex)] at hshifted

/-- What stands in the ledger is there for the packets of a call that succeeded. -/
theorem Encoder.ledger_purpose {encoder : Encoder} {calls : List Call} {index : Nat} {limits : FrameLimits}
    {draft : FrameDraft} (hentry : (encoder.ledger calls)[index]? = some (some (limits, draft))) :
    ∃ call ∈ calls, limits.Usable ∧ (∀ packet ∈ call.packets, packet.payload.isValid = true)
      ∧ Purpose limits call.packets
          (fun other part => (encoder.ledger calls)[other]? = some (some (limits, part))) index draft := by
  induction calls generalizing encoder index with
  | nil => cases hentry
  | cons call calls ih =>
    rw [ledger] at hentry ⊢
    by_cases hindex : index < (encoder.entries call).length
    · rw [List.getElem?_append_left hindex] at hentry
      cases hresult : (encoder.encode call.limits call.packets).2 with
      | error error =>
        simp only [entries, hresult, List.getElem?_replicate] at hentry
        split at hentry <;> cases hentry
      | ok frames =>
        obtain ⟨husable, haccepts, -, -⟩ := encode_ok hresult
        have hentries := entries_of_ok hresult
        rw [hentries, List.getElem?_map, Option.map_eq_some_iff] at hentry
        obtain ⟨found, hfound, hpair⟩ := hentry
        cases hpair
        refine ⟨call, List.mem_cons_self, husable, fun packet h => isValid_of_accepts (haccepts packet h), ?_⟩
        have hpurpose := (layout_laidOut call.limits call.packets).purpose hfound
        have hshifted := hpurpose.shift 0 (fun other part =>
            (encoder.entries call ++ (encoder.encode call.limits call.packets).1.ledger calls)[other]?
              = some (some (call.limits, part))) (List.Subset.refl _) ?_
        · rwa [Nat.zero_add] at hshifted
        · intro other part hother
          have hlaid : (encoder.entries call)[other]? = some (some (call.limits, part)) := by
            rw [hentries, List.getElem?_map, hother]
            rfl
          obtain ⟨hlength, -⟩ := List.getElem?_eq_some_iff.mp hlaid
          rw [Nat.zero_add, List.getElem?_append_left hlength]
          exact hlaid
    · rw [List.getElem?_append_right (Nat.le_of_not_lt hindex)] at hentry
      obtain ⟨found, hfound, husable, hvalid, hpurpose⟩ := ih hentry
      refine ⟨found, List.mem_cons_of_mem _ hfound, husable, hvalid, ?_⟩
      have hshifted := hpurpose.shift (encoder.entries call).length (fun other part =>
          (encoder.entries call ++ (encoder.encode call.limits call.packets).1.ledger calls)[other]?
            = some (some (limits, part))) (List.Subset.refl _) ?_
      · rwa [Nat.add_sub_cancel' (Nat.le_of_not_lt hindex)] at hshifted
      · intro other part hother
        rw [List.getElem?_append_right (Nat.le_add_right _ _), Nat.add_sub_cancel_left]
        exact hother

namespace Sender

/-- The frames that a sender sends. -/
def sent (sender : Sender) : List Bytes := sender.encoder.sent sender.calls

/-- How many frame numbers a sender uses up. -/
def numbersUsed (sender : Sender) : Nat := sender.encoder.numbersUsed sender.calls

/-- The frames of a sender by number. -/
def ledger (sender : Sender) : List (Option (FrameLimits × FrameDraft)) := sender.encoder.ledger sender.calls

/-- A packet is in one of the sender's calls. -/
def Passed (sender : Sender) (packet : Packet) : Prop := ∃ call ∈ sender.calls, packet ∈ call.packets

/-- The sender cuts a packet and numbers its parts from `first` on. -/
structure Cuts (sender : Sender) (limits : FrameLimits) (packet : Packet) (first : Nat) : Prop where
  passed : sender.Passed packet
  sendable : packet.Sendable
  usable : limits.Usable
  cut : limits.cuts packet = true
  parts : ∀ index part, (cutDrafts limits packet)[index]? = some part →
    sender.ledger[first + index]? = some (some (limits, part))

variable {sender : Sender}

/-- Every frame that is sent stands in the ledger under its number. -/
theorem mem_sent {frame : Bytes} (h : frame ∈ sender.sent) :
    ∃ index limits draft, sender.ledger[index]? = some (some (limits, draft))
      ∧ frame = sender.encoder.writeFrame limits index draft :=
  Encoder.mem_sent h

/-- What stands in the ledger is shared by packets that arrive, or is a part of one. -/
theorem entry_cases
    (hkinds : ∀ packet, sender.Passed packet → packet.payload.isValid = true →
      packet.payloadType.messageType? = some packet.messageType)
    {index : Nat} {limits : FrameLimits} {draft : FrameDraft}
    (hentry : sender.ledger[index]? = some (some (limits, draft))) :
    (∃ members, (∀ packet ∈ members, sender.Passed packet ∧ packet.Sendable) ∧ draft.Shares limits members)
      ∨ ∃ packet first position, sender.Cuts limits packet first ∧ index = first + position
        ∧ (cutDrafts limits packet)[position]? = some draft := by
  obtain ⟨call, hcall, husable, hvalid, hpurpose⟩ := Encoder.ledger_purpose hentry
  have hsendable : ∀ packet ∈ call.packets, sender.Passed packet ∧ packet.Sendable := by
    intro packet hpacket
    have hpassed : sender.Passed packet := ⟨call, hcall, hpacket⟩
    exact ⟨hpassed, hvalid packet hpacket, hkinds packet hpassed (hvalid packet hpacket)⟩
  cases hpurpose with
  | @shared members hmembers hshares =>
    exact .inl ⟨members, fun packet hpacket => hsendable packet (hmembers hpacket), hshares⟩
  | @part packet hpacket hcut first position hindex hposition hrow =>
    obtain ⟨hpassed, harrives⟩ := hsendable packet hpacket
    exact .inr ⟨packet, first, position, ⟨hpassed, harrives, husable, hcut, hrow⟩, hindex, hposition⟩

/-- A number stands for one frame: frame numbers repeat only after 65536 of them. -/
theorem number_injective (hused : sender.numbersUsed ≤ 65536) {left right : Nat}
    {leftEntry rightEntry : Option (FrameLimits × FrameDraft)} (hleft : sender.ledger[left]? = some leftEntry)
    (hright : sender.ledger[right]? = some rightEntry)
    (hsequence : sender.encoder.sequence + UInt16.ofNat left = sender.encoder.sequence + UInt16.ofNat right) :
    left = right := by
  have hlength : sender.ledger.length ≤ 65536 := by
    rw [ledger, Encoder.ledger_length]
    exact hused
  obtain ⟨hleftLength, -⟩ := List.getElem?_eq_some_iff.mp hleft
  obtain ⟨hrightLength, -⟩ := List.getElem?_eq_some_iff.mp hright
  have hnumbers := congrArg UInt16.toNat (add_left_cancel hsequence)
  rw [UInt16.toNat_ofNat', UInt16.toNat_ofNat', Nat.mod_eq_of_lt (by omega), Nat.mod_eq_of_lt (by omega)] at hnumbers
  exact hnumbers

end Sender

end CaptureProtocol
