import CaptureProtocol.Proofs.FrameReading
import Mathlib

/-!
# The shape of a layout

Laying out a list of packets gives frames of two sorts, in the order of the packets: a frame that some packets in a
row share, and a row of frames with the parts of one packet that is too long for a frame.  What is written and
what is read are both followed along this shape.

* `Message.ofWhole` — the message of a packet that fits a frame;
* `FrameDraft.Shares` — a frame and the packets that share it;
* `LaidOut` — the shape; `LaidOut.append` puts two of them in a row;
* `layout_laidOut` — a layout has the shape of its packets;
* `two_le_length_chunks` — a packet that is cut has at least two parts.
-/

namespace CaptureProtocol

/-- The message of a packet that fits a frame. -/
def Message.ofWhole (packet : Packet) : Message := .ofPacket packet .unsegmented packet.payload.toBytes

/-- Whether a packet is too long for a frame. -/
def FrameLimits.cuts (limits : FrameLimits) (packet : Packet) : Bool :=
  limits.bodyCapacity < packet.payload.toBytes.length

/-- The frames with the parts of a packet. -/
def cutDrafts (limits : FrameLimits) (packet : Packet) : List FrameDraft :=
  (segments limits.bodyCapacity packet packet.payload.toBytes).map (FrameDraft.single packet.messageType)

/-- A frame that holds the messages of some packets in a row. -/
structure FrameDraft.Shares (limits : FrameLimits) (draft : FrameDraft) (members : List Packet) : Prop where
  /-- The frame holds a message. -/
  nonempty : members ≠ []
  /-- All messages are of the kind of the frame. -/
  kind : ∀ packet ∈ members, packet.messageType = draft.messageType
  /-- Every packet fits a frame. -/
  fits : ∀ packet ∈ members, limits.cuts packet = false
  /-- The messages are those of the packets, in order. -/
  messages : draft.messages = members.map Message.ofWhole

/-- The frames of a list of packets, in order. -/
inductive LaidOut (limits : FrameLimits) : List Packet → List FrameDraft → Prop
  /-- No packets need no frames. -/
  | nil : LaidOut limits [] []
  | shared {draft : FrameDraft} {members packets : List Packet} {drafts : List FrameDraft}
      (hshares : draft.Shares limits members) (hrest : LaidOut limits packets drafts) :
      LaidOut limits (members ++ packets) (draft :: drafts)
  | cut {packet : Packet} {packets : List Packet} {drafts : List FrameDraft}
      (hcut : limits.cuts packet = true) (hrest : LaidOut limits packets drafts) :
      LaidOut limits (packet :: packets) (cutDrafts limits packet ++ drafts)

namespace LaidOut

variable {limits : FrameLimits}

/-- Two layouts in a row. -/
theorem append {front back : List Packet} {frontDrafts backDrafts : List FrameDraft}
    (hfront : LaidOut limits front frontDrafts) (hback : LaidOut limits back backDrafts) :
    LaidOut limits (front ++ back) (frontDrafts ++ backDrafts) := by
  induction hfront with
  | nil => exact hback
  | shared hshares _ ih =>
    rw [List.append_assoc, List.cons_append]
    exact .shared hshares ih
  | cut hcut _ ih =>
    rw [List.cons_append, List.append_assoc]
    exact .cut hcut ih

theorem ofShares {draft : FrameDraft} {members : List Packet} (h : draft.Shares limits members) :
    LaidOut limits members [draft] := by
  have := LaidOut.shared h .nil
  rwa [List.append_nil] at this

theorem ofCut {packet : Packet} (h : limits.cuts packet = true) :
    LaidOut limits [packet] (cutDrafts limits packet) := by
  have := LaidOut.cut h .nil
  rwa [List.append_nil] at this

end LaidOut

/-! ### Every layout has this shape -/

namespace Layout

/-- The finished frames hold the first packets, the current frame the others. -/
structure Holds (limits : FrameLimits) (layout : Layout) (front members : List Packet) : Prop where
  closed : LaidOut limits front layout.closed.reverse
  current : match layout.current with
    | none => members = []
    | some draft => draft.Shares limits members

variable {limits : FrameLimits} {layout : Layout} {front members : List Packet} {packet : Packet}

/-- All frames hold all packets. -/
theorem Holds.close (h : layout.Holds limits front members) :
    LaidOut limits (front ++ members) layout.close.closed.reverse := by
  have hcurrent := h.current
  simp only [Layout.close, List.reverse_append]
  cases hlayout : layout.current with
  | none =>
    rw [hlayout] at hcurrent
    subst hcurrent
    rw [List.append_nil]
    simpa using h.closed
  | some draft =>
    rw [hlayout] at hcurrent
    exact h.closed.append (.ofShares hcurrent)

theorem shares_single (hfits : limits.cuts packet = false) :
    (FrameDraft.single packet.messageType (.ofWhole packet)).Shares limits [packet] where
  nonempty := List.cons_ne_nil _ _
  kind := by simp [FrameDraft.single]
  fits := by simpa using hfits
  messages := rfl

theorem shares_add {draft : FrameDraft} (h : draft.Shares limits members) (hfits : limits.cuts packet = false)
    (hkind : draft.messageType = packet.messageType) :
    (draft.add (.ofWhole packet)).Shares limits (members ++ [packet]) where
  nonempty := List.append_ne_nil_of_right_ne_nil _ (List.cons_ne_nil _ _)
  kind := by
    intro other hother
    rcases List.mem_append.mp hother with hother | hother
    · exact h.kind other hother
    · rw [List.mem_singleton.mp hother]
      exact hkind.symm
  fits := by
    intro other hother
    rcases List.mem_append.mp hother with hother | hother
    · exact h.fits other hother
    · rw [List.mem_singleton.mp hother]
      exact hfits
  messages := by
    have hmessages := h.messages
    simp only [FrameDraft.messages, FrameDraft.add, List.reverse_cons] at hmessages ⊢
    rw [hmessages, List.map_append, List.map_singleton]

/-- One more packet joins the current frame, opens a new one or is cut. -/
theorem Holds.place (h : layout.Holds limits front members) :
    ∃ front' members', front' ++ members' = front ++ members ++ [packet]
      ∧ (layout.place limits packet).Holds limits front' members' := by
  by_cases hlength : packet.payload.toBytes.length ≤ limits.bodyCapacity
  · have hfits : limits.cuts packet = false := by simpa [FrameLimits.cuts] using hlength
    simp only [Layout.place, if_pos hlength]
    cases hlayout : layout.current with
    | none =>
      have hcurrent := h.current
      rw [hlayout] at hcurrent
      subst hcurrent
      exact ⟨front, [packet], by simp, h.closed, shares_single hfits⟩
    | some draft =>
      have hcurrent := h.current
      rw [hlayout] at hcurrent
      by_cases hadmits : draft.admits limits packet.messageType (.ofWhole packet) = true
      · refine ⟨front, members ++ [packet], by simp, ?_⟩
        have hkind : draft.messageType = packet.messageType := by
          rw [FrameDraft.admits, Bool.and_eq_true] at hadmits
          exact beq_iff_eq.mp hadmits.1
        have hplaced : draft.admits limits packet.messageType
            (.ofPacket packet .unsegmented packet.payload.toBytes) = true := hadmits
        simp only [if_pos hplaced]
        exact ⟨h.closed, shares_add hcurrent hfits hkind⟩
      · refine ⟨front ++ members, [packet], rfl, ?_⟩
        have hplaced : ¬ draft.admits limits packet.messageType
            (.ofPacket packet .unsegmented packet.payload.toBytes) = true := hadmits
        simp only [if_neg hplaced]
        exact ⟨h.close, shares_single hfits⟩
  · have hcut : limits.cuts packet = true := by simpa [FrameLimits.cuts] using hlength
    simp only [Layout.place, if_neg hlength]
    refine ⟨front ++ members ++ [packet], [], List.append_nil _, ?_, rfl⟩
    rw [List.reverse_append, List.reverse_reverse]
    exact h.close.append (.ofCut hcut)

theorem exists_holds (limits : FrameLimits) (packets : List Packet) :
    ∃ front members, front ++ members = packets
      ∧ (packets.foldl (Layout.place limits) {}).Holds limits front members := by
  induction packets using List.reverseRecOn with
  | nil => exact ⟨[], [], rfl, .nil, rfl⟩
  | append_singleton packets packet ih =>
    obtain ⟨front, members, rfl, hholds⟩ := ih
    rw [List.foldl_append, List.foldl_cons, List.foldl_nil]
    exact hholds.place

end Layout

/-- A layout has the shape of its packets. -/
theorem layout_laidOut (limits : FrameLimits) (packets : List Packet) :
    LaidOut limits packets (layout limits packets) := by
  obtain ⟨front, members, rfl, hholds⟩ := Layout.exists_holds limits packets
  exact hholds.close

/-! ### The parts of a packet -/

theorem chunks_ne_nil {α : Type} {size : Nat} {list : List α} (h : list ≠ []) : chunks size list ≠ [] := by
  cases list with
  | nil => exact absurd rfl h
  | cons head tail =>
    rw [chunks_cons]
    exact List.cons_ne_nil _ _

/-- A list that is longer than the size has at least two chunks. -/
theorem two_le_length_chunks {α : Type} {size : Nat} {list : List α} (hsize : 0 < size) (h : size < list.length) :
    2 ≤ (chunks size list).length := by
  cases list with
  | nil => simp at h
  | cons head tail =>
    rw [chunks_cons, List.length_cons]
    have hrest : tail.drop (size - 1) ≠ [] := by
      intro hnil
      have := List.drop_eq_nil_iff.mp hnil
      rw [List.length_cons] at h
      omega
    have hpositive : 0 < (chunks size (tail.drop (size - 1))).length :=
      List.length_pos_iff.mpr (chunks_ne_nil hrest)
    omega

/-- Chunk `index` of a body at its position. -/
theorem segments_getElem? (capacity : Nat) (packet : Packet) (body : Bytes) (index : Nat) :
    (segments capacity packet body)[index]?
      = ((chunks capacity body)[index]?).map
          (Message.ofPacket packet (segmentPosition (chunks capacity body).length index)) := by
  simp only [segments, List.getElem?_mapIdx]

@[simp] theorem segments_length (capacity : Nat) (packet : Packet) (body : Bytes) :
    (segments capacity packet body).length = (chunks capacity body).length := by
  simp only [segments, List.length_mapIdx]

end CaptureProtocol
