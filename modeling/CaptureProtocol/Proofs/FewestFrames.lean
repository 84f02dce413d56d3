import CaptureProtocol.Proofs.FrameDiscipline
import Mathlib

/-!
# As few frames as possible

Packets are put into frames in their order, each into the frame before it whenever it may join.  No other way of
sharing frames in this order needs fewer of them.

* `Grouping` — a way of cutting packets in a row into groups that can each share a frame; `fewestGroups` — the least
  number of groups;
* `Grouping.unsnoc` — a way without its last packet;
* `Layout.Tight` — no other way has fewer groups, nor as many with more room in the last; `Tight.place` keeps this;
* `isLeast_groupCounts` — packets that fit are laid out in as few frames as there can be;
* `layout_append_cut` — a packet that is cut stands apart from those before and after it;
* `Encoder.encode_fewest` — the number of frames of a call.
-/

namespace CaptureProtocol

/-! ### Ways of sharing frames -/

/-- The length of a frame that packets share, before padding. -/
def sharedSize (group : List Packet) : Nat :=
  FrameHeader.size + (group.map fun packet => MessageHeader.size + packet.payload.toBytes.length).sum

/-- Packets that can share a frame: they are of one kind, and the frame has room for them. -/
structure CanShare (limits : FrameLimits) (group : List Packet) : Prop where
  kind : ∃ kind, ∀ packet ∈ group, packet.messageType = kind
  fits : sharedSize group ≤ limits.max

/-- A way of cutting packets in a row into groups that can each share a frame. -/
structure Grouping (limits : FrameLimits) (run : List Packet) (groups : List (List Packet)) : Prop where
  flatten : groups.flatten = run
  nonempty : [] ∉ groups
  canShare : ∀ group ∈ groups, CanShare limits group

/-- The numbers of groups that packets in a row can be cut into. -/
def groupCounts (limits : FrameLimits) (run : List Packet) : Set Nat :=
  { count | ∃ groups, Grouping limits run groups ∧ groups.length = count }

/-- The least number of groups that packets in a row can be cut into. -/
noncomputable def fewestGroups (limits : FrameLimits) (run : List Packet) : Nat := sInf (groupCounts limits run)

theorem sharedSize_concat (group : List Packet) (packet : Packet) :
    sharedSize (group ++ [packet]) = sharedSize group + (Message.ofWhole packet).size := by
  rw [sharedSize, List.map_append, List.sum_append, List.map_singleton, List.sum_singleton, ← Nat.add_assoc]
  rfl

theorem CanShare.of_concat {limits : FrameLimits} {group : List Packet} {packet : Packet}
    (h : CanShare limits (group ++ [packet])) : CanShare limits group where
  kind := by
    obtain ⟨kind, hkind⟩ := h.kind
    exact ⟨kind, fun other hother => hkind other (List.mem_append_left _ hother)⟩
  fits := by
    have hfits := h.fits
    rw [sharedSize_concat] at hfits
    omega

namespace Grouping

variable {limits : FrameLimits} {run : List Packet} {groups : List (List Packet)} {last : List Packet}
  {packet : Packet}

theorem of_concat (h : Grouping limits run (groups ++ [last])) (front : List Packet)
    (hfront : groups.flatten = front) : Grouping limits front groups where
  flatten := hfront
  nonempty hmem := h.nonempty (List.mem_append_left _ hmem)
  canShare group hgroup := h.canShare group (List.mem_append_left _ hgroup)

/-- Without its last packet the last group is gone, or a shorter group is left. -/
theorem unsnoc (h : Grouping limits (run ++ [packet]) (groups ++ [last])) :
    ∃ front, last = front ++ [packet]
      ∧ (front = [] ∧ Grouping limits run groups ∨ front ≠ [] ∧ Grouping limits run (groups ++ [front])) := by
  have hlast : last ∈ groups ++ [last] := List.mem_append_right _ (List.mem_singleton.mpr rfl)
  rcases List.eq_nil_or_concat last with rfl | ⟨front, final, rfl⟩
  · exact absurd hlast h.nonempty
  · have hflatten := h.flatten
    rw [List.concat_eq_append, List.flatten_append, List.flatten_singleton, ← List.append_assoc] at hflatten
    obtain ⟨hrun, hfinal⟩ := List.append_inj' hflatten rfl
    rw [List.singleton_inj] at hfinal
    subst hfinal
    refine ⟨front, List.concat_eq_append, ?_⟩
    rw [List.concat_eq_append] at h hlast
    by_cases hfront : front = []
    · subst hfront
      rw [List.append_nil] at hrun
      exact .inl ⟨rfl, h.of_concat run hrun⟩
    · refine .inr ⟨hfront, ?_, ?_, ?_⟩
      · rw [List.flatten_append, List.flatten_singleton, hrun]
      · intro hmem
        rcases List.mem_append.mp hmem with hbefore | hlater
        · exact h.nonempty (List.mem_append_left _ hbefore)
        · exact hfront (List.mem_singleton.mp hlater).symm
      · intro group hgroup
        rcases List.mem_append.mp hgroup with hbefore | hlater
        · exact h.canShare group (List.mem_append_left _ hbefore)
        · rw [List.mem_singleton.mp hlater]
          exact (h.canShare _ hlast).of_concat

end Grouping

/-! ### The layout of packets that fit -/

namespace Layout

/-- Against every other way of sharing frames, a layout has fewer groups before the current one, or as many and at
least as much room in the current one. -/
structure Tight (limits : FrameLimits) (layout : Layout) (run : List Packet) : Prop where
  empty : layout.current = none → layout.closed = [] ∧ run = []
  kind : ∀ draft, layout.current = some draft → ∃ packet, run.getLast? = some packet
    ∧ packet.messageType = draft.messageType
  fewest : ∀ draft, layout.current = some draft → ∀ groups last, Grouping limits run (groups ++ [last]) →
    layout.closed.length < groups.length ∨ layout.closed.length = groups.length ∧ draft.size ≤ sharedSize last

variable {limits : FrameLimits} {layout : Layout} {run : List Packet} {packet : Packet} {draft : FrameDraft}

theorem Tight.closed_lt (h : layout.Tight limits run) (hcurrent : layout.current = some draft)
    {groups : List (List Packet)} (hgroups : Grouping limits run groups) : layout.closed.length < groups.length := by
  rcases List.eq_nil_or_concat groups with rfl | ⟨before, last, rfl⟩
  · obtain ⟨packet, hpacket, -⟩ := h.kind draft hcurrent
    rw [← hgroups.flatten] at hpacket
    cases hpacket
  · rw [List.concat_eq_append] at hgroups ⊢
    rw [List.length_append, List.length_singleton]
    rcases h.fewest draft hcurrent before last hgroups with hfewer | ⟨hequal, -⟩ <;> omega

theorem size_single (packet : Packet) :
    (FrameDraft.single packet.messageType (.ofWhole packet)).size = FrameHeader.size + (Message.ofWhole packet).size :=
  rfl

theorem Tight.opened (h : layout.Tight limits run) (hcurrent : layout.current = none) :
    (Layout.mk layout.closed (some (.single packet.messageType (.ofWhole packet)))).Tight limits (run ++ [packet]) := by
  obtain ⟨hclosed, rfl⟩ := h.empty hcurrent
  refine ⟨fun hnone => (Option.some_ne_none _ hnone).elim, ?_, ?_⟩
  · rintro draft ⟨⟩
    exact ⟨packet, rfl, rfl⟩
  · rintro draft ⟨⟩ groups last hgroups
    obtain ⟨front, rfl, -⟩ := hgroups.unsnoc
    rw [sharedSize_concat, size_single, hclosed, List.length_nil, sharedSize]
    omega

theorem Tight.joined (h : layout.Tight limits run) (hcurrent : layout.current = some draft)
    (hkind : draft.messageType = packet.messageType) :
    (Layout.mk layout.closed (some (draft.add (.ofWhole packet)))).Tight limits (run ++ [packet]) := by
  refine ⟨fun hnone => (Option.some_ne_none _ hnone).elim, ?_, ?_⟩
  · rintro _ ⟨⟩
    exact ⟨packet, List.getLast?_concat, hkind.symm⟩
  · rintro _ ⟨⟩ groups last hgroups
    obtain ⟨front, rfl, ⟨rfl, hbefore⟩ | ⟨-, hshorter⟩⟩ := hgroups.unsnoc
    · exact .inl (h.closed_lt hcurrent hbefore)
    · rw [sharedSize_concat]
      rcases h.fewest draft hcurrent groups front hshorter with hfewer | ⟨hequal, hsize⟩
      · exact .inl hfewer
      · exact .inr ⟨hequal, Nat.add_le_add_right hsize _⟩

/-- A new frame is opened only where no other way could do without. -/
theorem Tight.closed (h : layout.Tight limits run) (hcurrent : layout.current = some draft)
    (hrefused : ¬ draft.admits limits packet.messageType (.ofWhole packet) = true) :
    (Layout.mk (draft :: layout.closed) (some (.single packet.messageType (.ofWhole packet)))).Tight limits
      (run ++ [packet]) := by
  refine ⟨fun hnone => (Option.some_ne_none _ hnone).elim, ?_, ?_⟩
  · rintro _ ⟨⟩
    exact ⟨packet, List.getLast?_concat, rfl⟩
  · rintro _ ⟨⟩ groups last hgroups
    have hshare : CanShare limits last :=
      hgroups.canShare last (List.mem_append_right _ (List.mem_singleton.mpr rfl))
    obtain ⟨front, rfl, hunsnoc⟩ := hgroups.unsnoc
    have hsize : FrameHeader.size + (Message.ofWhole packet).size ≤ sharedSize (front ++ [packet]) := by
      rw [sharedSize_concat, sharedSize]
      omega
    have hclosed : layout.closed.length < groups.length := by
      rcases hunsnoc with ⟨-, hbefore⟩ | ⟨hfront, hshorter⟩
      · exact h.closed_lt hcurrent hbefore
      · rcases h.fewest draft hcurrent groups front hshorter with hfewer | ⟨-, hroom⟩
        · exact hfewer
        · -- the other way put the packet into a frame that is at least as long and of the same kind
          obtain ⟨kind, hkind⟩ := hshare.kind
          obtain ⟨latest, hlatest, hsame⟩ := h.kind draft hcurrent
          have hmem : latest ∈ front := by
            rw [← hshorter.flatten, List.flatten_append, List.flatten_singleton,
              List.getLast?_append_of_ne_nil _ hfront] at hlatest
            exact List.mem_of_getLast? hlatest
          have hfits := hshare.fits
          rw [sharedSize_concat] at hfits
          refine absurd ?_ hrefused
          rw [FrameDraft.admits, Bool.and_eq_true, decide_eq_true_eq, beq_iff_eq, ← hsame,
            hkind latest (List.mem_append_left _ hmem),
            hkind packet (List.mem_append_right _ (List.mem_singleton.mpr rfl))]
          exact ⟨rfl, by omega⟩
    rw [List.length_cons]
    rcases Nat.lt_or_eq_of_le (Nat.succ_le_of_lt hclosed) with hfewer | hequal
    · exact .inl hfewer
    · exact .inr ⟨hequal, hsize⟩

theorem Tight.place (h : layout.Tight limits run) (hfits : limits.cuts packet = false) :
    (layout.place limits packet).Tight limits (run ++ [packet]) := by
  simp only [Layout.place, if_pos (limits.fits_of_cuts hfits)]
  cases hcurrent : layout.current with
  | none => exact h.opened hcurrent
  | some draft =>
    by_cases hadmits : draft.admits limits packet.messageType (.ofPacket packet .unsegmented packet.payload.toBytes)
        = true
    · simp only [if_pos hadmits]
      rw [FrameDraft.admits, Bool.and_eq_true, beq_iff_eq] at hadmits
      exact h.joined hcurrent hadmits.1
    · simp only [if_neg hadmits, Layout.close, hcurrent]
      exact h.closed hcurrent hadmits

theorem tight_foldl (hfits : ∀ packet ∈ run, limits.cuts packet = false) :
    (run.foldl (Layout.place limits) {}).Tight limits run := by
  induction run using List.reverseRecOn with
  | nil => exact ⟨fun _ => ⟨rfl, rfl⟩, nofun, nofun⟩
  | append_singleton run packet ih =>
    rw [List.foldl_append, List.foldl_cons, List.foldl_nil]
    exact (ih fun other hother => hfits other (List.mem_append_left _ hother)).place
      (hfits packet (List.mem_append_right _ (List.mem_singleton.mpr rfl)))

end Layout

section Runs

variable {limits : FrameLimits} {run : List Packet}

/-- No way of sharing frames needs fewer than a layout. -/
theorem length_layout_le (hfits : ∀ packet ∈ run, limits.cuts packet = false) {groups : List (List Packet)}
    (hgroups : Grouping limits run groups) : (layout limits run).length ≤ groups.length := by
  have htight := Layout.tight_foldl hfits
  rw [layout, Layout.frames, List.length_reverse, Layout.close, List.length_append]
  cases hcurrent : (run.foldl (Layout.place limits) {}).current with
  | none =>
    rw [(htight.empty hcurrent).1]
    exact Nat.zero_le _
  | some draft =>
    have hclosed := htight.closed_lt hcurrent hgroups
    rw [Option.toList_some, List.length_singleton]
    omega

/-- The packets that share the frames of a layout are such groups. -/
theorem LaidOut.exists_grouping {drafts : List FrameDraft} (h : LaidOut limits run drafts)
    (hfits : ∀ packet ∈ run, limits.cuts packet = false) (hmeasured : ∀ draft ∈ drafts, draft.Measured limits) :
    ∃ groups, Grouping limits run groups ∧ groups.length = drafts.length := by
  induction h with
  | nil => exact ⟨[], ⟨rfl, List.not_mem_nil, List.forall_mem_nil _⟩, rfl⟩
  | @shared draft members packets drafts hshares _ ih =>
    obtain ⟨hdraft, hlater⟩ := List.forall_mem_cons.mp hmeasured
    obtain ⟨groups, hgroups, hlength⟩ := ih (fun packet h => hfits packet (List.mem_append_right _ h)) hlater
    refine ⟨members :: groups, ⟨?_, ?_, ?_⟩, ?_⟩
    · rw [List.flatten_cons, hgroups.flatten]
    · intro hmem
      rcases List.mem_cons.mp hmem with hnil | hmem
      · exact hshares.nonempty hnil.symm
      · exact hgroups.nonempty hmem
    · refine List.forall_mem_cons.mpr ⟨⟨⟨_, hshares.kind⟩, ?_⟩, hgroups.canShare⟩
      have hsize := hdraft.counted
      rw [FrameDraft.Counted, hshares.messages, List.map_map] at hsize
      have hroom := hdraft.le_max
      rw [hsize] at hroom
      exact hroom
    · rw [List.length_cons, List.length_cons, hlength]
  | @cut packet _ _ hcut => exact absurd hcut (by rw [hfits packet List.mem_cons_self]; decide)

/-- Packets that fit are laid out in as few frames as there can be. -/
theorem isLeast_groupCounts (husable : limits.Usable) (hfits : ∀ packet ∈ run, limits.cuts packet = false) :
    IsLeast (groupCounts limits run) (layout limits run).length := by
  refine ⟨(layout_laidOut limits run).exists_grouping hfits (measured_of_mem_layout husable run), ?_⟩
  rintro count ⟨groups, hgroups, rfl⟩
  exact length_layout_le hfits hgroups

theorem fewestGroups_eq (husable : limits.Usable) (hfits : ∀ packet ∈ run, limits.cuts packet = false) :
    fewestGroups limits run = (layout limits run).length :=
  (isLeast_groupCounts husable hfits).csInf_eq

end Runs

/-! ### Packets that are cut -/

namespace Layout

/-- A layout with more finished frames before it. -/
def after (layout : Layout) (before : List FrameDraft) : Layout := { layout with closed := layout.closed ++ before }

theorem close_after (layout : Layout) (before : List FrameDraft) :
    (layout.after before).close = layout.close.after before := by
  simp only [close, after, List.append_assoc]

/-- Finished frames are not looked at. -/
theorem place_after (limits : FrameLimits) (layout : Layout) (before : List FrameDraft) (packet : Packet) :
    (layout.after before).place limits packet = (layout.place limits packet).after before := by
  unfold place
  rw [close_after]
  dsimp only [after]
  split
  · cases layout.current with
    | none => rfl
    | some draft =>
      dsimp only
      split <;> rfl
  · simp only [List.append_assoc]

theorem foldl_place_after (limits : FrameLimits) (packets : List Packet) (layout : Layout)
    (before : List FrameDraft) :
    packets.foldl (place limits) (layout.after before) = (packets.foldl (place limits) layout).after before := by
  induction packets generalizing layout with
  | nil => rfl
  | cons packet packets ih => rw [List.foldl_cons, List.foldl_cons, place_after, ih]

end Layout

section Cut

variable {limits : FrameLimits}

/-- A packet that is cut stands apart from those before and after it. -/
theorem layout_append_cut {packet : Packet} (hcut : limits.cuts packet = true) (front back : List Packet) :
    layout limits (front ++ packet :: back)
      = layout limits front ++ cutDrafts limits packet ++ layout limits back := by
  have hlong : ¬ packet.payload.toBytes.length ≤ limits.bodyCapacity := Nat.not_le_of_lt (of_decide_eq_true hcut)
  have hplace : ∀ before : Layout, before.place limits packet
      = ({} : Layout).after ((cutDrafts limits packet).reverse ++ before.close.closed) := by
    intro before
    simp only [Layout.place, if_neg hlong, cutDrafts, Layout.after, List.nil_append]
  rw [layout, List.foldl_append, List.foldl_cons, hplace, Layout.foldl_place_after, Layout.frames, Layout.close_after,
    Layout.after, List.reverse_append, List.reverse_append, List.reverse_reverse]
  rfl

/-- How many frames a layout has: those of the packets that are cut, and as few as there can be for those between
them. -/
theorem length_layout (husable : limits.Usable) (packets : List Packet) :
    (layout limits packets).length
      = ((packets.filter limits.cuts).map fun packet =>
          packet.payload.toBytes.length ⌈/⌉ limits.bodyCapacity).sum
        + ((packets.splitOnP limits.cuts).map (fewestGroups limits)).sum := by
  cases hfind : packets.find? limits.cuts with
  | none =>
    have hfits : ∀ packet ∈ packets, limits.cuts packet = false := fun packet hpacket =>
      eq_false_of_ne_true (List.find?_eq_none.mp hfind packet hpacket)
    have hnone : packets.filter limits.cuts = [] := List.filter_eq_nil_iff.mpr (List.find?_eq_none.mp hfind)
    rw [hnone, List.splitOnP_eq_singleton hfits, List.map_singleton, List.sum_singleton, fewestGroups_eq husable hfits,
      List.map_nil, List.sum_nil, Nat.zero_add]
  | some packet =>
    obtain ⟨hcut, front, back, rfl, hbefore⟩ := List.find?_eq_some_iff_append.mp hfind
    have hfits : ∀ packet ∈ front, limits.cuts packet = false := fun other hother => by
      simpa using hbefore other hother
    have hnone : front.filter limits.cuts = [] := List.filter_eq_nil_iff.mpr fun other hother => by
      rw [hfits other hother]
      decide
    have hrest := length_layout husable back
    have hcount : (cutDrafts limits packet).length
        = packet.payload.toBytes.length ⌈/⌉ limits.bodyCapacity := by
      rw [cutDrafts, List.length_map, segments_length, length_chunks husable.capacity_pos]
    rw [layout_append_cut hcut, List.length_append, List.length_append, hcount, hrest, List.filter_append, hnone,
      List.nil_append, List.filter_cons_of_pos hcut, List.map_cons, List.sum_cons,
      List.splitOnP_append_cons_of_forall_mem hfits _ hcut, List.map_cons, List.sum_cons,
      fewestGroups_eq husable hfits]
    omega
termination_by packets.length
decreasing_by
  subst_vars
  simp only [List.length_append, List.length_cons]
  omega

/-- Between two packets that are cut there are only packets that fit. -/
theorem fits_of_mem_splitOnP {packets run : List Packet} (h : run ∈ packets.splitOnP limits.cuts) :
    ∀ packet ∈ run, limits.cuts packet = false := by
  induction packets generalizing run with
  | nil =>
    rw [List.splitOnP_nil, List.mem_singleton] at h
    rw [h]
    exact List.forall_mem_nil _
  | cons first packets ih =>
    rw [List.splitOnP_cons_eq_if_modifyHead] at h
    split at h
    · rcases List.mem_cons.mp h with rfl | hlater
      · exact List.forall_mem_nil _
      · exact ih hlater
    · rename_i hfirst
      obtain ⟨head, runs, hruns⟩ := List.exists_cons_of_ne_nil (List.splitOnP_ne_nil limits.cuts packets)
      rw [hruns, List.modifyHead_cons] at h
      rcases List.mem_cons.mp h with rfl | hlater
      · exact List.forall_mem_cons.mpr ⟨eq_false_of_ne_true hfirst, ih (hruns ▸ List.mem_cons_self)⟩
      · exact ih (hruns ▸ List.mem_cons_of_mem _ hlater)

end Cut

namespace Encoder

/-- How many frames a call gives: as many for each packet that is cut as its body takes, and for the packets between
them as few as there can be, however they share frames in their order. -/
theorem encode_fewest {encoder : Encoder} {limits : FrameLimits} {packets : List Packet} {frames : List Bytes}
    (h : (encoder.encode limits packets).2 = .ok frames) :
    frames.length
        = ((packets.filter limits.cuts).map fun packet =>
            packet.payload.toBytes.length ⌈/⌉ limits.bodyCapacity).sum
          + ((packets.splitOnP limits.cuts).map (fewestGroups limits)).sum
      ∧ ∀ run ∈ packets.splitOnP limits.cuts, IsLeast (groupCounts limits run) (fewestGroups limits run) := by
  obtain ⟨husable, -, rfl, -⟩ := encode_ok h
  refine ⟨?_, fun run hrun => ?_⟩
  · rw [writeFrames, List.length_mapIdx, length_layout husable]
  · have hfits := fits_of_mem_splitOnP hrun
    rw [fewestGroups_eq husable hfits]
    exact isLeast_groupCounts husable hfits

/-- Three frames for the block, and one each for the packets before and after it. -/
theorem encode_fewest_mixedTraffic :
    ∃ frames, (wrappingEncoder.encode ⟨64, 84⟩ mixedTraffic).2 = .ok frames
      ∧ 5 = 3 + (fewestGroups ⟨64, 84⟩ (mixedTraffic.take 2) + fewestGroups ⟨64, 84⟩ (mixedTraffic.drop 3))
      ∧ IsLeast (groupCounts ⟨64, 84⟩ (mixedTraffic.take 2)) (fewestGroups ⟨64, 84⟩ (mixedTraffic.take 2)) := by
  obtain ⟨frames, hencode, hcount⟩ := encode_mixedTraffic
  obtain ⟨hlength, hleast⟩ := encode_fewest hencode
  have hruns : mixedTraffic.splitOnP (FrameLimits.cuts ⟨64, 84⟩) = [mixedTraffic.take 2, mixedTraffic.drop 3] := by
    decide +kernel
  have hparts : ((mixedTraffic.filter (FrameLimits.cuts ⟨64, 84⟩)).map fun packet =>
      packet.payload.toBytes.length ⌈/⌉ FrameLimits.bodyCapacity ⟨64, 84⟩).sum = 3 := by
    decide +kernel
  rw [hruns] at hlength hleast
  rw [hcount, hparts, List.map_cons, List.map_singleton, List.sum_cons, List.sum_singleton] at hlength
  exact ⟨frames, hencode, hlength, hleast _ List.mem_cons_self⟩

end Encoder

end CaptureProtocol
