import CaptureProtocol.Proofs.FrameGrammar
import Mathlib

/-!
# Exact reassembly

Whatever bytes arrive, the packets that a decoder gives follow from what was heard before, by a rule that does not
speak of decoders: a last part gives a packet exactly when it closes a row of parts of its address, from a first part
on, whose frame numbers go up by one.

* `Part`, `partsOf` — the parts of payloads that were heard for an address;
* `Latest` — the latest first part and what was heard after it; `Latest.unique`;
* `Completes` — a last part closes a row; `Yields`: the packets of one message after those before it; `Gives`: the
  packets of a history;
* `Tracked` — what is pending for an address, told from its parts; `Mirrors`: for all addresses;
* `take_mirrors` — one message; `receive_iff_gives` — every list of frames.
-/

namespace CaptureProtocol

/-- A part of a payload, with the header of its frame. -/
structure Part where
  frame : FrameHeader
  message : Message
deriving DecidableEq, Inhabited, Repr

namespace Part

def position (part : Part) : Segmentation := part.message.header.flags.segmentation

def key (part : Part) : StreamKey := Decoder.keyOf part.frame part.message.header

theorem key_mk (frame : FrameHeader) (message : Message) :
    (Part.mk frame message).key = Decoder.keyOf frame message.header := rfl

/-- The part has the frame number after that of `previous`. -/
def Follows (previous part : Part) : Prop := part.frame.sequence = previous.frame.sequence + 1

end Part

/-- The part of a payload in a message, if the message holds one. -/
def Heard.part? (heard : Heard) : Option Part :=
  match heard.piece with
  | .truncated _ => none
  | .whole message =>
    if message.header.flags.segmentation = .unsegmented then none else some ⟨heard.frame, message⟩

/-- The parts that were heard for an address. -/
def partsOf (key : StreamKey) (history : List Heard) : List Part :=
  (history.filterMap Heard.part?).filter fun part => part.key = key

theorem partsOf_append (key : StreamKey) (front back : List Heard) :
    partsOf key (front ++ back) = partsOf key front ++ partsOf key back := by
  rw [partsOf, List.filterMap_append, List.filter_append]
  rfl

theorem partsOf_silent {heard : Heard} (h : heard.part? = none) (key : StreamKey) : partsOf key [heard] = [] := by
  rw [partsOf, List.filterMap_cons_none h]
  rfl

theorem partsOf_own {heard : Heard} {part : Part} (h : heard.part? = some part) :
    partsOf part.key [heard] = [part] := by
  rw [partsOf, List.filterMap_cons_some h, List.filterMap_nil, List.filter_cons_of_pos (by simp), List.filter_nil]

theorem partsOf_other {heard : Heard} {part : Part} (h : heard.part? = some part) {key : StreamKey}
    (hkey : key ≠ part.key) : partsOf key [heard] = [] := by
  rw [partsOf, List.filterMap_cons_some h, List.filterMap_nil,
    List.filter_cons_of_neg (by simp [Ne.symm hkey]), List.filter_nil]

/-! ### Rows of parts -/

/-- `first` is the latest first part, and `middle` came after it. -/
structure Latest (parts : List Part) (first : Part) (middle : List Part) : Prop where
  parts : ∃ earlier, parts = earlier ++ first :: middle
  first : first.position = .first
  middle : ∀ part ∈ middle, part.position = .intermediary

/-- There is only one latest first part. -/
theorem Latest.unique {parts middle otherMiddle : List Part} {first otherFirst : Part}
    (h : Latest parts first middle) (hother : Latest parts otherFirst otherMiddle) :
    first = otherFirst ∧ middle = otherMiddle := by
  obtain ⟨earlier, hparts⟩ := h.parts
  obtain ⟨otherEarlier, hotherParts⟩ := hother.parts
  -- neither first part stands in the middle after the other one
  have hnotMem : ∀ {start : Part} {rest : List Part}, start.position = .first →
      (∀ part ∈ rest, part.position = .intermediary) → start ∉ rest := by
    intro start rest hstart hrest hmem
    rw [hrest start hmem] at hstart
    cases hstart
  rcases List.append_eq_append_iff.mp (hparts.symm.trans hotherParts) with ⟨gap, -, hgap⟩ | ⟨gap, -, hgap⟩
  · cases gap with
    | nil => exact List.cons_eq_cons.mp hgap
    | cons part gap =>
      rw [List.cons_append, List.cons_eq_cons] at hgap
      refine absurd ?_ (hnotMem hother.first h.middle)
      rw [hgap.2]
      exact List.mem_append_right _ List.mem_cons_self
  · cases gap with
    | nil =>
      obtain ⟨hfirst, hmiddle⟩ := List.cons_eq_cons.mp hgap
      exact ⟨hfirst.symm, hmiddle.symm⟩
    | cons part gap =>
      rw [List.cons_append, List.cons_eq_cons] at hgap
      refine absurd ?_ (hnotMem h.first hother.middle)
      rw [hgap.2]
      exact List.mem_append_right _ List.mem_cons_self

theorem latest_first (parts : List Part) {part : Part} (h : part.position = .first) :
    Latest (parts ++ [part]) part [] where
  parts := ⟨parts, rfl⟩
  first := h
  middle _ hmem := absurd hmem List.not_mem_nil

theorem Latest.snoc {parts middle : List Part} {first part : Part} (h : Latest parts first middle)
    (hpart : part.position = .intermediary) : Latest (parts ++ [part]) first (middle ++ [part]) where
  parts := by
    obtain ⟨earlier, rfl⟩ := h.parts
    exact ⟨earlier, by rw [List.append_assoc, List.cons_append]⟩
  first := h.first
  middle other hother := by
    rcases List.mem_append.mp hother with hother | hother
    · exact h.middle other hother
    · rw [List.mem_singleton.mp hother]
      exact hpart

/-- What the latest first part can be after one more part that is not a first part. -/
theorem Latest.of_snoc {parts middle : List Part} {first part : Part} (h : Latest (parts ++ [part]) first middle)
    (hpart : part.position ≠ .first) :
    part.position = .intermediary ∧ ∃ before, middle = before ++ [part] ∧ Latest parts first before := by
  obtain ⟨earlier, hparts⟩ := h.parts
  induction middle using List.reverseRecOn with
  | nil =>
    obtain ⟨-, hsame⟩ := List.append_inj' hparts rfl
    rw [List.singleton_inj.mp hsame] at hpart
    exact absurd h.first hpart
  | append_singleton before last _ =>
    rw [← List.cons_append, ← List.append_assoc] at hparts
    obtain ⟨hbefore, hsame⟩ := List.append_inj' hparts rfl
    rw [List.singleton_inj.mp hsame]
    refine ⟨h.middle last (List.mem_append_right _ List.mem_cons_self), before, rfl, ⟨earlier, hbefore⟩, h.first, ?_⟩
    exact fun other hother => h.middle other (List.mem_append_left _ hother)

/-- The frame numbers of a row go up by one, up to a part that comes after it. -/
theorem numbers_snoc {row : List Part} {part : Part} :
    (row ++ [part]).IsChain Part.Follows
      ↔ row.IsChain Part.Follows ∧ ∀ last ∈ row.getLast?, last.Follows part := by
  rw [List.isChain_append]
  simp

/-! ### What a history gives -/

/-- A last part closes a row of parts of its address: the latest first part and all parts after it, with frame numbers
that go up by one. -/
structure Completes (before : List Heard) (last first : Part) (middle : List Part) : Prop where
  latest : Latest (partsOf last.key before) first middle
  numbers : (first :: middle ++ [last]).IsChain Part.Follows

/-- The packet of a row: the headers of its first part, and all bodies in order. -/
def joined (first : Part) (later : List Part) : Packet :=
  packetOf first.frame first.message.header
    (.parse first.frame.messageType first.message.header.payloadType
      ((first :: later).flatMap fun part => part.message.body))

/-- The packets of a message after what was heard before it. -/
inductive Yields (before : List Heard) : Heard → List Packet → Prop
  | truncated (frame : FrameHeader) (message : Message) :
      Yields before ⟨frame, .truncated message⟩
        [packetOf frame message.header (.undefined message.header.payloadType message.body)]
  | single {frame : FrameHeader} {message : Message}
      (hposition : message.header.flags.segmentation = .unsegmented) :
      Yields before ⟨frame, .whole message⟩
        [packetOf frame message.header (.parse frame.messageType message.header.payloadType message.body)]
  | silent {frame : FrameHeader} {message : Message}
      (hposition : message.header.flags.segmentation = .first ∨
        message.header.flags.segmentation = .intermediary) :
      Yields before ⟨frame, .whole message⟩ []
  | completed {frame : FrameHeader} {message : Message} (hposition : message.header.flags.segmentation = .last)
      {first : Part} {middle : List Part} (hcompletes : Completes before ⟨frame, message⟩ first middle) :
      Yields before ⟨frame, .whole message⟩ [joined first (middle ++ [⟨frame, message⟩])]
  | incomplete {frame : FrameHeader} {message : Message} (hposition : message.header.flags.segmentation = .last)
      (hnone : ∀ first middle, ¬ Completes before ⟨frame, message⟩ first middle) :
      Yields before ⟨frame, .whole message⟩ []

/-- The packets of messages in order, each after all that was heard before it. -/
inductive Gives : List Heard → List Heard → List Packet → Prop
  | nil {before : List Heard} : Gives before [] []
  | cons {before later : List Heard} {heard : Heard} {packets laterPackets : List Packet}
      (hyields : Yields before heard packets) (hlater : Gives (before ++ [heard]) later laterPackets) :
      Gives before (heard :: later) (packets ++ laterPackets)

theorem Yields.unique {before : List Heard} {heard : Heard} {packets others : List Packet}
    (h : Yields before heard packets) (hother : Yields before heard others) : packets = others := by
  cases h with
  | truncated => cases hother with | truncated => rfl
  | single hposition =>
    cases hother with
    | single => rfl
    | silent hother => simp [hposition] at hother
    | completed hother => simp [hposition] at hother
    | incomplete hother => simp [hposition] at hother
  | silent hposition =>
    cases hother with
    | single hother => simp [hother] at hposition
    | silent => rfl
    | completed hother => simp [hother] at hposition
    | incomplete => rfl
  | completed hposition hcompletes =>
    cases hother with
    | single hother => simp [hposition] at hother
    | silent hother => simp [hposition] at hother
    | completed _ hother =>
      obtain ⟨rfl, rfl⟩ := hcompletes.latest.unique hother.latest
      rfl
    | incomplete _ hnone => exact absurd hcompletes (hnone _ _)
  | incomplete hposition hnone =>
    cases hother with
    | single hother => simp [hposition] at hother
    | silent => rfl
    | completed _ hother => exact absurd hother (hnone _ _)
    | incomplete => rfl

/-- A history gives one list of packets. -/
theorem Gives.unique {before later : List Heard} {packets others : List Packet} (h : Gives before later packets)
    (hother : Gives before later others) : packets = others := by
  induction h generalizing others with
  | nil =>
    cases hother
    rfl
  | cons hyields _ ih =>
    cases hother with
    | cons hotherYields hotherLater => rw [hyields.unique hotherYields, ih hotherLater]

theorem Gives.append {before front back : List Heard} {packets more : List Packet} (h : Gives before front packets)
    (hback : Gives (before ++ front) back more) : Gives before (front ++ back) (packets ++ more) := by
  induction h with
  | nil =>
    rw [List.append_nil] at hback
    exact hback
  | cons hyields _ ih =>
    rw [List.append_assoc, List.cons_append]
    refine .cons hyields (ih ?_)
    rwa [List.append_assoc, List.singleton_append]

/-! ### What is pending -/

/-- What is pending for an address whose parts are these: the latest first part and the parts after it, as long as
their frame numbers go up by one. -/
def Tracked (parts : List Part) : Option PendingPayload → Prop
  | none => ∀ first middle, Latest parts first middle → ¬ (first :: middle).IsChain Part.Follows
  | some pending =>
    ∃ first middle, Latest parts first middle ∧ (first :: middle).IsChain Part.Follows
      ∧ pending.frame = first.frame ∧ pending.header = first.message.header
      ∧ pending.latest.reverse = (first :: middle).map (fun part => part.message.body)
      ∧ ∀ last ∈ (first :: middle).getLast?, pending.next = last.frame.sequence + 1

theorem tracked_nil : Tracked [] none := by
  intro first middle hlatest
  obtain ⟨earlier, hparts⟩ := hlatest.parts
  exact absurd hparts.symm (by simp)

section Tracked

variable {parts : List Part} {part : Part}

theorem tracked_start (now : Nat) (h : part.position = .first) :
    Tracked (parts ++ [part]) (some (.start now part.frame part.message)) := by
  refine ⟨part, [], latest_first parts h, .singleton part, rfl, rfl, rfl, ?_⟩
  intro last hlast
  cases hlast
  rfl

/-- A row of parts that goes on with a part is pending, and waits for its frame number. -/
theorem tracked_next {pending? : Option PendingPayload} (h : Tracked parts pending?) {first : Part}
    {middle : List Part} (hlatest : Latest parts first middle)
    (hnumbers : (first :: middle ++ [part]).IsChain Part.Follows) :
    ∃ pending, pending? = some pending ∧ pending.next = part.frame.sequence := by
  obtain ⟨hrow, hfollows⟩ := numbers_snoc.mp hnumbers
  cases pending? with
  | none => exact absurd hrow (h first middle hlatest)
  | some pending =>
    obtain ⟨ownFirst, ownMiddle, hown, -, -, -, -, hnext⟩ := h
    obtain ⟨rfl, rfl⟩ := hown.unique hlatest
    have hlast := List.getLast?_eq_getLast_of_ne_nil (List.cons_ne_nil ownFirst ownMiddle)
    exact ⟨pending, rfl, (hnext _ hlast).trans (hfollows _ hlast).symm⟩

/-- The payload that a part goes on with, and the row that it holds. -/
theorem tracked_append {pending : PendingPayload} (h : Tracked parts (some pending))
    (hpart : part.position = .intermediary) (hnext : pending.next = part.frame.sequence) :
    Tracked (parts ++ [part]) (some (pending.append part.message.body)) := by
  obtain ⟨first, middle, hlatest, hnumbers, hframe, hheader, hbodies, hwaits⟩ := h
  refine ⟨first, middle ++ [part], hlatest.snoc hpart, ?_, hframe, hheader, ?_, ?_⟩
  · rw [← List.cons_append, numbers_snoc]
    refine ⟨hnumbers, fun last hlast => ?_⟩
    rw [Part.Follows, ← hwaits last hlast, hnext]
  · rw [← List.cons_append, List.map_append, ← hbodies]
    exact List.reverse_cons
  · intro last hlast
    rw [← List.cons_append, List.getLast?_concat] at hlast
    cases hlast
    rw [← hnext]
    rfl

/-- A later part that does not carry the next frame number leaves no row behind. -/
theorem tracked_broken {pending? : Option PendingPayload} (h : Tracked parts pending?)
    (hpart : part.position ≠ .first) (hnext : ∀ pending ∈ pending?, pending.next ≠ part.frame.sequence) :
    Tracked (parts ++ [part]) none := by
  intro first middle hlatest hnumbers
  obtain ⟨-, before, rfl, hbefore⟩ := hlatest.of_snoc hpart
  obtain ⟨pending, hpending, hsequence⟩ := tracked_next h hbefore hnumbers
  exact hnext pending hpending hsequence

/-- A last part leaves no row behind. -/
theorem tracked_last (hpart : part.position = .last) : Tracked (parts ++ [part]) none := by
  intro first middle hlatest
  obtain ⟨hposition, -⟩ := hlatest.of_snoc (by rw [hpart]; decide)
  rw [hpart] at hposition
  cases hposition

/-- The packet of a payload that a last part completes. -/
theorem tracked_packet {pending : PendingPayload} (h : Tracked parts (some pending)) (part : Part)
    (hnext : pending.next = part.frame.sequence) :
    ∃ first middle, Latest parts first middle ∧ (first :: middle ++ [part]).IsChain Part.Follows
      ∧ (pending.append part.message.body).packet = joined first (middle ++ [part]) := by
  obtain ⟨first, middle, hlatest, hnumbers, hframe, hheader, hbodies, hwaits⟩ := h
  refine ⟨first, middle, hlatest, ?_, ?_⟩
  · refine numbers_snoc.mpr ⟨hnumbers, fun last hlast => ?_⟩
    rw [Part.Follows, ← hwaits last hlast, hnext]
  · have hbody : (pending.append part.message.body).body
        = (first :: (middle ++ [part])).flatMap fun part => part.message.body := by
      rw [← List.cons_append, List.flatMap_append, List.flatMap_singleton, List.flatMap_def, ← hbodies]
      show (part.message.body :: pending.latest).reverse.flatten = _
      rw [List.reverse_cons, List.flatten_append, List.flatten_singleton]
    rw [PendingPayload.packet, hbody]
    show packetOf pending.frame pending.header (.parse pending.frame.messageType pending.header.payloadType _) = _
    rw [hframe, hheader]
    rfl

end Tracked

/-- A later part that does not carry the next frame number gives no packet. -/
theorem yields_nothing {before : List Heard} (part : Part) {pending? : Option PendingPayload}
    (h : Tracked (partsOf part.key before) pending?)
    (hposition : part.position = .intermediary ∨ part.position = .last)
    (hnext : ∀ pending ∈ pending?, pending.next ≠ part.frame.sequence) :
    Yields before ⟨part.frame, .whole part.message⟩ [] := by
  rcases hposition with hposition | hposition
  · exact .silent (.inr hposition)
  · refine .incomplete hposition fun first middle hcompletes => ?_
    obtain ⟨pending, hpending, hsequence⟩ := tracked_next h hcompletes.latest hcompletes.numbers
    exact hnext pending hpending hsequence

/-! ### What a decoder does -/

namespace Decoder

/-- What is pending for each address is told from the parts that were heard for it. -/
def Mirrors (history : List Heard) (decoder : Decoder) : Prop :=
  ∀ key, Tracked (partsOf key history) (decoder.pending? key)

theorem mirrors_empty (timeout : Nat) : Mirrors [] { timeout } := fun _ => tracked_nil

variable {before : List Heard} {decoder after : Decoder} {heard : Heard}

theorem Mirrors.silent (h : decoder.Mirrors before) (hpart : heard.part? = none) :
    decoder.Mirrors (before ++ [heard]) := by
  intro key
  rw [partsOf_append, partsOf_silent hpart, List.append_nil]
  exact h key

/-- A part changes what is pending for its own address only. -/
theorem Mirrors.update {part : Part} (h : decoder.Mirrors before) (hpart : heard.part? = some part)
    (hothers : ∀ key, key ≠ part.key → after.pending? key = decoder.pending? key)
    (hown : Tracked (partsOf part.key before ++ [part]) (after.pending? part.key)) :
    after.Mirrors (before ++ [heard]) := by
  intro key
  rw [partsOf_append]
  by_cases hkey : key = part.key
  · rw [hkey, partsOf_own hpart]
    exact hown
  · rw [partsOf_other hpart hkey, List.append_nil, hothers key hkey]
    exact h key

theorem part_whole (part : Part) (hposition : part.position ≠ .unsegmented) :
    Heard.part? ⟨part.frame, .whole part.message⟩ = some part := by
  rw [Heard.part?]
  exact if_neg hposition

theorem later_ne_unsegmented {position : Segmentation} (h : position = .intermediary ∨ position = .last) :
    position ≠ .unsegmented := by
  rcases h with rfl | rfl <;> decide

/-- One message: the decoder gives what it has to, and goes on mirroring the history. -/
theorem take_mirrors (h : decoder.Mirrors before) (now : Nat) (heard : Heard) :
    (decoder.take now heard).1.Mirrors (before ++ [heard]) ∧ Yields before heard (decoder.take now heard).2 := by
  obtain ⟨frame, piece⟩ := heard
  obtain ⟨after, packets, haccept, houtcome⟩ := accept_outcome now frame decoder piece
  show (accept now frame decoder piece).1.Mirrors _ ∧ Yields before _ (accept now frame decoder piece).2
  rw [haccept]
  cases houtcome with
  | truncated message => exact ⟨h.silent rfl, .truncated frame message⟩
  | single hposition => exact ⟨h.silent (if_pos hposition), .single hposition⟩
  | @opened message hposition =>
    have hpart : Heard.part? ⟨frame, .whole message⟩ = some ⟨frame, message⟩ :=
      part_whole ⟨frame, message⟩ (by rw [Part.position, hposition]; decide)
    refine ⟨h.update hpart (fun key hkey => pending?_hold_ne _ _ _ _ hkey) ?_, .silent (.inl hposition)⟩
    rw [Part.key_mk, pending?_hold]
    exact tracked_start now hposition
  | @orphan message hposition hpending =>
    have htracked := h (keyOf frame message.header)
    rw [hpending] at htracked
    have hnext : ∀ pending ∈ (none : Option PendingPayload), pending.next ≠ frame.sequence := by
      intro pending hmem
      cases hmem
    refine ⟨h.update (part_whole ⟨frame, message⟩ (later_ne_unsegmented hposition)) (fun _ _ => rfl) ?_,
      yields_nothing ⟨frame, message⟩ htracked hposition hnext⟩
    rw [Part.key_mk, hpending]
    exact tracked_broken htracked (later_ne_first hposition) hnext
  | @broken message pending hposition hpending hnext =>
    have htracked := h (keyOf frame message.header)
    rw [hpending] at htracked
    have hwaits : ∀ waiting ∈ some pending, waiting.next ≠ frame.sequence := by
      intro waiting hmem
      cases hmem
      exact hnext
    refine ⟨h.update (part_whole ⟨frame, message⟩ (later_ne_unsegmented hposition))
      (fun key hkey => pending?_forget_ne _ _ _ hkey) ?_,
      yields_nothing ⟨frame, message⟩ htracked hposition hwaits⟩
    rw [Part.key_mk, pending?_forget]
    exact tracked_broken htracked (later_ne_first hposition) hwaits
  | @appended message pending hposition hpending hnext =>
    have htracked := h (keyOf frame message.header)
    rw [hpending] at htracked
    refine ⟨h.update (part_whole ⟨frame, message⟩ (later_ne_unsegmented (.inl hposition)))
      (fun key hkey => pending?_hold_ne _ _ _ _ hkey) ?_, .silent (.inr hposition)⟩
    rw [Part.key_mk, pending?_hold]
    exact tracked_append htracked hposition hnext
  | @completed message pending hposition hpending hnext =>
    have htracked := h (keyOf frame message.header)
    rw [hpending] at htracked
    constructor
    · refine h.update (part_whole ⟨frame, message⟩ (later_ne_unsegmented (.inr hposition)))
        (fun key hkey => pending?_forget_ne _ _ _ hkey) ?_
      rw [Part.key_mk, pending?_forget]
      exact tracked_last hposition
    · obtain ⟨first, middle, hlatest, hnumbers, hpacket⟩ := tracked_packet htracked ⟨frame, message⟩ hnext
      show Yields before _ [(pending.append message.body).packet]
      rw [hpacket]
      exact .completed hposition ⟨hlatest, hnumbers⟩

/-- Messages in order. -/
theorem collect_mirrors (now : Nat) (later : List Heard) (h : decoder.Mirrors before) :
    (Run.collect (take now) decoder later).1.Mirrors (before ++ later)
      ∧ Gives before later (Run.collect (take now) decoder later).2 := by
  induction later generalizing before decoder with
  | nil =>
    rw [List.append_nil]
    exact ⟨h, .nil⟩
  | cons heard later ih =>
    obtain ⟨hstep, hyields⟩ := take_mirrors h now heard
    obtain ⟨hmirrors, hgives⟩ := ih hstep
    rw [Run.collect_cons]
    rw [List.append_assoc, List.singleton_append] at hmirrors
    exact ⟨hmirrors, .cons hyields hgives⟩

/-- Frames in order, while nothing goes stale. -/
theorem receive_mirrors {arrivals : List Arrival} (h : decoder.Mirrors before)
    (hundisturbed : decoder.Undisturbed arrivals) :
    Gives before (arrivals.flatMap fun arrival => hear arrival.bytes) (decoder.receive arrivals).2 := by
  induction arrivals generalizing before decoder with
  | nil => exact .nil
  | cons arrival arrivals ih =>
    obtain ⟨hfresh, hlater⟩ := hundisturbed
    have hdecode : decoder.decode arrival.time arrival.bytes
        = Run.collect (take arrival.time) decoder (hear arrival.bytes) := by
      rw [decode_eq_collect, expire_of_fresh hfresh]
    obtain ⟨hmirrors, hgives⟩ := collect_mirrors arrival.time (hear arrival.bytes) h
    rw [← hdecode] at hmirrors hgives
    rw [List.flatMap_cons, receive_cons]
    exact hgives.append (ih hmirrors hlater)

/-- An empty decoder gives the packets of what was heard, those and no others. -/
theorem receive_iff_gives (timeout : Nat) {arrivals : List Arrival} {history : List Heard} {packets : List Packet}
    (hreads : Reads (arrivals.map Arrival.bytes) history) (hundisturbed : Undisturbed { timeout } arrivals) :
    (receive { timeout } arrivals).2 = packets ↔ Gives [] history packets := by
  have hhistory := reads_iff.mp hreads
  rw [List.flatMap_map] at hhistory
  have hgives := receive_mirrors (mirrors_empty timeout) hundisturbed
  rw [hhistory] at hgives
  constructor
  · rintro rfl
    exact hgives
  · exact hgives.unique

end Decoder

/-- The parts of a CAN frame around a wrap of the frame number, after a part too many and before one. -/
def canArrivals : List Arrival :=
  let body := (CanFrame.ofIdentifier 0x123 [1, 2, 3]).write
  [⟨0, canPart 9 65535 .intermediary []⟩, ⟨1, canPart 9 65535 .first (body.take 7)⟩,
   ⟨2, canPart 9 0 .intermediary ((body.drop 7).take 7)⟩, ⟨3, [1, 0, 0, 7]⟩, ⟨4, canPart 9 1 .last (body.drop 14)⟩,
   ⟨5, canPart 9 2 .last []⟩]

namespace Decoder

theorem receive_iff_gives_can :
    Gives [] ((canArrivals.map Arrival.bytes).flatMap hear)
      [{ Packet.ofPayload 2 20 (.can (.ofIdentifier 0x123 [1, 2, 3])) with deviceId := 7, streamId := 9 }] := by
  have hundisturbed : Undisturbed { timeout := 2000 } canArrivals :=
    undisturbed_of_within 5 (every_empty 2000) (by decide +kernel)
  exact (receive_iff_gives 2000 (reads_hear _) hundisturbed).mp (by decide +kernel)

end Decoder

end CaptureProtocol
