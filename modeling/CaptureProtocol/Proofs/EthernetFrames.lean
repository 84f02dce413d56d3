import CaptureProtocol.Ethernet
import CaptureProtocol.Proofs.UncheckedReading
import Mathlib

/-!
# Which byte strings are Ethernet frames of the protocol

A frame is two addresses and a type, with a VLAN tag between them or without, and its payload.

* `Ethernet.readType` — what follows the addresses; `readType_eq_some_iff`: a type, with a tag before it or without;
* `parse?_addressed`, `parse?_of_short` — any byte string is too short for two addresses or begins with them;
* `parse?_eq_some_iff`, `parse?_wrap` — what is read of a frame, and of one that was wrapped;
* `unwrap?_eq_some_iff`, `unwrap?_wrap` — the frames of the protocol;
* `parse?_insertTag` — a tag that is put in makes no difference;
* `Ethernet.indexed` — the frame taken apart by unchecked positions; `indexed_eq_parse?`: none lies outside of the frame;
* `Ethernet.unwrap?_framed` — all of this together.
-/

namespace CaptureProtocol.Ethernet

open Reader

variable {destination source frame tag rest payload : Bytes} {etherType : UInt16} {header : EthernetHeader}

/-! ### After the addresses -/

/-- Reads what follows the addresses up to the payload. -/
def readType : Reader UInt16 := do
  let outerType ← u16
  if outerType = vlanType then
    skip 2
    u16
  else return outerType

theorem readType_of_ne (htype : etherType ≠ vlanType) (rest : Bytes) :
    readType (Bytes.ofUInt16 etherType ++ rest) = some (etherType, rest) := by
  rw [readType, bind_apply, u16_append, Option.bind_some, if_neg htype]
  rfl

theorem readType_vlan (rest : Bytes) :
    readType (Bytes.ofUInt16 vlanType ++ rest) = (skip 2 >>= fun _ => u16) rest := by
  rw [readType, bind_apply, u16_append, Option.bind_some, if_pos rfl]

/-- Behind a tag the next type counts, whatever it is. -/
theorem readType_of_tag (htag : tag.length = 2) (rest : Bytes) :
    readType (Bytes.ofUInt16 vlanType ++ (tag ++ rest)) = u16 rest := by
  have hskip : skip 2 (tag ++ rest) = some (⟨⟩, rest) := by
    rw [skip, bind_apply, ← htag, take_append]
    rfl
  rw [readType_vlan, bind_apply, hskip, Option.bind_some]

theorem readType_eq_some_iff : readType rest = some (etherType, payload)
    ↔ (etherType ≠ vlanType ∧ rest = Bytes.ofUInt16 etherType ++ payload)
      ∨ ∃ tag : Bytes, tag.length = 2
        ∧ rest = Bytes.ofUInt16 vlanType ++ (tag ++ (Bytes.ofUInt16 etherType ++ payload)) := by
  constructor
  · intro h
    obtain ⟨outerType, inner, houter, hinner⟩ := bind_eq_some.mp h
    rw [u16_eq_some houter]
    split at hinner
    · rename_i hvlan
      obtain ⟨done, left, hskip, htype⟩ := bind_eq_some.mp hinner
      obtain ⟨tag, remaining, htag, hpure⟩ := bind_eq_some.mp hskip
      cases pure_eq_some.mp hpure
      obtain ⟨hlength, rfl⟩ := take_eq_some htag
      exact .inr ⟨tag, hlength, by rw [hvlan, u16_eq_some htype]⟩
    · rename_i hother
      cases pure_eq_some.mp hinner
      exact .inl ⟨hother, rfl⟩
  · rintro (⟨htype, rfl⟩ | ⟨tag, htag, rfl⟩)
    · exact readType_of_ne htype payload
    · rw [readType_of_tag htag, u16_append]

/-- A tag in front of a type that does not announce one is passed over. -/
theorem readType_insertTag (htag : tag.length = 2) (hrest : rest.take 2 ≠ Bytes.ofUInt16 vlanType) :
    readType (Bytes.ofUInt16 vlanType ++ (tag ++ rest)) = readType rest := by
  rw [readType_of_tag htag, readType, bind_apply]
  cases hread : u16 rest with
  | none => rfl
  | some found =>
    obtain ⟨outerType, left⟩ := found
    rw [u16_eq_some hread, List.take_left' (Bytes.ofUInt16_length outerType)] at hrest
    have hother : outerType ≠ vlanType := fun hvlan => hrest (hvlan ▸ rfl)
    rw [Option.bind_some, if_neg hother]
    rfl

/-! ### Frames -/

/-- Behind two addresses, the type decides. -/
theorem parse?_addressed (hdestination : destination.length = addressSize) (hsource : source.length = addressSize)
    (rest : Bytes) :
    parse? (destination ++ (source ++ rest))
      = (readType rest).map fun found => ({ destination, source, etherType := found.1 }, found.2) := by
  have htake : take addressSize (destination ++ (source ++ rest)) = some (destination, source ++ rest) := by
    rw [← hdestination]
    exact take_append destination _
  have haddress : take addressSize (source ++ rest) = some (source, rest) := by
    rw [← hsource]
    exact take_append source _
  rw [parse?, readHeader, bind_apply, htake, Option.bind_some, bind_apply, haddress, Option.bind_some,
    bind_apply, readType, bind_apply]
  cases u16 rest with
  | none => rfl
  | some found =>
    rw [Option.bind_some, Option.bind_some]
    split
    · rw [bind_apply, bind_apply]
      cases skip 2 found.2 with
      | none => rfl
      | some skipped =>
        rw [Option.bind_some, Option.bind_some, bind_apply]
        cases u16 skipped.2 with
        | none => rfl
        | some inner => rfl
    · rfl

/-- A byte string is too short for two addresses or begins with them. -/
theorem short_or_addressed (frame : Bytes) :
    frame.length < 2 * addressSize ∨ ∃ destination source rest, destination.length = addressSize
      ∧ source.length = addressSize ∧ frame = destination ++ (source ++ rest) := by
  by_cases hshort : frame.length < 2 * addressSize
  · exact .inl hshort
  · have hlong : addressSize ≤ (frame.drop addressSize).length := by
      rw [List.length_drop]
      omega
    refine .inr ⟨frame.take addressSize, (frame.drop addressSize).take addressSize,
      (frame.drop addressSize).drop addressSize, List.length_take_of_le (by omega), List.length_take_of_le hlong, ?_⟩
    rw [List.take_append_drop, List.take_append_drop]

theorem parse?_of_short (h : frame.length < 2 * addressSize) : parse? frame = none := by
  by_contra hfound
  obtain ⟨found, hread⟩ := Option.ne_none_iff_exists'.mp hfound
  obtain ⟨destination, left, hdestination, hnext⟩ := bind_eq_some.mp hread
  obtain ⟨source, rest, hsource, -⟩ := bind_eq_some.mp hnext
  obtain ⟨hfirst, rfl⟩ := take_eq_some hdestination
  obtain ⟨hsecond, rfl⟩ := take_eq_some hsource
  rw [List.length_append, List.length_append] at h
  omega

theorem parse?_eq_some_iff : parse? frame = some (header, payload)
    ↔ header.destination.length = addressSize ∧ header.source.length = addressSize
      ∧ ∃ rest, frame = header.destination ++ (header.source ++ rest)
        ∧ readType rest = some (header.etherType, payload) := by
  constructor
  · intro h
    rcases short_or_addressed frame with hshort | ⟨destination, source, rest, hdestination, hsource, rfl⟩
    · rw [parse?_of_short hshort] at h
      cases h
    · rw [parse?_addressed hdestination hsource, Option.map_eq_some_iff] at h
      obtain ⟨found, hfound, hheader⟩ := h
      cases hheader
      exact ⟨hdestination, hsource, rest, rfl, hfound⟩
  · rintro ⟨hdestination, hsource, rest, rfl, htype⟩
    rw [parse?_addressed hdestination hsource, htype]
    rfl

/-- What was wrapped is read with the addresses of all receivers and of its source. -/
theorem parse?_wrap (hsource : source.length = addressSize) (payload : Bytes) :
    parse? (wrap source payload) = some ({ destination := broadcast, source, etherType := protocolType }, payload) := by
  rw [parse?_eq_some_iff]
  refine ⟨List.length_replicate, hsource, Bytes.ofUInt16 protocolType ++ payload, ?_, readType_of_ne (by decide) payload⟩
  rw [wrap, List.append_assoc, List.append_assoc]

/-- A tag behind the addresses of a frame that has none makes no difference. -/
theorem parse?_insertTag (hframe : 2 * addressSize ≤ frame.length) (htag : tag.length = 2)
    (htype : (frame.drop (2 * addressSize)).take 2 ≠ Bytes.ofUInt16 vlanType) :
    parse? (frame.take (2 * addressSize) ++ Bytes.ofUInt16 vlanType ++ tag ++ frame.drop (2 * addressSize))
      = parse? frame := by
  rcases short_or_addressed frame with hshort | ⟨destination, source, rest, hdestination, hsource, rfl⟩
  · exact (Nat.not_lt_of_le hframe hshort).elim
  · have haddresses : (destination ++ source).length = 2 * addressSize := by
      rw [List.length_append, hdestination, hsource]
      rfl
    rw [← List.append_assoc, ← haddresses, List.drop_left] at htype
    rw [← List.append_assoc, ← haddresses, List.take_left, List.drop_left]
    simp only [List.append_assoc]
    rw [parse?_addressed hdestination hsource, parse?_addressed hdestination hsource,
      readType_insertTag htag htype]

/-! ### Frames of the protocol -/

/-- The type of the protocol follows the addresses, or a tag. -/
theorem unwrap?_eq_some_iff : unwrap? frame = some payload
    ↔ ∃ destination source : Bytes, destination.length = addressSize ∧ source.length = addressSize
      ∧ (frame = destination ++ source ++ Bytes.ofUInt16 protocolType ++ payload
        ∨ ∃ tag : Bytes, tag.length = 2
          ∧ frame = destination ++ source ++ Bytes.ofUInt16 vlanType ++ tag ++ Bytes.ofUInt16 protocolType ++ payload) := by
  have hprotocol : protocolType ≠ vlanType := by decide
  simp only [List.append_assoc]
  constructor
  · intro h
    rw [unwrap?] at h
    split at h
    · rename_i header left hparse
      rw [Option.ite_none_right_eq_some] at h
      obtain ⟨htype, hpayload⟩ := h
      cases hpayload
      obtain ⟨hdestination, hsource, rest, hframe, hrest⟩ := parse?_eq_some_iff.mp hparse
      rw [htype] at hrest
      refine ⟨header.destination, header.source, hdestination, hsource, ?_⟩
      rw [hframe]
      rcases readType_eq_some_iff.mp hrest with ⟨-, rfl⟩ | ⟨tag, htag, rfl⟩
      · exact .inl rfl
      · exact .inr ⟨tag, htag, rfl⟩
    · cases h
  · rintro ⟨destination, source, hdestination, hsource, hframe⟩
    obtain ⟨rest, rfl, hrest⟩ : ∃ rest, frame = destination ++ (source ++ rest)
        ∧ readType rest = some (protocolType, payload) := by
      rcases hframe with hframe | ⟨tag, htag, hframe⟩
      · exact ⟨_, hframe, readType_of_ne hprotocol payload⟩
      · exact ⟨_, hframe, readType_eq_some_iff.mpr (.inr ⟨tag, htag, rfl⟩)⟩
    rw [unwrap?, parse?_addressed hdestination hsource, hrest]
    exact if_pos rfl

/-- What was wrapped is unwrapped. -/
theorem unwrap?_wrap {source : MacAddress} (hsource : source.length = addressSize) (payload : Bytes) :
    unwrap? (wrap source payload) = some payload := by
  rw [unwrap?, parse?_wrap hsource]
  exact if_pos rfl

/-! ### Unchecked positions -/

/-- The byte at a position. -/
def byteAt (frame : Bytes) (position : Nat) : Scan UInt8 :=
  match frame[position]? with
  | some byte => .found byte
  | none => .overrun

/-- The word at a position. -/
def wordAt (frame : Bytes) (position : Nat) : Scan UInt16 := do
  return UInt16.ofNat (Bytes.value [← byteAt frame position, ← byteAt frame (position + 1)])

/-- The bytes from a position up to another. -/
def between (frame : Bytes) (first last : Nat) : Scan Bytes :=
  if first ≤ last ∧ last ≤ frame.length then .found ((frame.take last).drop first) else .overrun

/-- The bytes from a position on. -/
def beyond (frame : Bytes) (first : Nat) : Scan Bytes := between frame first frame.length

/-- The number of bytes of a tag, with the type that announces it. -/
def tagSize : Nat := 4

/-- The type and the payload behind the addresses, with a check of the length only behind a tag. -/
def indexedType (frame : Bytes) : Scan (UInt16 × Bytes) := do
  let outerType ← wordAt frame (2 * addressSize)
  if outerType = vlanType then
    if frame.length < 2 * addressSize + tagSize + 2 then Scan.refused
    else
      let etherType ← wordAt frame (2 * addressSize + tagSize)
      return (etherType, ← beyond frame (2 * addressSize + tagSize + 2))
  else return (outerType, ← beyond frame (2 * addressSize + 2))

/-- Takes a frame apart after one check of the length, which covers the addresses and a type. -/
def indexed (frame : Bytes) : Scan (EthernetHeader × Bytes) := do
  if frame.length < 2 * addressSize + 2 then Scan.refused
  else
    let destination ← between frame 0 addressSize
    let source ← between frame addressSize (2 * addressSize)
    let (etherType, payload) ← indexedType frame
    return ({ destination, source, etherType }, payload)

section

variable {front middle back : Bytes} {first last : Nat}

theorem between_eq (hframe : frame = front ++ (middle ++ back)) (hfirst : front.length = first)
    (hlast : first + middle.length = last) : between frame first last = .found middle := by
  subst hframe hfirst hlast
  rw [between, if_pos, ← List.append_assoc, List.take_left' List.length_append, List.drop_left]
  rw [List.length_append, List.length_append]
  omega

theorem beyond_eq (hframe : frame = front ++ back) (hfirst : front.length = first) :
    beyond frame first = .found back := by
  refine between_eq (by rw [hframe, List.append_nil]) hfirst ?_
  rw [hframe, List.length_append, hfirst]

theorem wordAt_eq {word : UInt16} (hframe : frame = front ++ (Bytes.ofUInt16 word ++ back))
    (hfirst : front.length = first) : wordAt frame first = .found word := by
  subst hframe hfirst
  have hvalue : UInt16.ofNat (Bytes.value (Bytes.ofUInt16 word)) = word := by
    have hlt := word.toNat_lt
    rw [Bytes.ofUInt16, Bytes.value_bigEndian, Bytes.wordCount, Bytes.wordCount, Bytes.wordCount,
      Nat.mod_eq_of_lt (by omega), UInt16.ofNat_toNat]
  obtain ⟨high, low, hbytes⟩ := List.length_eq_two.mp (Bytes.ofUInt16_length word)
  rw [hbytes] at hvalue ⊢
  have hhigh : byteAt (front ++ ([high, low] ++ back)) front.length = .found high := by
    rw [byteAt, List.getElem?_append_right le_rfl, Nat.sub_self]
    rfl
  have hlow : byteAt (front ++ ([high, low] ++ back)) (front.length + 1) = .found low := by
    rw [byteAt, List.getElem?_append_right (Nat.le_add_right _ _), Nat.add_sub_cancel_left]
    rfl
  rw [wordAt, hhigh, Scan.found_bind, hlow, Scan.found_bind, hvalue]
  rfl

/-- Behind twelve bytes that a type follows, the positions are those of the type, of the tag if there is one, and of
the payload. -/
theorem indexedType_eq (hframe : frame = front ++ rest) (hfront : front.length = 2 * addressSize)
    (hrest : 2 ≤ rest.length) : indexedType frame = .ofOption (readType rest) := by
  obtain ⟨outerType, hread⟩ := takes_u16.succeeds rest hrest
  have hbytes := u16_eq_some hread
  generalize rest.drop 2 = left at hbytes
  subst hbytes
  rw [indexedType, wordAt_eq hframe hfront, Scan.found_bind]
  rw [← List.append_assoc] at hframe
  have htyped : (front ++ Bytes.ofUInt16 outerType).length = 2 * addressSize + 2 := by
    rw [List.length_append, hfront, Bytes.ofUInt16_length]
  have hlength : frame.length = 2 * addressSize + 2 + left.length := by rw [hframe, List.length_append, htyped]
  by_cases htype : outerType = vlanType
  · subst htype
    rw [if_pos rfl, hlength]
    by_cases hshort : left.length < 4
    · rw [if_pos (by rw [tagSize]; omega), readType_vlan, ((takes_skip 2).bind fun _ => takes_u16).fails left hshort]
      rfl
    · obtain ⟨etherType, hinner⟩ := takes_u16.succeeds (left.drop 2) (by rw [List.length_drop]; omega)
      have htag : (left.take 2).length = 2 := List.length_take_of_le (by omega)
      have hleft : left = left.take 2 ++ (Bytes.ofUInt16 etherType ++ (left.drop 2).drop 2) := by
        rw [← u16_eq_some hinner, List.take_append_drop]
      generalize left.take 2 = tag at hleft htag
      generalize (left.drop 2).drop 2 = payload at hleft
      subst hleft
      rw [← List.append_assoc] at hframe
      have htagged : (front ++ Bytes.ofUInt16 vlanType ++ tag).length = 2 * addressSize + tagSize := by
        rw [List.length_append, htyped, htag, tagSize]
      rw [if_neg (by rw [tagSize]; omega), wordAt_eq hframe htagged, Scan.found_bind, readType_of_tag htag, u16_append]
      rw [← List.append_assoc] at hframe
      rw [beyond_eq hframe (by rw [List.length_append, htagged, Bytes.ofUInt16_length])]
      rfl
  · rw [if_neg htype, readType_of_ne htype, beyond_eq hframe htyped]
    rfl

end

/-- Every position lies in the frame, and the frame is taken apart as it is read. -/
theorem indexed_eq_parse? (frame : Bytes) : indexed frame = .ofOption (parse? frame) := by
  rcases short_or_addressed frame with hshort | ⟨destination, source, rest, hdestination, hsource, hframe⟩
  · rw [parse?_of_short hshort, indexed, if_pos (by omega)]
    rfl
  · have haddresses : (destination ++ source).length = 2 * addressSize := by
      rw [List.length_append, hdestination, hsource, Nat.two_mul]
    have hflat : frame = (destination ++ source) ++ rest := by rw [hframe, List.append_assoc]
    have hlength : frame.length = 2 * addressSize + rest.length := by rw [hflat, List.length_append, haddresses]
    have hfirst : between frame 0 addressSize = .found destination :=
      between_eq (show frame = [] ++ (destination ++ (source ++ rest)) from hframe) rfl (by rw [hdestination, Nat.zero_add])
    have hsecond : between frame addressSize (2 * addressSize) = .found source :=
      between_eq hframe hdestination (by rw [hsource, Nat.two_mul])
    have hparse : parse? frame
        = (readType rest).map fun found => ({ destination, source, etherType := found.1 }, found.2) := by
      rw [hframe, parse?_addressed hdestination hsource]
    rw [hparse, indexed, hlength]
    by_cases hend : rest.length < 2
    · rw [if_pos (by omega), readType, bind_apply, takes_u16.fails rest hend]
      rfl
    · rw [if_neg (by omega), hfirst, Scan.found_bind, hsecond, Scan.found_bind,
        indexedType_eq hflat haddresses (Nat.le_of_not_lt hend)]
      cases readType rest <;> rfl

/-! ### All together -/

/-- A byte string is a frame of the protocol exactly if it is two addresses, the type of the protocol with a tag before
it or without, and the payload.  No byte string makes the unchecked positions run out of it.  What was wrapped is
unwrapped, and read as a broadcast of its source.  A tag that is put in behind the addresses of a frame without one
changes nothing that is read. -/
theorem unwrap?_framed :
    (∀ frame payload, unwrap? frame = some payload
      ↔ ∃ destination source : Bytes, destination.length = 6 ∧ source.length = 6
        ∧ (frame = destination ++ source ++ [0x99, 0xFE] ++ payload
          ∨ ∃ tag : Bytes, tag.length = 2
            ∧ frame = destination ++ source ++ [0x81, 0x00] ++ tag ++ [0x99, 0xFE] ++ payload))
      ∧ (∀ frame, indexed frame ≠ .overrun ∧ indexed frame = .ofOption (parse? frame))
      ∧ (∀ source payload : Bytes, source.length = 6 → unwrap? (wrap source payload) = some payload
        ∧ parse? (wrap source payload)
          = some ({ destination := List.replicate 6 0xFF, source, etherType := 0x99FE }, payload))
      ∧ ∀ frame tag : Bytes, 12 ≤ frame.length → tag.length = 2 → (frame.drop 12).take 2 ≠ [0x81, 0x00] →
        parse? (frame.take 12 ++ [0x81, 0x00] ++ tag ++ frame.drop 12) = parse? frame := by
  refine ⟨fun frame payload => unwrap?_eq_some_iff, fun frame => ⟨?_, indexed_eq_parse? frame⟩,
    fun source payload hsource => ⟨unwrap?_wrap hsource payload, parse?_wrap hsource payload⟩,
    fun frame tag hframe htag htype => parse?_insertTag hframe htag htype⟩
  rw [indexed_eq_parse?]
  cases parse? frame <;> simp [Scan.ofOption]

/-- A frame whose payload begins like a tag. -/
def lookalikeFrame : Bytes := wrap [2, 0, 0, 0, 0, 1] [0x81, 0x00, 0x00, 0x05]

/-- The payload is read behind one tag or none, and it stays as it is. -/
theorem unwrap?_framed_lookalikeFrame :
    unwrap? lookalikeFrame = some [0x81, 0x00, 0x00, 0x05]
      ∧ parse? (lookalikeFrame.take 12 ++ [0x81, 0x00] ++ [0x00, 0x05] ++ lookalikeFrame.drop 12)
        = some ({ destination := [0xFF, 0xFF, 0xFF, 0xFF, 0xFF, 0xFF], source := [2, 0, 0, 0, 0, 1], etherType := 0x99FE },
          [0x81, 0x00, 0x00, 0x05]) := by
  obtain ⟨-, -, hwrap, htag⟩ := unwrap?_framed
  obtain ⟨hunwrap, hparse⟩ := hwrap [2, 0, 0, 0, 0, 1] [0x81, 0x00, 0x00, 0x05] rfl
  exact ⟨hunwrap, (htag lookalikeFrame [0x00, 0x05] (by decide) rfl (by decide)).trans hparse⟩

end CaptureProtocol.Ethernet
