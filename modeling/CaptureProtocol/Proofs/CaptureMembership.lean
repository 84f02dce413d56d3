import CaptureProtocol.Proofs.CaptureInvariant
import Mathlib

/-!
# Interfaces and streams come and go

Adding and removing keeps the invariant of a capture module.

* `CaptureModule.addInterface_eq_ok`, `addStream_eq_ok`, `removeInterface_eq_ok`, `findStream_eq_some` — what each of
  the operations has done where it is accepted;
* `WellKept.addInterface`, `addStream`, `removeStream`, `removeInterface` — the invariant afterwards;
* `WellKept.restream` — one interface gets other streams, which adding and removing a stream have in common;
* `inStep_releaseAll` — the streams of a removed interface give back what they hold one after the other.
-/

namespace CaptureProtocol

namespace CaptureModule

variable {T : Type} {capture after : CaptureModule T} {handle key : Nat}

/-! ### Adding and removing interfaces -/

/-- An interface is added under an identifier that was free. -/
theorem addInterface_eq_ok (htracks : capture.resources.interfaceIds.Tracks capture.interfaceHeld)
    {kind : PayloadType} {requested : Option UInt32} (h : capture.addInterface kind requested = .ok (handle, after)) :
    ∃ id, capture.resources.interfaceIds.covers id = true ∧ id ∉ capture.resources.interfaceIds.used
      ∧ after = { capture with
        resources := { capture.resources with interfaceIds := capture.resources.interfaceIds.occupy id }
        interfaces := capture.interfaces ++ [{ id, kind }]
        listed := capture.listed ++ [capture.interfaces.length] } := by
  rw [addInterface] at h
  cases hkind : kind.isData with
  | false =>
    rw [hkind] at h
    cases h
  | true =>
    rw [hkind] at h
    cases requested with
    | none =>
      cases hallocate : capture.resources.interfaceIds.allocate with
      | error error =>
        simp only [hallocate] at h
        cases h
      | ok granted =>
        obtain ⟨id, pool⟩ := granted
        simp only [hallocate] at h
        cases h
        obtain ⟨hcovers, hfree, rfl⟩ := htracks.allocate_eq_ok hallocate
        exact ⟨id, hcovers, hfree, rfl⟩
    | some id =>
      rcases hadd : capture.resources.interfaceIds.add id with ⟨pool, _ | _⟩
      · simp only [hadd] at h
        cases h
      · simp only [hadd] at h
        cases h
        obtain ⟨hcovers, hfree, rfl⟩ := IdPool.add_eq_true hadd
        exact ⟨id, hcovers, hfree, rfl⟩

theorem streamsAt_of_length_le (h : capture.interfaces.length ≤ handle) : capture.streamsAt handle = [] := by
  rw [streamsAt, List.getElem?_eq_none h]
  rfl

theorem streamsAt_concat {interface : BusInterface} (hempty : interface.streams = [])
    (hinterfaces : after.interfaces = capture.interfaces ++ [interface]) : after.streamsAt = capture.streamsAt := by
  funext other
  rw [streamsAt, hinterfaces]
  rcases lt_trichotomy other capture.interfaces.length with hlt | heq | hgt
  · rw [List.getElem?_append_left hlt, streamsAt]
  · rw [heq, List.getElem?_concat_length, streamsAt_of_length_le le_rfl, Option.map_some, hempty]
    rfl
  · rw [streamsAt_of_length_le hgt.le, List.getElem?_eq_none]
    · rfl
    · rw [List.length_append, List.length_singleton]
      exact hgt

theorem live_concat (hlisted : after.listed = capture.listed ++ [capture.interfaces.length])
    (hstreamsAt : after.streamsAt = capture.streamsAt) (key : Nat) : after.Live key ↔ capture.Live key := by
  rw [Live, Live, hlisted, hstreamsAt]
  constructor
  · rintro ⟨other, hmem, hkey⟩
    rcases List.mem_append.mp hmem with hold | hnew
    · exact ⟨other, hold, hkey⟩
    · rw [List.mem_singleton.mp hnew, streamsAt_of_length_le le_rfl] at hkey
      exact (List.not_mem_nil hkey).elim
  · rintro ⟨other, hmem, hkey⟩
    exact ⟨other, List.mem_append_left _ hmem, hkey⟩

theorem interfaceHeld_concat {interface : BusInterface}
    (hcreated : ∀ {handle}, handle ∈ capture.listed → handle < capture.interfaces.length)
    (hinterfaces : after.interfaces = capture.interfaces ++ [interface])
    (hlisted : after.listed = capture.listed ++ [capture.interfaces.length]) :
    after.interfaceHeld = Function.update capture.interfaceHeld capture.interfaces.length (some interface.id) := by
  funext other
  rw [interfaceHeld, hlisted, hinterfaces]
  by_cases heq : other = capture.interfaces.length
  · rw [heq, if_pos (List.mem_append_right _ (List.mem_singleton_self _)), List.getElem?_concat_length,
      Function.update_self]
    rfl
  · rw [Function.update_of_ne heq, interfaceHeld]
    by_cases hmem : other ∈ capture.listed
    · rw [if_pos (List.mem_append_left _ hmem), if_pos hmem, List.getElem?_append_left (hcreated hmem)]
    · rw [if_neg hmem, if_neg]
      rw [List.mem_append, List.mem_singleton]
      exact not_or.mpr ⟨hmem, heq⟩

theorem WellKept.addInterface (h : capture.WellKept) {kind : PayloadType} {requested : Option UInt32}
    (hadd : capture.addInterface kind requested = .ok (handle, after)) : after.WellKept := by
  obtain ⟨id, hcovers, hfree, hafter⟩ := addInterface_eq_ok h.interfaceIds hadd
  have hinterfaces : after.interfaces = capture.interfaces ++ [{ id := id, kind := kind }] := by rw [hafter]
  have hlisted : after.listed = capture.listed ++ [capture.interfaces.length] := by rw [hafter]
  have hstreams : after.streams = capture.streams := by rw [hafter]
  have hfresh : capture.interfaces.length ∉ capture.listed := fun hmem => (h.listed_created hmem).false
  have hstreamsAt := streamsAt_concat rfl hinterfaces
  refine ⟨?_, fun {_} hmem => ?_, fun other => ?_, fun {_ _} hmem => ?_, ?_, ?_, ?_, ?_, ?_⟩
  · rw [hlisted]
    exact h.listed_nodup.append (List.nodup_singleton _) (List.disjoint_singleton.mpr hfresh)
  · rw [hinterfaces, List.length_append, List.length_singleton]
    rw [hlisted] at hmem
    rcases List.mem_append.mp hmem with hold | hnew
    · exact Nat.lt_succ_of_lt (h.listed_created hold)
    · rw [List.mem_singleton.mp hnew]
      exact Nat.lt_succ_self _
  · rw [hstreamsAt]
    exact h.streams_nodup other
  · rw [hstreamsAt] at hmem
    rw [hstreams]
    exact h.owner hmem
  · rw [interfaceHeld_concat h.listed_created hinterfaces hlisted, hafter]
    refine h.interfaceIds.occupy ?_ hcovers hfree
    rw [interfaceHeld, if_neg hfresh]
  · rw [held_congr (live_concat hlisted hstreamsAt) hstreams, hafter]
    exact ⟨h.inStep.tracks, h.inStep.least, h.inStep.greatest, h.inStep.serves⟩
  · rw [hafter]
    exact h.usable
  · rw [hstreams]
    exact h.settled
  · rw [hafter]
    exact h.device

/-! ### Adding and removing streams -/

theorem modify_eq_set {α : Type} {list : List α} {index : Nat} {value : α} (h : list[index]? = some value)
    (change : α → α) : list.modify index change = list.set index (change value) := by
  have : Inhabited α := ⟨value⟩
  rw [List.modify_eq_set, h]
  rfl

/-- An identifier that the pool of the streams covers fits into one byte. -/
theorem toUInt32_toUInt8_of_covers {pool : IdPool} {id : UInt32} (hgreatest : pool.greatest = 255)
    (hcovers : pool.covers id = true) : id.toUInt8.toUInt32 = id := by
  rw [IdPool.covers, Bool.and_eq_true, decide_eq_true_iff, decide_eq_true_iff, hgreatest, UInt32.le_iff_toNat_le,
    UInt32.le_iff_toNat_le] at hcovers
  have hlast : (255 : UInt32).toNat = 255 := rfl
  rw [← UInt32.toNat_inj, UInt8.toNat_toUInt32, UInt32.toNat_toUInt8]
  omega

/-- A stream is added under an identifier that was free, and its slot is bound. -/
theorem addStream_eq_ok {holder : Nat → Option UInt32} (htracks : capture.resources.streamIds.Tracks holder)
    (hgreatest : capture.resources.streamIds.greatest = 255)
    (hsize : capture.resources.encoders.size = EncoderRack.streamCount) {owner : Nat} {payloadType : PayloadType}
    {requested : Option UInt8} (hadd : capture.addStream owner payloadType requested = .ok (key, after)) :
    ∃ id, capture.resources.streamIds.covers (StreamLabel.pooled ⟨id, payloadType⟩) = true
      ∧ StreamLabel.pooled ⟨id, payloadType⟩ ∉ capture.resources.streamIds.used
      ∧ after = { capture with
        resources := { capture.resources with
          streamIds := capture.resources.streamIds.occupy (StreamLabel.pooled ⟨id, payloadType⟩)
          encoders := capture.resources.encoders.put id.toNat
            (some (StreamLabel.binding capture.resources.deviceId ⟨id, payloadType⟩)) }
        streams := capture.streams ++ [{ owner, id, inlet := { payloadType } }]
        interfaces := capture.interfaces.modify owner fun interface =>
          { interface with streams := interface.streams ++ [capture.streams.length] } } := by
  rw [addStream] at hadd
  cases hdata : payloadType.isData with
  | false =>
    rw [hdata] at hadd
    cases hadd
  | true =>
    rw [hdata] at hadd
    have hbind : ∀ (id : UInt8) (streamIds : IdPool), ({ capture.resources with streamIds }).bindSlot id payloadType
        = .ok { capture.resources with
            streamIds
            encoders := capture.resources.encoders.put id.toNat
              (some (StreamLabel.binding capture.resources.deviceId ⟨id, payloadType⟩)) } :=
      fun id streamIds => LinkResources.bindSlot_ok (by exact hsize) id payloadType
    cases requested with
    | none =>
      cases hallocate : capture.resources.streamIds.allocate with
      | error error =>
        simp only [hallocate] at hadd
        cases hadd
      | ok granted =>
        obtain ⟨pooled, pool⟩ := granted
        obtain ⟨hcovers, hfree, rfl⟩ := htracks.allocate_eq_ok hallocate
        have hpooled : pooled.toUInt8.toUInt32 = pooled := toUInt32_toUInt8_of_covers hgreatest hcovers
        rw [hallocate] at hadd
        change (LinkResources.bindSlot _ pooled.toUInt8 payloadType >>= _) = _ at hadd
        rw [hbind] at hadd
        cases hadd
        refine ⟨pooled.toUInt8, ?_, ?_, ?_⟩ <;> rw [StreamLabel.pooled, hpooled]
        · exact hcovers
        · exact hfree
    | some id =>
      rcases hgrant : capture.resources.streamIds.add id.toUInt32 with ⟨pool, _ | _⟩
      · simp only [hgrant] at hadd
        cases hadd
      · obtain ⟨hcovers, hfree, rfl⟩ := IdPool.add_eq_true hgrant
        simp only [hgrant] at hadd
        change (LinkResources.bindSlot _ id payloadType >>= _) = _ at hadd
        rw [hbind] at hadd
        cases hadd
        exact ⟨id, hcovers, hfree, rfl⟩

/-- A live stream belongs to one interface only. -/
theorem WellKept.owner_unique (h : capture.WellKept) {first second : Nat} (hfirst : key ∈ capture.streamsAt first)
    (hsecond : key ∈ capture.streamsAt second) : first = second := by
  obtain ⟨stream, hstream, rfl⟩ := h.owner hfirst
  obtain ⟨found, hfound, rfl⟩ := h.owner hsecond
  rw [hstream, Option.some.injEq] at hfound
  rw [hfound]

theorem WellKept.lt_length (h : capture.WellKept) (hmem : key ∈ capture.streamsAt handle) :
    key < capture.streams.length := by
  obtain ⟨stream, hstream, -⟩ := h.owner hmem
  exact (List.getElem?_eq_some_iff.mp hstream).1

theorem WellKept.live_streamsAt (h : capture.WellKept) (hlisted : handle ∈ capture.listed) {keys : List Nat}
    (hsame : after.listed = capture.listed)
    (hstreamsAt : after.streamsAt = Function.update capture.streamsAt handle keys) :
    after.Live key ↔ key ∈ keys ∨ (capture.Live key ∧ key ∉ capture.streamsAt handle) := by
  rw [Live, hsame, hstreamsAt]
  constructor
  · rintro ⟨other, hother, hmem⟩
    by_cases heq : other = handle
    · subst heq
      rw [Function.update_self] at hmem
      exact .inl hmem
    · rw [Function.update_of_ne heq] at hmem
      exact .inr ⟨⟨other, hother, hmem⟩, fun hown => heq (h.owner_unique hmem hown)⟩
  · rintro (hmem | ⟨⟨other, hother, hmem⟩, hown⟩)
    · exact ⟨handle, hlisted, by rwa [Function.update_self]⟩
    · refine ⟨other, hother, ?_⟩
      rwa [Function.update_of_ne]
      rintro rfl
      exact hown hmem

/-- One interface gets other streams, and the shared parts are in step again. -/
theorem WellKept.restream (h : capture.WellKept) (hlisted : handle ∈ capture.listed) {interface : BusInterface}
    (hfound : capture.interfaces[handle]? = some interface) {keys : List Nat} (hsame : after.listed = capture.listed)
    (hinterfaces : after.interfaces = capture.interfaces.set handle { interface with streams := keys })
    (hkept : ∀ {key : Nat} {stream}, capture.streams[key]? = some stream → after.streams[key]? = some stream)
    (hnodup : keys.Nodup) (howner : ∀ key ∈ keys, ∃ stream, after.streams[key]? = some stream ∧ stream.owner = handle)
    (hpool : after.resources.interfaceIds = capture.resources.interfaceIds)
    (hinStep : after.resources.InStep after.held) (husable : after.resources.limits.Usable)
    (hsettled : ∀ stream ∈ after.streams, stream.inlet.Settled)
    (hdevice : after.resources.deviceId = after.device.deviceId) : after.WellKept := by
  have hcreated := h.listed_created hlisted
  have hstreamsAt := streamsAt_set _ hcreated hinterfaces
  refine ⟨by rw [hsame]; exact h.listed_nodup, fun {_} hother => ?_, fun other => ?_, fun {other key} hmem => ?_, ?_,
    hinStep, husable, hsettled, hdevice⟩
  · rw [hinterfaces, List.length_set]
    rw [hsame] at hother
    exact h.listed_created hother
  · rw [hstreamsAt]
    by_cases heq : other = handle
    · rw [heq, Function.update_self]
      exact hnodup
    · rw [Function.update_of_ne heq]
      exact h.streams_nodup other
  · rw [hstreamsAt] at hmem
    by_cases heq : other = handle
    · rw [heq, Function.update_self] at hmem
      rw [heq]
      exact howner key hmem
    · rw [Function.update_of_ne heq] at hmem
      obtain ⟨stream, hstream, hother⟩ := h.owner hmem
      exact ⟨stream, hkept hstream, hother⟩
  · have hheld : capture.interfaceHeld handle = some interface.id :=
      interfaceHeld_eq_some.mpr ⟨hlisted, interface, hfound, rfl⟩
    rw [interfaceHeld_set _ hcreated hlisted hinterfaces hsame, hpool, ← hheld, Function.update_eq_self]
    exact h.interfaceIds

/-- A stream that comes last holds its label, and all others hold what they held. -/
theorem held_grow {stream : CaptureStream}
    (hlive : ∀ key, after.Live key ↔ capture.Live key ∨ key = capture.streams.length)
    (hcreated : ∀ {key}, capture.Live key → key < capture.streams.length)
    (hstreams : after.streams = capture.streams ++ [stream]) :
    after.held = Function.update capture.held capture.streams.length (some stream.label) := by
  funext key
  by_cases hnew : key = capture.streams.length
  · rw [held, if_pos ((hlive key).mpr (.inr hnew)), hstreams, hnew, List.getElem?_concat_length, Function.update_self,
      Option.map_some]
  · rw [Function.update_of_ne hnew, held, held]
    by_cases hold : capture.Live key
    · rw [if_pos ((hlive key).mpr (.inl hold)), if_pos hold, hstreams, List.getElem?_append_left (hcreated hold)]
    · rw [if_neg (mt (hlive key).mp (not_or.mpr ⟨hold, hnew⟩)), if_neg hold]

theorem WellKept.addStream (h : capture.WellKept) (hlisted : handle ∈ capture.listed) {payloadType : PayloadType}
    {requested : Option UInt8} (hadd : capture.addStream handle payloadType requested = .ok (key, after)) :
    after.WellKept := by
  obtain ⟨id, hcovers, hfree, hafter⟩ := addStream_eq_ok h.inStep.tracks h.inStep.greatest h.inStep.serves.size hadd
  obtain ⟨interface, hfound, -⟩ := h.listed hlisted
  have hkeys := streamsAt_of_getElem? hfound
  have hsame : after.listed = capture.listed := by rw [hafter]
  have hstreams : after.streams
      = capture.streams ++ [{ owner := handle, id := id, inlet := { payloadType := payloadType } }] := by rw [hafter]
  have hinterfaces : after.interfaces = capture.interfaces.set handle
      { interface with streams := interface.streams ++ [capture.streams.length] } := by
    rw [hafter, modify_eq_set hfound]
  have hfresh : ∀ other, capture.streams.length ∉ capture.streamsAt other := fun other hmem => (h.lt_length hmem).false
  have hlive : ∀ known, after.Live known ↔ capture.Live known ∨ known = capture.streams.length := by
    intro known
    rw [h.live_streamsAt hlisted hsame (streamsAt_set _ (h.listed_created hlisted) hinterfaces), hkeys, List.mem_append,
      List.mem_singleton]
    constructor
    · rintro ((hold | hnew) | ⟨hold, -⟩)
      · exact .inl ⟨handle, hlisted, by rwa [hkeys]⟩
      · exact .inr hnew
      · exact .inl hold
    · rintro (hold | hnew)
      · by_cases hmem : known ∈ interface.streams
        · exact .inl (.inl hmem)
        · exact .inr ⟨hold, hmem⟩
      · exact .inl (.inr hnew)
  have hheld : after.held = Function.update capture.held capture.streams.length (some ⟨id, payloadType⟩) := by
    refine held_grow hlive ?_ hstreams
    rintro known ⟨other, -, hmem⟩
    exact h.lt_length hmem
  have hkept : ∀ {key : Nat} {stream}, capture.streams[key]? = some stream → after.streams[key]? = some stream := by
    intro key stream hstream
    rw [hstreams, List.getElem?_append_left (List.getElem?_eq_some_iff.mp hstream).1, hstream]
  refine h.restream hlisted hfound hsame hinterfaces hkept ?_ ?_ (by rw [hafter]) ?_ (by rw [hafter]; exact h.usable) ?_
    (by rw [hafter]; exact h.device)
  · rw [← hkeys]
    exact (h.streams_nodup handle).append (List.nodup_singleton _) (List.disjoint_singleton.mpr (hfresh handle))
  · intro known hknown
    rcases List.mem_append.mp hknown with hold | hnew
    · rw [← hkeys] at hold
      obtain ⟨stream, hstream, howner⟩ := h.owner hold
      exact ⟨stream, hkept hstream, howner⟩
    · rw [List.mem_singleton.mp hnew, hstreams, List.getElem?_concat_length]
      exact ⟨_, rfl, rfl⟩
  · rw [hheld, hafter]
    refine h.inStep.add ?_ hcovers hfree
    rw [held, if_neg]
    rintro ⟨other, -, hother⟩
    exact hfresh other hother
  · rw [hstreams]
    intro stream hstream
    rcases List.mem_append.mp hstream with hold | hnew
    · exact h.settled stream hold
    · rw [List.mem_singleton.mp hnew]
      exact SignalInlet.settled_of_state SignalState.noConfusion

/-- Streams that are gone hold nothing. -/
theorem held_without {gone : List Nat} (hlive : ∀ key, after.Live key ↔ capture.Live key ∧ key ∉ gone)
    (hstreams : after.streams = capture.streams) :
    after.held = fun key => if key ∈ gone then none else capture.held key := by
  funext key
  by_cases hgone : key ∈ gone
  · rw [if_pos hgone, held, if_neg fun hnew => ((hlive key).mp hnew).2 hgone]
  · rw [if_neg hgone, held, held, hstreams]
    exact if_congr ((hlive key).trans (and_iff_left hgone)) rfl rfl

/-- A stream that is found under an identifier belongs to the interface and has that identifier. -/
theorem findStream_eq_some {interface : BusInterface} {id : UInt8} (h : capture.findStream interface id = some key) :
    key ∈ interface.streams ∧ ∃ stream, capture.streams[key]? = some stream ∧ stream.id = id := by
  refine ⟨List.mem_of_find?_eq_some h, ?_⟩
  have hid := List.find?_some h
  obtain ⟨stream, hstream, hmatch⟩ := (Option.any_eq_true _ _).mp hid
  exact ⟨stream, hstream, beq_iff_eq.mp hmatch⟩

theorem WellKept.removeStream (h : capture.WellKept) (hlisted : handle ∈ capture.listed) {id : UInt8}
    (hremove : capture.removeStream handle id = .ok after) : after.WellKept := by
  obtain ⟨interface, hfound, -⟩ := h.listed hlisted
  have hkeys := streamsAt_of_getElem? hfound
  rw [CaptureModule.removeStream, hfound, Option.bind_some] at hremove
  cases hsearch : capture.findStream interface id with
  | none =>
    rw [hsearch] at hremove
    cases hremove
  | some gone =>
    rw [hsearch] at hremove
    obtain ⟨hmem, stream, hstream, rfl⟩ := findStream_eq_some hsearch
    have hafter := (Except.ok.inj hremove).symm
    have hsame : after.listed = capture.listed := by rw [hafter]
    have hstreams : after.streams = capture.streams := by rw [hafter]
    have hinterfaces : after.interfaces = capture.interfaces.set handle
        { interface with streams := interface.streams.erase gone } := by
      rw [hafter, modify_eq_set hfound]
    have hnodup : interface.streams.Nodup := hkeys ▸ h.streams_nodup handle
    have hlive : ∀ known, after.Live known ↔ capture.Live known ∧ known ≠ gone := by
      intro known
      rw [h.live_streamsAt hlisted hsame (streamsAt_set _ (h.listed_created hlisted) hinterfaces), hkeys,
        hnodup.mem_erase_iff]
      constructor
      · rintro (⟨hne, hold⟩ | ⟨hold, hother⟩)
        · exact ⟨⟨handle, hlisted, by rwa [hkeys]⟩, hne⟩
        · exact ⟨hold, fun heq => hother (heq ▸ hmem)⟩
      · rintro ⟨hold, hne⟩
        by_cases hknown : known ∈ interface.streams
        · exact .inl ⟨hne, hknown⟩
        · exact .inr ⟨hold, hknown⟩
    have hheld : after.held = Function.update capture.held gone none := by
      have hwithout : ∀ known, after.Live known ↔ capture.Live known ∧ known ∉ [gone] := by
        intro known
        rw [List.mem_singleton]
        exact hlive known
      funext known
      rw [held_without hwithout hstreams, Function.update_apply]
      exact if_congr List.mem_singleton rfl rfl
    have hgone : capture.held gone = some stream.label :=
      held_eq_some.mpr ⟨⟨handle, hlisted, by rwa [hkeys]⟩, stream, hstream, rfl⟩
    refine h.restream hlisted hfound hsame hinterfaces (by rw [hstreams]; exact fun hold => hold) (hnodup.erase gone) ?_
      (by rw [hafter]; rfl) ?_ (by rw [hafter]; exact h.usable) (by rw [hstreams]; exact h.settled)
      (by rw [hafter]; exact h.device)
    · intro known hknown
      rw [hstreams]
      refine h.owner ?_
      rw [hkeys]
      exact List.mem_of_mem_erase hknown
    · rw [hheld, hafter]
      exact h.inStep.remove hgone

/-! ### Removing interfaces -/

theorem releaseAll_rest (resources : LinkResources T) (streams : List CaptureStream) :
    (releaseAll resources streams).interfaceIds = resources.interfaceIds
      ∧ (releaseAll resources streams).limits = resources.limits
      ∧ (releaseAll resources streams).deviceId = resources.deviceId := by
  induction streams generalizing resources with
  | nil => exact ⟨rfl, rfl, rfl⟩
  | cons stream streams ih => exact ih (resources.releaseStream stream.id)

/-- Streams give their slots and identifiers back one after the other. -/
theorem inStep_releaseAll {resources : LinkResources T} {held : Nat → Option StreamLabel} {streams : List CaptureStream}
    {keys : List Nat} (h : resources.InStep held) (hnodup : keys.Nodup)
    (hheld : ∀ key ∈ keys, ∃ stream, streams[key]? = some stream ∧ held key = some stream.label) :
    (releaseAll resources (keys.filterMap (streams[·]?))).InStep fun key => if key ∈ keys then none else held key := by
  induction keys generalizing resources held with
  | nil =>
    simp only [List.not_mem_nil, if_false]
    exact h
  | cons key keys ih =>
    obtain ⟨hfresh, hrest⟩ := List.nodup_cons.mp hnodup
    obtain ⟨stream, hstream, hkey⟩ := hheld key (List.mem_cons_self ..)
    rw [List.filterMap_cons_some hstream]
    have hnext := ih (h.remove hkey) hrest fun other hother => by
      rw [Function.update_of_ne (ne_of_mem_of_not_mem hother hfresh)]
      exact hheld other (List.mem_cons_of_mem _ hother)
    have hsame : (fun other => if other ∈ keys then none else Function.update held key none other)
        = fun other => if other ∈ key :: keys then none else held other := by
      funext other
      by_cases heq : other = key
      · rw [heq, Function.update_self, ite_self, if_pos (List.mem_cons_self ..)]
      · rw [Function.update_of_ne heq]
        exact if_congr (by rw [List.mem_cons, or_iff_right heq]) rfl rfl
    rw [hsame] at hnext
    exact hnext

theorem removeInterface_eq_ok {id : UInt32} (h : capture.removeInterface id = .ok after) :
    ∃ handle interface, handle ∈ capture.listed ∧ capture.interfaces[handle]? = some interface ∧ interface.id = id
      ∧ after = { capture with
        resources := { releaseAll capture.resources (capture.streamsOf interface) with
          interfaceIds := ((releaseAll capture.resources (capture.streamsOf interface)).interfaceIds.remove id).1 }
        interfaces := capture.interfaces.set handle { interface with streams := [] }
        listed := capture.listed.erase handle } := by
  rw [removeInterface] at h
  cases hsearch : capture.findInterface id with
  | none =>
    rw [hsearch] at h
    cases h
  | some handle =>
    rw [hsearch] at h
    have hid := List.find?_some hsearch
    obtain ⟨interface, hfound, hmatch⟩ := (Option.any_eq_true _ _).mp hid
    dsimp only at h
    rw [hfound] at h
    exact ⟨handle, interface, List.mem_of_find?_eq_some hsearch, hfound, beq_iff_eq.mp hmatch, (Except.ok.inj h).symm⟩

theorem WellKept.live_erase (h : capture.WellKept) (herased : after.listed = capture.listed.erase handle)
    {keys : List Nat} (hstreamsAt : after.streamsAt = Function.update capture.streamsAt handle keys) (key : Nat) :
    after.Live key ↔ capture.Live key ∧ key ∉ capture.streamsAt handle := by
  rw [Live, herased, hstreamsAt]
  constructor
  · rintro ⟨other, hother, hmem⟩
    obtain ⟨hne, hother⟩ := h.listed_nodup.mem_erase_iff.mp hother
    rw [Function.update_of_ne hne] at hmem
    exact ⟨⟨other, hother, hmem⟩, fun hown => hne (h.owner_unique hmem hown)⟩
  · rintro ⟨⟨other, hother, hmem⟩, hown⟩
    have hne : other ≠ handle := fun heq => hown (heq ▸ hmem)
    refine ⟨other, h.listed_nodup.mem_erase_iff.mpr ⟨hne, hother⟩, ?_⟩
    rwa [Function.update_of_ne hne]

theorem interfaceHeld_erase {next : BusInterface} (hnodup : capture.listed.Nodup)
    (herased : after.listed = capture.listed.erase handle)
    (hinterfaces : after.interfaces = capture.interfaces.set handle next) :
    after.interfaceHeld = Function.update capture.interfaceHeld handle none := by
  funext other
  rw [interfaceHeld, herased, hinterfaces]
  by_cases heq : other = handle
  · rw [heq, Function.update_self, if_neg fun hmem => (hnodup.mem_erase_iff.mp hmem).1 rfl]
  · rw [Function.update_of_ne heq, interfaceHeld, List.getElem?_set_ne (Ne.symm heq)]
    exact if_congr (List.mem_erase_of_ne heq) rfl rfl

theorem WellKept.removeInterface (h : capture.WellKept) {id : UInt32}
    (hremove : capture.removeInterface id = .ok after) : after.WellKept := by
  obtain ⟨handle, interface, hlisted, hfound, rfl, hafter⟩ := removeInterface_eq_ok hremove
  have hcreated := h.listed_created hlisted
  have hkeys := streamsAt_of_getElem? hfound
  obtain ⟨hpool, hlimits, hdevice⟩ := releaseAll_rest capture.resources (capture.streamsOf interface)
  have herased : after.listed = capture.listed.erase handle := by rw [hafter]
  have hstreams : after.streams = capture.streams := by rw [hafter]
  have hinterfaces : after.interfaces = capture.interfaces.set handle { interface with streams := [] } := by rw [hafter]
  have hstreamsAt := streamsAt_set _ hcreated hinterfaces
  have hlive : ∀ key, after.Live key ↔ capture.Live key ∧ key ∉ interface.streams := by
    rw [← hkeys]
    exact h.live_erase herased hstreamsAt
  have hheld := held_without hlive hstreams
  have hinterfaceHeld := interfaceHeld_erase h.listed_nodup herased hinterfaces
  have hid : capture.interfaceHeld handle = some interface.id :=
    interfaceHeld_eq_some.mpr ⟨hlisted, interface, hfound, rfl⟩
  refine ⟨by rw [herased]; exact h.listed_nodup.erase handle, fun {_} hother => ?_, fun other => ?_,
    fun {other key} hmem => ?_, ?_, ?_, ?_, by rw [hstreams]; exact h.settled, ?_⟩
  · rw [hinterfaces, List.length_set]
    rw [herased] at hother
    exact h.listed_created (List.mem_of_mem_erase hother)
  · rw [hstreamsAt]
    by_cases heq : other = handle
    · rw [heq, Function.update_self]
      exact List.nodup_nil
    · rw [Function.update_of_ne heq]
      exact h.streams_nodup other
  · rw [hstreamsAt] at hmem
    rw [hstreams]
    by_cases heq : other = handle
    · rw [heq, Function.update_self] at hmem
      exact (List.not_mem_nil hmem).elim
    · rw [Function.update_of_ne heq] at hmem
      exact h.owner hmem
  · rw [hinterfaceHeld, hafter]
    dsimp only
    rw [hpool]
    exact h.interfaceIds.remove hid
  · rw [hheld, hafter]
    have hreleased : (releaseAll capture.resources (capture.streamsOf interface)).InStep _ :=
      inStep_releaseAll h.inStep (hkeys ▸ h.streams_nodup handle) fun key hmem =>
        h.live ⟨handle, hlisted, by rwa [hkeys]⟩
    exact ⟨hreleased.tracks, hreleased.least, hreleased.greatest, hreleased.serves⟩
  · rw [hafter]
    dsimp only
    rw [hlimits]
    exact h.usable
  · rw [hafter]
    exact hdevice.trans h.device

end CaptureModule

end CaptureProtocol
