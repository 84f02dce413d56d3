import CaptureProtocol.Capture.Resources
import Mathlib

/-!
# Who holds which identifier and which encoder slot

A pool of identifiers and a rack of encoders say nothing about who uses them.  Here they are compared with a map from
keys to what each key holds.

* `IdPool.Tracks` — the identifiers in use are those that the keys hold, each held once; it is kept by `occupy`,
  `remove` and `replace`, and what `next?` hands out is free;
* `EncoderRack.binding` — what a slot is bound to, whatever its frames are numbered;
* `LinkResources.InStep` — the stream identifiers and the slots are those of the streams that are in use;
* `InStep.add`, `InStep.remove`, `InStep.retype`, `InStep.move` — the four changes of a stream.
-/

namespace CaptureProtocol

/-! ### Identifiers -/

namespace IdSet

theorem le_firstGap (start : Nat) (ids : IdSet) : start ≤ firstGap start ids := by
  induction ids generalizing start with
  | nil => exact le_rfl
  | cons head tail ih =>
    rw [firstGap]
    split
    · exact ih start
    · split
      · exact (Nat.le_succ start).trans (ih (start + 1))
      · exact le_rfl

theorem ne_firstGap {ids : IdSet} (hascending : ids.Pairwise (· < ·)) (start : Nat) :
    ∀ id ∈ ids, id.toNat ≠ firstGap start ids := by
  induction ids generalizing start with
  | nil => exact List.forall_mem_nil _
  | cons head tail ih =>
    obtain ⟨hhead, htail⟩ := List.pairwise_cons.mp hascending
    rw [firstGap]
    split
    · rename_i hbelow
      have hgap := le_firstGap start tail
      exact List.forall_mem_cons.mpr ⟨by omega, ih htail start⟩
    · split
      · have hgap := le_firstGap (start + 1) tail
        exact List.forall_mem_cons.mpr ⟨by omega, ih htail (start + 1)⟩
      · refine List.forall_mem_cons.mpr ⟨by omega, fun id hid => ?_⟩
        have hlater := UInt32.lt_iff_toNat_lt.mp (hhead id hid)
        omega

end IdSet

namespace IdPool

variable {pool : IdPool} {holder : Nat → Option UInt32} {key : Nat} {id other : UInt32}

theorem inUse_iff : pool.inUse id = true ↔ id ∈ pool.used := List.contains_iff_mem

theorem mem_used_occupy : other ∈ (pool.occupy id).used ↔ other = id ∨ other ∈ pool.used := IdSet.mem_insert

theorem mem_recycled_occupy : other ∈ (pool.occupy id).recycled ↔ other ∈ pool.recycled ∧ other ≠ id :=
  IdSet.mem_remove

theorem remove_of_mem (h : id ∈ pool.used) : (pool.remove id).1
    = { pool with used := pool.used.remove id, recycled := pool.recycled.insert id } := by
  rw [remove, if_pos (inUse_iff.mpr h)]

theorem remove_of_notMem (h : id ∉ pool.used) : (pool.remove id).1 = pool := by
  rw [remove, if_neg (mt inUse_iff.mp h)]

/-- The identifiers in use are those that the keys hold, and no two keys hold the same one.  Those that were given back
are free. -/
structure Tracks (pool : IdPool) (holder : Nat → Option UInt32) : Prop where
  ascending : pool.used.Pairwise (· < ·)
  held : ∀ {id}, id ∈ pool.used ↔ ∃ key, holder key = some id
  unique : ∀ {key other id}, holder key = some id → holder other = some id → key = other
  covered : ∀ {id}, id ∈ pool.used → pool.covers id = true
  recycled : ∀ {id}, id ∈ pool.recycled → pool.covers id = true ∧ id ∉ pool.used

theorem tracks_upTo (greatest : UInt32) (zero : ZeroRule) : (upTo greatest zero).Tracks fun _ => none where
  ascending := List.Pairwise.nil
  held := ⟨fun h => (List.not_mem_nil h).elim, fun ⟨_, h⟩ => by cases h⟩
  unique h := by cases h
  covered h := (List.not_mem_nil h).elim
  recycled h := (List.not_mem_nil h).elim

/-- What the pool hands out lies in its range and is free. -/
theorem Tracks.next?_eq_some (htracks : pool.Tracks holder) (h : pool.next? = some id) :
    pool.covers id = true ∧ id ∉ pool.used := by
  rw [next?] at h
  split at h
  · rename_i first rest hrecycled
    cases h
    exact htracks.recycled (by rw [hrecycled]; exact List.mem_cons_self ..)
  · dsimp only at h
    split at h
    · rename_i hgap
      cases h
      have hleast := IdSet.le_firstGap pool.least.toNat pool.used
      have hlimit := pool.greatest.toNat_lt
      have hid : (UInt32.ofNat (IdSet.firstGap pool.least.toNat pool.used)).toNat
          = IdSet.firstGap pool.least.toNat pool.used := by
        rw [UInt32.toNat_ofNat', Nat.mod_eq_of_lt (by omega)]
      refine ⟨?_, fun hused => IdSet.ne_firstGap htracks.ascending _ _ hused hid⟩
      rw [covers, Bool.and_eq_true, decide_eq_true_iff, decide_eq_true_iff, UInt32.le_iff_toNat_le,
        UInt32.le_iff_toNat_le, hid]
      exact ⟨hleast, hgap⟩
    · cases h

theorem Tracks.allocate_eq_ok {after : IdPool} (htracks : pool.Tracks holder) (h : pool.allocate = .ok (id, after)) :
    pool.covers id = true ∧ id ∉ pool.used ∧ after = pool.occupy id := by
  rw [allocate] at h
  cases hnext : pool.next? with
  | none =>
    rw [hnext] at h
    cases h
  | some next =>
    rw [hnext] at h
    cases h
    obtain ⟨hcovers, hfree⟩ := htracks.next?_eq_some hnext
    exact ⟨hcovers, hfree, rfl⟩

theorem add_eq_true {after : IdPool} (h : pool.add id = (after, true)) :
    pool.covers id = true ∧ id ∉ pool.used ∧ after = pool.occupy id := by
  rw [add] at h
  split at h
  · rename_i hfree
    cases h
    rw [Bool.and_eq_true, Bool.not_eq_true', ← Bool.not_eq_true, inUse_iff] at hfree
    exact ⟨hfree.1, hfree.2, rfl⟩
  · cases h

/-- A key that held nothing takes a free identifier. -/
theorem Tracks.occupy (htracks : pool.Tracks holder) (hkey : holder key = none) (hcovers : pool.covers id = true)
    (hfree : id ∉ pool.used) : (pool.occupy id).Tracks (Function.update holder key (some id)) where
  ascending := IdSet.pairwise_insert htracks.ascending
  held := by
    intro other
    rw [mem_used_occupy, htracks.held]
    constructor
    · rintro (rfl | ⟨holding, hheld⟩)
      · exact ⟨key, Function.update_self ..⟩
      · refine ⟨holding, ?_⟩
        rw [Function.update_of_ne, hheld]
        rintro rfl
        rw [hkey] at hheld
        cases hheld
    · rintro ⟨holding, hheld⟩
      by_cases hsame : holding = key
      · subst hsame
        rw [Function.update_self, Option.some.injEq] at hheld
        exact .inl hheld.symm
      · rw [Function.update_of_ne hsame] at hheld
        exact .inr ⟨holding, hheld⟩
  unique := by
    intro first second shared hfirst hsecond
    have hnew : ∀ {holding}, holding ≠ key → holder holding ≠ some id := fun _ hheld =>
      hfree (htracks.held.mpr ⟨_, hheld⟩)
    by_cases h1 : first = key <;> by_cases h2 : second = key
    · rw [h1, h2]
    · rw [h1, Function.update_self, Option.some.injEq] at hfirst
      rw [Function.update_of_ne h2, ← hfirst] at hsecond
      exact (hnew h2 hsecond).elim
    · rw [h2, Function.update_self, Option.some.injEq] at hsecond
      rw [Function.update_of_ne h1, ← hsecond] at hfirst
      exact (hnew h1 hfirst).elim
    · rw [Function.update_of_ne h1] at hfirst
      rw [Function.update_of_ne h2] at hsecond
      exact htracks.unique hfirst hsecond
  covered := by
    intro other hused
    rcases mem_used_occupy.mp hused with rfl | hold
    · exact hcovers
    · exact htracks.covered hold
  recycled := by
    intro other hrecycled
    obtain ⟨hold, hne⟩ := mem_recycled_occupy.mp hrecycled
    obtain ⟨hother, hunused⟩ := htracks.recycled hold
    refine ⟨hother, fun hused => ?_⟩
    rcases mem_used_occupy.mp hused with h | h
    · exact hne h
    · exact hunused h

/-- A key gives its identifier back. -/
theorem Tracks.remove (htracks : pool.Tracks holder) (hkey : holder key = some id) :
    (pool.remove id).1.Tracks (Function.update holder key none) := by
  rw [remove_of_mem (htracks.held.mpr ⟨key, hkey⟩)]
  refine ⟨IdSet.pairwise_remove htracks.ascending, ?_, ?_, ?_, ?_⟩
  · intro other
    rw [IdSet.mem_remove, htracks.held]
    constructor
    · rintro ⟨⟨holding, hheld⟩, hne⟩
      refine ⟨holding, ?_⟩
      rw [Function.update_of_ne, hheld]
      rintro rfl
      rw [hkey, Option.some.injEq] at hheld
      exact hne hheld.symm
    · rintro ⟨holding, hheld⟩
      by_cases hsame : holding = key
      · rw [hsame, Function.update_self] at hheld
        cases hheld
      · rw [Function.update_of_ne hsame] at hheld
        refine ⟨⟨holding, hheld⟩, ?_⟩
        rintro rfl
        exact hsame (htracks.unique hheld hkey)
  · intro first second shared hfirst hsecond
    have hkept : ∀ {holding}, Function.update holder key none holding = some shared → holder holding = some shared := by
      intro holding hheld
      by_cases hsame : holding = key
      · rw [hsame, Function.update_self] at hheld
        cases hheld
      · rwa [Function.update_of_ne hsame] at hheld
    exact htracks.unique (hkept hfirst) (hkept hsecond)
  · intro other hused
    exact htracks.covered (IdSet.mem_remove.mp hused).1
  · intro other hrecycled
    rcases IdSet.mem_insert.mp hrecycled with rfl | hold
    · exact ⟨htracks.covered (htracks.held.mpr ⟨key, hkey⟩), fun hused => (IdSet.mem_remove.mp hused).2 rfl⟩
    · obtain ⟨hother, hunused⟩ := htracks.recycled hold
      exact ⟨hother, fun hused => hunused (IdSet.mem_remove.mp hused).1⟩

theorem Tracks.of_mem {other : IdPool} (htracks : pool.Tracks holder) (hascending : other.used.Pairwise (· < ·))
    (hused : ∀ id, id ∈ other.used ↔ id ∈ pool.used) (hrecycled : ∀ id ∈ other.recycled, id ∈ pool.recycled)
    (hcovers : other.covers = pool.covers) : other.Tracks holder where
  ascending := hascending
  held := (hused _).trans htracks.held
  unique := htracks.unique
  covered h := by
    rw [hcovers]
    exact htracks.covered ((hused _).mp h)
  recycled h := by
    obtain ⟨hcovered, hfree⟩ := htracks.recycled (hrecycled _ h)
    exact ⟨by rwa [hcovers], mt (hused _).mp hfree⟩

/-- Where a new identifier takes the place of another one, it was free. -/
theorem replace_eq_ok {old new : UInt32} {after : IdPool} (h : pool.replace old new = .ok after) :
    (old = new ∧ after = pool)
      ∨ (old ≠ new ∧ pool.covers new = true ∧ new ∉ pool.used ∧ after = ((pool.occupy new).remove old).1) := by
  rw [replace] at h
  split_ifs at h with hsame hcovers hused
  · cases h
    exact .inl ⟨hsame, rfl⟩
  · cases h
    rw [Bool.not_eq_true', Bool.not_eq_false] at hcovers
    exact .inr ⟨hsame, hcovers, mt inUse_iff.mpr hused, rfl⟩

/-- A key exchanges its identifier for a free one.  The pool takes the new one first, which makes no difference. -/
theorem Tracks.exchange {old new : UInt32} (htracks : pool.Tracks holder) (hkey : holder key = some old)
    (hne : old ≠ new) (hcovers : pool.covers new = true) (hfree : new ∉ pool.used) :
    ((pool.occupy new).remove old).1.Tracks (Function.update holder key (some new)) := by
  have hold : old ∈ pool.used := htracks.held.mpr ⟨key, hkey⟩
  have hback : ((pool.remove old).1.occupy new).Tracks (Function.update holder key (some new)) := by
    have htwice : Function.update (Function.update holder key none) key (some new)
        = Function.update holder key (some new) := Function.update_idem ..
    rw [← htwice]
    refine (htracks.remove hkey).occupy (Function.update_self ..) ?_ ?_
    · rwa [remove_of_mem hold]
    · rw [remove_of_mem hold, IdSet.mem_remove]
      exact fun h => hfree h.1
  rw [remove_of_mem (mem_used_occupy.mpr (.inr hold))]
  rw [remove_of_mem hold] at hback
  refine hback.of_mem ?_ ?_ ?_ rfl
  · exact IdSet.pairwise_remove (IdSet.pairwise_insert htracks.ascending)
  · intro id
    show id ∈ IdSet.remove old (IdSet.insert new pool.used) ↔ id ∈ IdSet.insert new (IdSet.remove old pool.used)
    rw [IdSet.mem_remove, IdSet.mem_insert, IdSet.mem_insert, IdSet.mem_remove, or_and_right]
    exact or_congr_left (and_iff_left_of_imp fun h => h ▸ hne.symm)
  · intro id hid
    show id ∈ IdSet.remove new (IdSet.insert old pool.recycled)
    rw [IdSet.mem_remove, IdSet.mem_insert]
    rcases IdSet.mem_insert.mp hid with rfl | hrest
    · exact ⟨.inl rfl, hne⟩
    · obtain ⟨hmem, hother⟩ := IdSet.mem_remove.mp hrest
      exact ⟨.inr hmem, hother⟩

end IdPool

/-! ### Encoder slots -/

/-- What an encoder is bound to, whatever its next frame is numbered. -/
def Encoder.binding (encoder : Encoder) : Encoder := { encoder with sequence := 0 }

theorem Encoder.encode_binding (encoder : Encoder) (limits : FrameLimits) (packets : List Packet) :
    (encoder.encode limits packets).1.binding = encoder.binding := by
  rw [encode]
  split <;> rfl

namespace EncoderRack

variable {rack : EncoderRack} {slot other : Nat}

/-- What a slot is bound to, whatever its frames are numbered. -/
def binding (rack : EncoderRack) (slot : Nat) : Option Encoder := (rack.encoder? slot).map Encoder.binding

@[simp] theorem size_put (encoder : Option Encoder) : (rack.put slot encoder).size = rack.size := List.length_set

theorem encoder?_put (h : slot < rack.size) (encoder : Option Encoder) :
    (rack.put slot encoder).encoder? other = if other = slot then encoder else rack.encoder? other := by
  have hset : slot < rack.slots.length := h
  rw [encoder?, put, List.getElem?_set]
  by_cases hsame : other = slot
  · rw [if_pos hsame, if_pos hsame.symm, if_pos (hsame ▸ hset)]
    rfl
  · rw [if_neg hsame, if_neg (Ne.symm hsame)]
    rfl

theorem binding_put (h : slot < rack.size) (encoder : Option Encoder) :
    (rack.put slot encoder).binding other
      = if other = slot then encoder.map Encoder.binding else rack.binding other := by
  rw [binding, encoder?_put h]
  split <;> rfl

theorem binding_put_self (h : slot < rack.size) (encoder : Option Encoder) :
    (rack.put slot encoder).binding slot = encoder.map Encoder.binding := by
  rw [binding_put h, if_pos rfl]

theorem binding_put_of_ne (h : slot < rack.size) (encoder : Option Encoder) (hne : other ≠ slot) :
    (rack.put slot encoder).binding other = rack.binding other := by
  rw [binding_put h, if_neg hne]

theorem bound_eq_ok {encoder : Encoder} : rack.bound slot = .ok encoder ↔ rack.encoder? slot = some encoder := by
  rw [bound, encoder?]
  rcases rack.slots[slot]? with _ | _ | found
  · simp
  · simp
  · simp

/-- Encoding in a slot leaves every slot bound as it was. -/
theorem encode_binding (limits : FrameLimits) (packets : List Packet) :
    (rack.encode slot limits packets).1.binding = rack.binding := by
  funext other
  rw [encode]
  cases hbound : rack.bound slot with
  | error error => rfl
  | ok encoder =>
    have hslot : rack.encoder? slot = some encoder := bound_eq_ok.mp hbound
    have hsize : slot < rack.size := by
      by_contra hout
      rw [encoder?, List.getElem?_eq_none (Nat.le_of_not_lt hout)] at hslot
      cases hslot
    show (rack.put slot (some (encoder.encode limits packets).1)).binding other = _
    by_cases hsame : other = slot
    · rw [hsame, binding_put_self hsize, Option.map_some, Encoder.encode_binding, binding, hslot, Option.map_some]
    · rw [binding_put_of_ne hsize _ hsame]

theorem encode_size (limits : FrameLimits) (packets : List Packet) :
    (rack.encode slot limits packets).1.size = rack.size := by
  rw [encode]
  split
  · rfl
  · exact size_put _

end EncoderRack

/-! ### What the streams of a module hold -/

/-- What a stream goes by: its identifier, which is also its slot, and its payload type. -/
structure StreamLabel where
  id : UInt8
  payloadType : PayloadType

namespace StreamLabel

/-- The identifier as it stands in the pool. -/
def pooled (label : StreamLabel) : UInt32 := label.id.toUInt32

/-- The binding of the stream's slot. -/
def binding (deviceId : UInt16) (label : StreamLabel) : Encoder :=
  { slot := label.id.toNat, deviceId, streamId := label.id, payloadType := some label.payloadType }

theorem pooled_toNat (label : StreamLabel) : label.pooled.toNat = label.id.toNat := UInt8.toNat_toUInt32 label.id

end StreamLabel

/-- The binding of the slot of status frames. -/
def statusBinding (deviceId : UInt16) : Encoder := { slot := statusSlot, deviceId, streamId := 0 }

namespace EncoderRack

variable {rack : EncoderRack} {deviceId : UInt16} {held : Nat → Option StreamLabel} {key slot : Nat}

/-- The bound slots are those of the labels that the keys hold; slot 0 is bound to status frames. -/
structure Serves (rack : EncoderRack) (deviceId : UInt16) (held : Nat → Option StreamLabel) : Prop where
  size : rack.size = streamCount
  bound : ∀ {key label}, held key = some label → rack.binding label.id.toNat = some (label.binding deviceId)
  unbound : ∀ {slot}, slot ≠ statusSlot → (∀ {key label}, held key = some label → label.id.toNat ≠ slot) →
    rack.binding slot = none
  status : rack.binding statusSlot = some (statusBinding deviceId)

/-- One key changes its label, and the content of one slot changes with it. -/
theorem Serves.put (hserves : rack.Serves deviceId held) {new : Option StreamLabel} {encoder : Option Encoder}
    (hslot : slot < streamCount) (hstatus : slot ≠ statusSlot)
    (hcontent : encoder.map Encoder.binding = new.map (StreamLabel.binding deviceId))
    (hnew : ∀ label ∈ new, label.id.toNat = slot) (hold : ∀ label ∈ held key, label.id.toNat = slot)
    (hothers : ∀ {other label}, other ≠ key → held other = some label → label.id.toNat ≠ slot) :
    (rack.put slot encoder).Serves deviceId (Function.update held key new) := by
  have hsize : slot < rack.size := by rwa [hserves.size]
  refine ⟨(size_put _).trans hserves.size, ?_, ?_, ?_⟩
  · intro holding label hheld
    by_cases hkey : holding = key
    · rw [hkey, Function.update_self] at hheld
      subst hheld
      rw [hnew label rfl, binding_put_self hsize, hcontent]
      rfl
    · rw [Function.update_of_ne hkey] at hheld
      rw [binding_put_of_ne hsize _ (hothers hkey hheld)]
      exact hserves.bound hheld
  · intro other hother hfree
    by_cases hsame : other = slot
    · rw [hsame, binding_put_self hsize, hcontent, Option.map_eq_none_iff, Option.eq_none_iff_forall_not_mem]
      intro label hlabel
      have hheld : Function.update held key new key = some label := by
        rw [Function.update_self]
        exact hlabel
      exact hfree hheld ((hnew label hlabel).trans hsame.symm)
    · rw [binding_put_of_ne hsize _ hsame]
      refine hserves.unbound hother fun {holding label} hheld => ?_
      by_cases hkey : holding = key
      · subst hkey
        rw [hold label hheld]
        exact Ne.symm hsame
      · have hkept : Function.update held key new holding = some label := by rwa [Function.update_of_ne hkey]
        exact hfree hkept
  · rw [binding_put_of_ne hsize _ hstatus.symm]
    exact hserves.status

theorem Serves.of_binding {other : EncoderRack} (hserves : rack.Serves deviceId held) (hsize : other.size = rack.size)
    (hbinding : other.binding = rack.binding) : other.Serves deviceId held where
  size := hsize.trans hserves.size
  bound h := by
    rw [hbinding]
    exact hserves.bound h
  unbound hslot hfree := by
    rw [hbinding]
    exact hserves.unbound hslot hfree
  status := by
    rw [hbinding]
    exact hserves.status

end EncoderRack

namespace LinkResources

variable {T : Type} {resources : LinkResources T} {held : Nat → Option StreamLabel} {key other : Nat}
  {label old new : StreamLabel}

/-- The stream identifiers in use and the bound slots are those that the keys hold. -/
structure InStep (resources : LinkResources T) (held : Nat → Option StreamLabel) : Prop where
  tracks : resources.streamIds.Tracks (Option.map StreamLabel.pooled ∘ held)
  least : resources.streamIds.least = 1
  greatest : resources.streamIds.greatest = 255
  serves : resources.encoders.Serves resources.deviceId held

namespace InStep

theorem id_unique (h : resources.InStep held) (hkey : held key = some old) (hother : held other = some new)
    (hsame : old.id = new.id) : key = other := by
  have hfirst : (Option.map StreamLabel.pooled ∘ held) key = some old.pooled := by
    rw [Function.comp_apply, hkey, Option.map_some]
  have hsecond : (Option.map StreamLabel.pooled ∘ held) other = some old.pooled := by
    rw [Function.comp_apply, hother, Option.map_some, StreamLabel.pooled, ← hsame, ← StreamLabel.pooled]
  exact h.tracks.unique hfirst hsecond

theorem id_used (h : resources.InStep held) (hkey : held key = some label) :
    label.pooled ∈ resources.streamIds.used :=
  h.tracks.held.mpr ⟨key, by rw [Function.comp_apply, hkey, Option.map_some]⟩

theorem ne_zero_of_covers (h : resources.InStep held) (hcovers : resources.streamIds.covers label.pooled = true) :
    label.id.toNat ≠ statusSlot := by
  rw [IdPool.covers, Bool.and_eq_true, decide_eq_true_iff, h.least, UInt32.le_iff_toNat_le,
    StreamLabel.pooled_toNat] at hcovers
  exact Nat.one_le_iff_ne_zero.mp hcovers.1

theorem id_ne_zero (h : resources.InStep held) (hkey : held key = some label) : label.id.toNat ≠ statusSlot :=
  h.ne_zero_of_covers (h.tracks.covered (h.id_used hkey))

/-- No key holds an identifier that is free. -/
theorem ne_of_free (h : resources.InStep held) (hfree : new.pooled ∉ resources.streamIds.used)
    (hkey : held key = some label) : label.id.toNat ≠ new.id.toNat := by
  intro hsame
  refine hfree ?_
  rw [StreamLabel.pooled, ← UInt8.toNat_inj.mp hsame]
  exact h.id_used hkey

theorem ne_of_ne (h : resources.InStep held) (hkey : held key = some label) (hne : other ≠ key)
    (hother : held other = some new) : new.id.toNat ≠ label.id.toNat := fun hsame =>
  hne (h.id_unique hother hkey (UInt8.toNat_inj.mp hsame))

/-- A key that held nothing takes a free identifier and its slot. -/
theorem add (h : resources.InStep held) (hkey : held key = none)
    (hcovers : resources.streamIds.covers new.pooled = true) (hfree : new.pooled ∉ resources.streamIds.used) :
    InStep { resources with
      streamIds := resources.streamIds.occupy new.pooled
      encoders := resources.encoders.put new.id.toNat (some (new.binding resources.deviceId)) }
      (Function.update held key (some new)) where
  tracks := by
    rw [Function.comp_update]
    exact h.tracks.occupy (by rw [Function.comp_apply, hkey, Option.map_none]) hcovers hfree
  least := h.least
  greatest := h.greatest
  serves := by
    refine h.serves.put new.id.toNat_lt (h.ne_zero_of_covers hcovers) rfl (fun label hlabel => ?_)
      (fun label hlabel => ?_) fun _ => h.ne_of_free hfree
    · rw [Option.mem_some_iff.mp hlabel]
    · rw [hkey] at hlabel
      cases hlabel

/-- A key gives its identifier and its slot back. -/
theorem remove (h : resources.InStep held) (hkey : held key = some label) :
    (resources.releaseStream label.id).InStep (Function.update held key none) where
  tracks := by
    rw [Function.comp_update]
    exact h.tracks.remove (by rw [Function.comp_apply, hkey, Option.map_some]; rfl)
  least := by
    show (resources.streamIds.remove label.pooled).1.least = 1
    rw [IdPool.remove_of_mem (h.id_used hkey)]
    exact h.least
  greatest := by
    show (resources.streamIds.remove label.pooled).1.greatest = 255
    rw [IdPool.remove_of_mem (h.id_used hkey)]
    exact h.greatest
  serves := by
    refine h.serves.put label.id.toNat_lt (h.id_ne_zero hkey) rfl (fun other hother => ?_) (fun other hother => ?_)
      (h.ne_of_ne hkey)
    · cases hother
    · rw [hkey] at hother
      rw [Option.mem_some_iff.mp hother]

/-- A key changes the payload type of its slot. -/
theorem retype {encoder : Encoder} (h : resources.InStep held) (hkey : held key = some old) (hid : new.id = old.id)
    (hencoder : encoder.binding = new.binding resources.deviceId) :
    InStep { resources with encoders := resources.encoders.put old.id.toNat (some encoder) }
      (Function.update held key (some new)) where
  tracks := by
    rw [Function.comp_update, Option.map_some, StreamLabel.pooled, hid, ← StreamLabel.pooled,
      Function.update_eq_self_iff.mpr]
    · exact h.tracks
    · rw [Function.comp_apply, hkey, Option.map_some]
  least := h.least
  greatest := h.greatest
  serves := by
    refine h.serves.put old.id.toNat_lt (h.id_ne_zero hkey) (congrArg some hencoder) (fun label hlabel => ?_)
      (fun label hlabel => ?_) (h.ne_of_ne hkey)
    · rw [← Option.mem_some_iff.mp hlabel, hid]
    · rw [hkey] at hlabel
      rw [Option.mem_some_iff.mp hlabel]

/-- A key exchanges its identifier for a free one, and its slot with it. -/
theorem move (h : resources.InStep held) (hkey : held key = some old)
    (hcovers : resources.streamIds.covers new.pooled = true) (hfree : new.pooled ∉ resources.streamIds.used) :
    InStep { resources with
      streamIds := ((resources.streamIds.occupy new.pooled).remove old.pooled).1
      encoders := (resources.encoders.put new.id.toNat (some (new.binding resources.deviceId))).release old.id.toNat }
      (Function.update held key (some new)) where
  tracks := by
    rw [Function.comp_update]
    refine h.tracks.exchange (by rw [Function.comp_apply, hkey, Option.map_some]) ?_ hcovers hfree
    intro hsame
    exact hfree (hsame ▸ h.id_used hkey)
  least := by
    show (IdPool.remove _ old.pooled).1.least = 1
    rw [IdPool.remove_of_mem (IdPool.mem_used_occupy.mpr (.inr (h.id_used hkey)))]
    exact h.least
  greatest := by
    show (IdPool.remove _ old.pooled).1.greatest = 255
    rw [IdPool.remove_of_mem (IdPool.mem_used_occupy.mpr (.inr (h.id_used hkey)))]
    exact h.greatest
  serves := by
    have hslots : (resources.encoders.put new.id.toNat (some (new.binding resources.deviceId))).release old.id.toNat
        = (resources.encoders.release old.id.toNat).put new.id.toNat (some (new.binding resources.deviceId)) :=
      congrArg EncoderRack.mk (List.set_comm _ _ (h.ne_of_free hfree hkey).symm)
    have hempty : (resources.encoders.release old.id.toNat).Serves resources.deviceId (Function.update held key none) :=
      (h.remove hkey).serves
    show EncoderRack.Serves (EncoderRack.release _ _) resources.deviceId _
    have htwice : Function.update (Function.update held key none) key (some new)
        = Function.update held key (some new) := Function.update_idem ..
    rw [hslots, ← htwice]
    refine hempty.put new.id.toNat_lt (h.ne_zero_of_covers hcovers) rfl ?_ ?_ ?_
    · intro label hlabel
      rw [Option.mem_some_iff.mp hlabel]
    · intro label hlabel
      rw [Function.update_self] at hlabel
      cases hlabel
    · intro other label hother hheld
      rw [Function.update_of_ne hother] at hheld
      exact h.ne_of_free hfree hheld

/-- Sending changes neither what is held nor what holds it. -/
theorem of_binding {after : LinkResources T} (h : resources.InStep held) (hdevice : after.deviceId = resources.deviceId)
    (hids : after.streamIds = resources.streamIds) (hsize : after.encoders.size = resources.encoders.size)
    (hbinding : after.encoders.binding = resources.encoders.binding) : after.InStep held where
  tracks := by rw [hids]; exact h.tracks
  least := by rw [hids]; exact h.least
  greatest := by rw [hids]; exact h.greatest
  serves := by
    rw [hdevice]
    exact h.serves.of_binding hsize hbinding

end InStep

end LinkResources

end CaptureProtocol
