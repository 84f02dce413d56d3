import CaptureProtocol.Proofs.CaptureHistory
import CaptureProtocol.Proofs.RemovedHandles
import Mathlib

/-!
# Staged changes of streams and interfaces

Between its start and its end an update collects an identifier and a payload type; its end applies them.

* `StreamUpdate.record`, `InterfaceUpdate.record` — what an update holds after one more call; `foldl_lastStaged` — the
  last value counts;
* `TakesStaged` — a usable staged value takes the place of the old one, any other leaves it;
* `CaptureStream.moveToId_moveToPayloadType`, `BusInterface.moveToId_moveToKind` — both changes can be applied in either
  order;
* `CaptureStream.commit_outcome`, `BusInterface.commit_outcome` — what the end of an update leaves.
-/

namespace CaptureProtocol

/-! ### What an update collects -/

/-- Whether an operation of a stream belongs to an update of its identifier or payload type. -/
def StreamOperation.isUpdate : StreamOperation → Bool
  | .stage | .changeId _ | .changePayloadType _ | .commit => true
  | .connect .. | .disconnect | .send _ => false

/-- What the calls of an update make of the shared parts and of the stream, and their answer. -/
def StreamOperation.update {T : Type} (resources : LinkResources T) (stream : CaptureStream) :
    StreamOperation → LinkResources T × CaptureStream × Bool
  | .stage => (resources, stream.stage, true)
  | .changeId id => stream.changeId resources id
  | .changePayloadType payloadType => stream.changePayloadType resources payloadType
  | .commit => stream.commit resources
  | .connect .. | .disconnect | .send _ => (resources, stream, true)

/-- Whether an operation starts an update or stages a value in the one that is under way. -/
def StreamOperation.stages : StreamOperation → Bool
  | .stage | .changeId _ | .changePayloadType _ => true
  | .connect .. | .disconnect | .send _ | .commit => false

/-- The identifier that an operation stages. -/
def StreamOperation.stagedId? : StreamOperation → Option UInt8
  | .changeId id => some id
  | _ => none

/-- The payload type that an operation stages. -/
def StreamOperation.stagedType? : StreamOperation → Option PayloadType
  | .changePayloadType payloadType => some payloadType
  | _ => none

/-- What an update holds after an operation of its stream. -/
def StreamUpdate.record (update : StreamUpdate) : StreamOperation → StreamUpdate
  | .changeId id => { update with id := some id }
  | .changePayloadType payloadType => { update with payloadType := some payloadType }
  | _ => update

/-- The changes that an update stands for. -/
def StreamUpdate.changes (update : StreamUpdate) : List StreamOperation :=
  (update.payloadType.map .changePayloadType).toList ++ (update.id.map .changeId).toList

/-- Whether an operation starts an update or stages a value in the one that is under way. -/
def InterfaceOperation.stages : InterfaceOperation → Bool
  | .stage | .changeId _ | .changeKind _ => true
  | .setLinkStatus _ | .addStream .. | .removeStream _ | .commit => false

/-- The identifier that an operation stages. -/
def InterfaceOperation.stagedId? : InterfaceOperation → Option UInt32
  | .changeId id => some id
  | _ => none

/-- The kind that an operation stages. -/
def InterfaceOperation.stagedKind? : InterfaceOperation → Option PayloadType
  | .changeKind kind => some kind
  | _ => none

/-- What an update holds after an operation of its interface. -/
def InterfaceUpdate.record (update : InterfaceUpdate) : InterfaceOperation → InterfaceUpdate
  | .changeId id => { update with id := some id }
  | .changeKind kind => { update with kind := some kind }
  | _ => update

/-- The changes that an update stands for. -/
def InterfaceUpdate.changes (update : InterfaceUpdate) : List InterfaceOperation :=
  (update.kind.map .changeKind).toList ++ (update.id.map .changeId).toList

/-- Where every operation that has a value overwrites it, the last value is left. -/
theorem foldl_lastStaged {Update Operation Value : Type} (record : Update → Operation → Update)
    (value? : Operation → Option Value) (read : Update → Option Value)
    (h : ∀ update operation, read (record update operation) = (value? operation).or (read update))
    (operations : List Operation) (update : Update) :
    read (operations.foldl record update) = (operations.filterMap value?).getLast?.or (read update) := by
  induction operations generalizing update with
  | nil => rfl
  | cons operation operations ih =>
    rw [List.foldl_cons, ih, h]
    cases hvalue : value? operation with
    | none => rw [List.filterMap_cons_none hvalue, Option.none_or]
    | some value =>
      rw [List.filterMap_cons_some hvalue, List.getLast?_cons, Option.some_or]
      cases (operations.filterMap value?).getLast? <;> rfl

theorem StreamUpdate.foldl_record (changes : List StreamOperation) :
    changes.foldl record {}
      = { id := (changes.filterMap StreamOperation.stagedId?).getLast?
          payloadType := (changes.filterMap StreamOperation.stagedType?).getLast? } := by
  have hid := foldl_lastStaged record StreamOperation.stagedId? StreamUpdate.id
    (fun update change => by cases change <;> rfl) changes {}
  have htype := foldl_lastStaged record StreamOperation.stagedType? StreamUpdate.payloadType
    (fun update change => by cases change <;> rfl) changes {}
  rw [Option.or_none] at hid htype
  rw [← hid, ← htype]

theorem InterfaceUpdate.foldl_record (changes : List InterfaceOperation) :
    changes.foldl record {}
      = { id := (changes.filterMap InterfaceOperation.stagedId?).getLast?
          kind := (changes.filterMap InterfaceOperation.stagedKind?).getLast? } := by
  have hid := foldl_lastStaged record InterfaceOperation.stagedId? InterfaceUpdate.id
    (fun update change => by cases change <;> rfl) changes {}
  have hkind := foldl_lastStaged record InterfaceOperation.stagedKind? InterfaceUpdate.kind
    (fun update change => by cases change <;> rfl) changes {}
  rw [Option.or_none] at hid hkind
  rw [← hid, ← hkind]

/-! ### What the end of an update leaves -/

theorem forall_mem_some {α : Type} {good : α → Prop} {value : α} :
    (∀ other ∈ some value, good other) ↔ good value := by
  constructor
  · intro h
    exact h value rfl
  · intro h other hother
    rwa [← Option.mem_some_iff.mp hother]

/-- An attribute after the end of an update: a usable staged value, or else the old one. -/
def TakesStaged {α : Type} (usable : α → Prop) (old : α) (staged : Option α) (new : α) : Prop :=
  (∃ value, staged = some value ∧ usable value ∧ new = value) ∨ ((∀ value ∈ staged, ¬ usable value) ∧ new = old)

/-- Where the old value is usable, the staged ones are in force exactly if they were usable. -/
theorem TakesStaged.forall_usable_iff {α : Type} {usable : α → Prop} {old new : α} {staged : Option α}
    (h : TakesStaged usable old staged new) (hold : usable old) :
    (∀ value ∈ staged, usable value) ↔ ∀ value ∈ staged, new = value := by
  rcases h with ⟨value, rfl, husable, rfl⟩ | ⟨hunusable, rfl⟩
  · constructor
    · intro _ other hother
      exact Option.mem_some_iff.mp hother
    · intro _ other hother
      rwa [← Option.mem_some_iff.mp hother]
  · constructor
    · intro husable value hvalue
      exact (hunusable value hvalue (husable value hvalue)).elim
    · intro hsame value hvalue
      rwa [← hsame value hvalue]

namespace IdPool

variable {pool : IdPool} {old new : UInt32}

theorem replace_of_free (hne : old ≠ new) (hcovers : pool.covers new = true) (hfree : new ∉ pool.used) :
    pool.replace old new = .ok ((pool.occupy new).remove old).1 := by
  rw [replace, if_neg hne, if_neg, if_neg (mt inUse_iff.mp hfree)]
  rw [hcovers]
  exact Bool.false_ne_true

theorem replace_of_not_free (hne : old ≠ new) (h : ¬ (pool.covers new = true ∧ new ∉ pool.used)) :
    ∃ error, pool.replace old new = .error error := by
  rw [replace, if_neg hne]
  split
  · exact ⟨_, rfl⟩
  · rename_i hcovers
    split
    · exact ⟨_, rfl⟩
    · rename_i hused
      rw [Bool.not_eq_true', Bool.not_eq_false] at hcovers
      exact (h ⟨hcovers, mt inUse_iff.mpr hused⟩).elim

end IdPool

namespace EncoderRack

variable {slot other : Nat}

theorem put_put (rack : EncoderRack) (slot : Nat) (first second : Option Encoder) :
    (rack.put slot first).put slot second = rack.put slot second := congrArg mk (List.set_set ..)

theorem put_comm (hne : slot ≠ other) (rack : EncoderRack) (first second : Option Encoder) :
    (rack.put slot first).put other second = (rack.put other second).put slot first :=
  congrArg mk (List.set_comm _ _ hne)

end EncoderRack

namespace CaptureStream

variable {T : Type} {resources : LinkResources T} {stream : CaptureStream} {held : Nat → Option StreamLabel} {key : Nat}

/-- An identifier that a stream can have: it is not that of status frames, and no other stream has it. -/
def CanHold (held : Nat → Option StreamLabel) (key : Nat) (id : UInt8) : Prop :=
  id ≠ 0 ∧ ∀ other label, other ≠ key → held other = some label → label.id ≠ id

theorem canHold_id (h : resources.InStep held) (hkey : held key = some stream.label) :
    CanHold held key stream.id := by
  refine ⟨fun hzero => h.id_ne_zero hkey ?_, fun other label hother hheld hsame => ?_⟩
  · show stream.id.toNat = statusSlot
    rw [hzero]
    rfl
  · exact hother (h.id_unique hheld hkey hsame)

/-- Another identifier can be had if the pool has it to give. -/
theorem canHold_iff (h : resources.InStep held) (hkey : held key = some stream.label) {id : UInt8}
    (hne : stream.id ≠ id) :
    CanHold held key id ↔ resources.streamIds.covers id.toUInt32 = true ∧ id.toUInt32 ∉ resources.streamIds.used := by
  constructor
  · rintro ⟨hzero, hothers⟩
    refine ⟨?_, fun hused => ?_⟩
    · have hpos : id.toNat ≠ 0 := fun hnat => hzero (UInt8.toNat_inj.mp hnat)
      have hlimit := id.toNat_lt
      rw [IdPool.covers, Bool.and_eq_true, decide_eq_true_iff, decide_eq_true_iff, h.least, h.greatest,
        UInt32.le_iff_toNat_le, UInt32.le_iff_toNat_le, UInt8.toNat_toUInt32]
      exact ⟨Nat.one_le_iff_ne_zero.mpr hpos, Nat.le_of_lt_succ hlimit⟩
    · obtain ⟨other, hother⟩ := h.tracks.held.mp hused
      obtain ⟨label, hlabel, hpooled⟩ := Option.map_eq_some_iff.mp hother
      have hid : label.id = id := UInt8.toUInt32_inj.mp hpooled
      by_cases hown : other = key
      · rw [hown, hkey, Option.some.injEq] at hlabel
        subst hlabel
        exact hne hid
      · exact hothers other label hown hlabel hid
  · rintro ⟨hcovers, hfree⟩
    have hpooled : resources.streamIds.covers (StreamLabel.mk id .can).pooled = true := hcovers
    have hpositive : id.toNat ≠ statusSlot := h.ne_zero_of_covers hpooled
    refine ⟨fun hzero => hpositive (by rw [hzero]; rfl), fun other label _ hheld hid => hfree ?_⟩
    rw [← hid]
    exact h.id_used hheld

/-- What becomes of a new identifier. -/
theorem moveToId_eq (hsize : resources.encoders.size = EncoderRack.streamCount) (stream : CaptureStream) (id : UInt8) :
    moveToId resources stream id
      = if stream.id = id then (resources, stream, true)
        else if resources.streamIds.covers id.toUInt32 = true ∧ id.toUInt32 ∉ resources.streamIds.used then
          ({ resources with
              streamIds := ((resources.streamIds.occupy id.toUInt32).remove stream.id.toUInt32).1
              encoders := (resources.encoders.put id.toNat
                (some (StreamLabel.binding resources.deviceId ⟨id, stream.payloadType⟩))).release stream.id.toNat },
            { stream with id }, true)
        else (resources, stream, false) := by
  rw [moveToId]
  by_cases hsame : stream.id = id
  · rw [if_pos hsame, if_pos hsame]
  · rw [if_neg hsame, if_neg hsame]
    have hids : stream.id.toUInt32 ≠ id.toUInt32 := fun hids => hsame (UInt8.toUInt32_inj.mp hids)
    by_cases hfree : resources.streamIds.covers id.toUInt32 = true ∧ id.toUInt32 ∉ resources.streamIds.used
    · rw [if_pos hfree, IdPool.replace_of_free hids hfree.1 hfree.2]
      dsimp only
      rw [LinkResources.bindSlot_ok]
      exact hsize
    · obtain ⟨error, herror⟩ := IdPool.replace_of_not_free hids hfree
      rw [if_neg hfree, herror]

/-- A stream takes a new identifier that it can have and no other. -/
theorem moveToId_outcome (h : resources.InStep held) (hkey : held key = some stream.label) (id : UInt8) :
    (CanHold held key id ∧ (moveToId resources stream id).2.1.id = id ∧ (moveToId resources stream id).2.2 = true)
      ∨ (¬ CanHold held key id ∧ moveToId resources stream id = (resources, stream, false)) := by
  rw [moveToId_eq h.serves.size]
  by_cases hsame : stream.id = id
  · rw [if_pos hsame]
    exact .inl ⟨hsame ▸ canHold_id h hkey, hsame, rfl⟩
  · rw [if_neg hsame, canHold_iff h hkey hsame]
    by_cases hfree : resources.streamIds.covers id.toUInt32 = true ∧ id.toUInt32 ∉ resources.streamIds.used
    · rw [if_pos hfree]
      exact .inl ⟨hfree, rfl, rfl⟩
    · rw [if_neg hfree]
      exact .inr ⟨hfree, rfl⟩

theorem moveToPayloadType_of_not_data (resources : LinkResources T) (stream : CaptureStream) {payloadType : PayloadType}
    (h : ¬ payloadType.isData = true) :
    moveToPayloadType resources stream payloadType = (resources, stream, false) := by
  rw [moveToPayloadType, if_neg h]

/-- A new payload type and a new identifier can be applied in either order. -/
theorem moveToId_moveToPayloadType (h : resources.InStep held) (hkey : held key = some stream.label)
    (payloadType : PayloadType) (id : UInt8) :
    let typed := moveToPayloadType resources stream payloadType
    let moved := moveToId resources stream id
    (moveToId typed.1 typed.2.1 id).1 = (moveToPayloadType moved.1 moved.2.1 payloadType).1
      ∧ (moveToId typed.1 typed.2.1 id).2.1 = (moveToPayloadType moved.1 moved.2.1 payloadType).2.1
      ∧ (moveToId typed.1 typed.2.1 id).2.2 = moved.2.2
      ∧ (moveToPayloadType moved.1 moved.2.1 payloadType).2.2 = typed.2.2 := by
  intro typed moved
  have hsize := h.serves.size
  by_cases hdata : payloadType.isData = true
  · obtain ⟨encoder, hencoder, -⟩ := exists_encoder h hkey
    have htyped : typed = _ := moveToPayloadType_of_encoder? hencoder hdata
    have hmoved : moved = _ := moveToId_eq hsize stream id
    rw [htyped, moveToId_eq ((EncoderRack.size_put _).trans hsize)]
    dsimp only
    by_cases hsame : stream.id = id
    · rw [if_pos hsame] at hmoved
      rw [if_pos hsame, hmoved, moveToPayloadType_of_encoder? hencoder hdata]
      exact ⟨rfl, rfl, rfl, rfl⟩
    · rw [if_neg hsame] at hmoved
      rw [if_neg hsame]
      have hslots : id.toNat ≠ stream.id.toNat := fun hnat => hsame (UInt8.toNat_inj.mp hnat).symm
      by_cases hfree : resources.streamIds.covers id.toUInt32 = true ∧ id.toUInt32 ∉ resources.streamIds.used
      · rw [if_pos hfree] at hmoved
        rw [if_pos hfree, hmoved]
        -- the new slot is found bound under the old payload type
        have hbound : ((resources.encoders.put id.toNat
            (some (StreamLabel.binding resources.deviceId ⟨id, stream.payloadType⟩))).release stream.id.toNat).encoder?
              id.toNat = some (StreamLabel.binding resources.deviceId ⟨id, stream.payloadType⟩) := by
          rw [EncoderRack.release, EncoderRack.encoder?_put, if_neg hslots, EncoderRack.encoder?_put, if_pos rfl]
          · rw [hsize]
            exact id.toNat_lt
          · rw [EncoderRack.size_put, hsize]
            exact stream.id.toNat_lt
        rw [moveToPayloadType_of_encoder? hbound hdata]
        refine ⟨?_, rfl, rfl, rfl⟩
        have htype : CaptureStream.payloadType { stream with inlet := stream.inlet.retype payloadType } = payloadType :=
          SignalInlet.retype_payloadType stream.inlet payloadType
        rw [htype, EncoderRack.release, EncoderRack.put_comm hslots.symm, EncoderRack.put_put, EncoderRack.release,
          EncoderRack.put_comm hslots.symm, EncoderRack.put_put]
        rfl
      · rw [if_neg hfree] at hmoved
        rw [if_neg hfree, hmoved, moveToPayloadType_of_encoder? hencoder hdata]
        exact ⟨rfl, rfl, rfl, rfl⟩
  · have htyped : typed = (resources, stream, false) := moveToPayloadType_of_not_data resources stream hdata
    rw [htyped, moveToPayloadType_of_not_data _ _ hdata]
    exact ⟨rfl, rfl, rfl, rfl⟩

/-- A stream takes a new payload type that is a data type and no other. -/
theorem moveToPayloadType_outcome (h : resources.InStep held) (hkey : held key = some stream.label)
    (payloadType : PayloadType) :
    (payloadType.isData = true ∧ (moveToPayloadType resources stream payloadType).2.1.payloadType = payloadType
        ∧ (moveToPayloadType resources stream payloadType).2.2 = true)
      ∨ (¬ payloadType.isData = true
        ∧ moveToPayloadType resources stream payloadType = (resources, stream, false)) := by
  by_cases hdata : payloadType.isData = true
  · obtain ⟨encoder, hencoder, -⟩ := exists_encoder h hkey
    rw [moveToPayloadType_of_encoder? hencoder hdata]
    exact .inl ⟨hdata, SignalInlet.retype_payloadType stream.inlet payloadType, rfl⟩
  · exact .inr ⟨hdata, moveToPayloadType_of_not_data resources stream hdata⟩

/-- What the end of an update leaves: each attribute takes its staged value if it can, whatever becomes of the other
one, and the answer says whether all staged values are in force. -/
structure Outcome (held : Nat → Option StreamLabel) (key : Nat) (update : StreamUpdate) (stream next : CaptureStream)
    (accepted : Bool) : Prop where
  idle : next.staged = none
  id : TakesStaged (CanHold held key) stream.id update.id next.id
  payloadType : TakesStaged (PayloadType.isData · = true) stream.payloadType update.payloadType next.payloadType
  accepted : accepted = true
    ↔ (∀ id ∈ update.id, next.id = id) ∧ ∀ payloadType ∈ update.payloadType, next.payloadType = payloadType

theorem applyStaged_moveToId (h : resources.InStep held) (hkey : held key = some stream.label) (id : Option UInt8) :
    TakesStaged (CanHold held key) stream.id id (applyStaged moveToId resources stream id).2.1.id
      ∧ (applyStaged moveToId resources stream id).2.1
        = { stream with id := (applyStaged moveToId resources stream id).2.1.id }
      ∧ ((applyStaged moveToId resources stream id).2.2 = true ↔ ∀ value ∈ id, CanHold held key value) := by
  cases id with
  | none => exact ⟨.inr ⟨fun _ hnone => (by cases hnone), rfl⟩, rfl, iff_of_true rfl fun _ hnone => (by cases hnone)⟩
  | some id =>
    rw [applyStaged, forall_mem_some]
    refine ⟨?_, moveToId_stream resources stream id, ?_⟩
    · rcases moveToId_outcome h hkey id with ⟨hcan, hid, -⟩ | ⟨hcannot, hkept⟩
      · exact .inl ⟨id, rfl, hcan, hid⟩
      · exact .inr ⟨forall_mem_some.mpr hcannot, by rw [hkept]⟩
    · rcases moveToId_outcome h hkey id with ⟨hcan, -, htrue⟩ | ⟨hcannot, hkept⟩
      · exact iff_of_true htrue hcan
      · exact iff_of_false (by rw [hkept]; exact Bool.false_ne_true) hcannot

theorem applyStaged_moveToPayloadType (h : resources.InStep held) (hkey : held key = some stream.label)
    (payloadType : Option PayloadType) :
    TakesStaged (PayloadType.isData · = true) stream.payloadType payloadType
        (applyStaged moveToPayloadType resources stream payloadType).2.1.payloadType
      ∧ (applyStaged moveToPayloadType resources stream payloadType).2.1.id = stream.id
      ∧ (applyStaged moveToPayloadType resources stream payloadType).2.1.staged = stream.staged
      ∧ ((applyStaged moveToPayloadType resources stream payloadType).2.2 = true
        ↔ ∀ value ∈ payloadType, value.isData = true) := by
  cases payloadType with
  | none =>
    exact ⟨.inr ⟨fun _ hnone => (by cases hnone), rfl⟩, rfl, rfl, iff_of_true rfl fun _ hnone => (by cases hnone)⟩
  | some payloadType =>
    rw [applyStaged, forall_mem_some]
    have hrest : (moveToPayloadType resources stream payloadType).2.1.id = stream.id
        ∧ (moveToPayloadType resources stream payloadType).2.1.staged = stream.staged := by
      rcases moveToPayloadType_cases resources stream payloadType with hmove | ⟨encoder, -, -, hmove⟩ <;> rw [hmove]
      · exact ⟨rfl, rfl⟩
      · exact ⟨rfl, rfl⟩
    rcases moveToPayloadType_outcome h hkey payloadType with ⟨hdata, htype, htrue⟩ | ⟨hdata, hkept⟩
    · exact ⟨.inl ⟨payloadType, rfl, hdata, htype⟩, hrest.1, hrest.2, iff_of_true htrue hdata⟩
    · refine ⟨.inr ⟨forall_mem_some.mpr hdata, by rw [hkept]⟩, hrest.1, hrest.2, ?_⟩
      exact iff_of_false (by rw [hkept]; exact Bool.false_ne_true) hdata

theorem canHold_update (held : Nat → Option StreamLabel) (key : Nat) (label : Option StreamLabel) :
    CanHold (Function.update held key label) key = CanHold held key := by
  funext id
  refine propext (and_congr_right fun _ => forall_congr' fun other => forall_congr' fun _ =>
    forall_congr' fun hother => ?_)
  rw [Function.update_of_ne hother]

theorem commit_outcome (h : resources.InStep held) (hkey : held key = some stream.label)
    (hdata : stream.payloadType.isData = true) {update : StreamUpdate} (hstaged : stream.staged = some update) :
    Outcome held key update stream (commit resources stream).2.1 (commit resources stream).2.2 := by
  have hcleared : held key = some (label { stream with staged := none }) := hkey
  obtain ⟨typed, htyped⟩ : ∃ typed, typed
    = applyStaged moveToPayloadType resources { stream with staged := none } update.payloadType := ⟨_, rfl⟩
  have hcommit : commit resources stream = ((applyStaged moveToId typed.1 typed.2.1 update.id).1,
      (applyStaged moveToId typed.1 typed.2.1 update.id).2.1,
      typed.2.2 && (applyStaged moveToId typed.1 typed.2.1 update.id).2.2) := by
    rw [htyped, commit, hstaged]
  have hfollows := applyStaged_follows h hcleared update.payloadType
    fun payloadType => moveToPayloadType_follows h hcleared payloadType
  obtain ⟨htype, hid, hidle, haccepted⟩ := applyStaged_moveToPayloadType h hcleared update.payloadType
  rw [← htyped] at hfollows htype hid hidle haccepted
  obtain ⟨hmoved, hrest, hmovedAccepted⟩ :=
    applyStaged_moveToId hfollows.inStep (Function.update_self ..) update.id
  rw [canHold_update, hid] at hmoved
  rw [canHold_update] at hmovedAccepted
  rw [hcommit]
  have hnextType : (applyStaged moveToId typed.1 typed.2.1 update.id).2.1.payloadType = typed.2.1.payloadType := by
    rw [hrest]
    rfl
  refine ⟨?_, hmoved, ?_, ?_⟩
  · show (applyStaged moveToId typed.1 typed.2.1 update.id).2.1.staged = none
    rw [hrest]
    exact hidle
  · rw [hnextType]
    exact htype
  · rw [Bool.and_eq_true, haccepted, hmovedAccepted, htype.forall_usable_iff hdata,
      hmoved.forall_usable_iff (canHold_id h hkey), and_comm, hnextType]

end CaptureStream

namespace BusInterface

variable {T : Type} {resources : LinkResources T} {interface : BusInterface} {holder : Nat → Option UInt32} {key : Nat}

/-- An identifier that an interface can have: it lies in the range, and no other interface has it. -/
def CanHold (pool : IdPool) (holder : Nat → Option UInt32) (key : Nat) (id : UInt32) : Prop :=
  pool.covers id = true ∧ ∀ other, other ≠ key → holder other ≠ some id

theorem canHold_id (h : resources.interfaceIds.Tracks holder) (hkey : holder key = some interface.id) :
    CanHold resources.interfaceIds holder key interface.id :=
  ⟨h.covered (h.held.mpr ⟨key, hkey⟩), fun _ hother hheld => hother (h.unique hheld hkey)⟩

/-- An interface takes a new identifier that it can have and no other. -/
theorem moveToId_outcome (h : resources.interfaceIds.Tracks holder) (hkey : holder key = some interface.id)
    (id : UInt32) :
    (CanHold resources.interfaceIds holder key id ∧ (moveToId resources interface id).2.1 = { interface with id }
        ∧ (moveToId resources interface id).2.2 = true)
      ∨ (¬ CanHold resources.interfaceIds holder key id
        ∧ moveToId resources interface id = (resources, interface, false)) := by
  by_cases hsame : interface.id = id
  · refine .inl ⟨hsame ▸ canHold_id h hkey, ?_⟩
    rw [moveToId, IdPool.replace, if_pos hsame]
    exact ⟨rfl, rfl⟩
  · have hfreeIff : CanHold resources.interfaceIds holder key id
        ↔ resources.interfaceIds.covers id = true ∧ id ∉ resources.interfaceIds.used := by
      refine and_congr_right fun _ => ?_
      rw [h.held, not_exists]
      refine ⟨fun hothers other hother => ?_, fun hothers other _ => hothers other⟩
      by_cases hown : other = key
      · rw [hown, hkey, Option.some.injEq] at hother
        exact hsame hother
      · exact hothers other hown hother
    by_cases hfree : CanHold resources.interfaceIds holder key id
    · obtain ⟨hcovers, hunused⟩ := hfreeIff.mp hfree
      rw [moveToId, IdPool.replace_of_free hsame hcovers hunused]
      exact .inl ⟨hfree, rfl, rfl⟩
    · obtain ⟨error, herror⟩ := IdPool.replace_of_not_free hsame (mt hfreeIff.mpr hfree)
      rw [moveToId, herror]
      exact .inr ⟨hfree, rfl⟩

theorem moveToKind_outcome (interface : BusInterface) (kind : PayloadType) :
    (kind.isData = true ∧ moveToKind interface kind = ({ interface with kind }, true))
      ∨ (¬ kind.isData = true ∧ moveToKind interface kind = (interface, false)) := by
  rw [moveToKind]
  by_cases hdata : kind.isData = true
  · rw [if_pos hdata]
    exact .inl ⟨hdata, rfl⟩
  · rw [if_neg hdata]
    exact .inr ⟨hdata, rfl⟩

theorem moveToId_interface (resources : LinkResources T) (interface : BusInterface) (id : UInt32) :
    (moveToId resources interface id).2.1 = { interface with id := (moveToId resources interface id).2.1.id } := by
  rw [moveToId]
  split <;> rfl

theorem moveToKind_interface (interface : BusInterface) (kind : PayloadType) :
    (moveToKind interface kind).1 = { interface with kind := (moveToKind interface kind).1.kind } := by
  rw [moveToKind]
  split <;> rfl

/-- A new kind and a new identifier can be applied in either order. -/
theorem moveToId_moveToKind (resources : LinkResources T) (interface : BusInterface) (kind : PayloadType)
    (id : UInt32) :
    let kinded := moveToKind interface kind
    let moved := moveToId resources interface id
    (moveToId resources kinded.1 id).1 = moved.1
      ∧ (moveToId resources kinded.1 id).2.1 = (moveToKind moved.2.1 kind).1
      ∧ (moveToId resources kinded.1 id).2.2 = moved.2.2 ∧ (moveToKind moved.2.1 kind).2 = kinded.2 := by
  intro kinded moved
  rcases moveToKind_outcome interface kind with ⟨hdata, hkinded⟩ | ⟨hdata, hkinded⟩
  · have hsame : kinded = ({ interface with kind }, true) := hkinded
    have hmoved : moved = moveToId resources interface id := rfl
    rw [hsame, hmoved, moveToKind, if_pos hdata, moveToId, moveToId]
    cases resources.interfaceIds.replace interface.id id <;> exact ⟨rfl, rfl, rfl, rfl⟩
  · have hsame : kinded = (interface, false) := hkinded
    rw [hsame, moveToKind, if_neg hdata]
    exact ⟨rfl, rfl, rfl, rfl⟩

/-- What the end of an update leaves, as for streams. -/
structure Outcome (pool : IdPool) (holder : Nat → Option UInt32) (key : Nat) (update : InterfaceUpdate)
    (interface next : BusInterface) (accepted : Bool) : Prop where
  idle : next.staged = none
  id : TakesStaged (CanHold pool holder key) interface.id update.id next.id
  kind : TakesStaged (PayloadType.isData · = true) interface.kind update.kind next.kind
  accepted : accepted = true ↔ (∀ id ∈ update.id, next.id = id) ∧ ∀ kind ∈ update.kind, next.kind = kind

/-- Applies a kind if there is one. -/
def applyKind (interface : BusInterface) : Option PayloadType → BusInterface × Bool
  | some kind => moveToKind interface kind
  | none => (interface, true)

/-- Applies an identifier if there is one. -/
def applyId (resources : LinkResources T) (interface : BusInterface) :
    Option UInt32 → LinkResources T × BusInterface × Bool
  | some id => moveToId resources interface id
  | none => (resources, interface, true)

/-- The end of an update applies the kind and then the identifier. -/
theorem commit_of_staged {update : InterfaceUpdate} (hstaged : interface.staged = some update) :
    commit resources interface
      = ((applyId resources (applyKind { interface with staged := none } update.kind).1 update.id).1,
        (applyId resources (applyKind { interface with staged := none } update.kind).1 update.id).2.1,
        (applyKind { interface with staged := none } update.kind).2
          && (applyId resources (applyKind { interface with staged := none } update.kind).1 update.id).2.2) := by
  rw [commit, hstaged]
  obtain ⟨id, kind⟩ := update
  cases kind <;> cases id <;> rfl

theorem applyKind_outcome (interface : BusInterface) (kind : Option PayloadType) :
    TakesStaged (PayloadType.isData · = true) interface.kind kind (applyKind interface kind).1.kind
      ∧ (applyKind interface kind).1 = { interface with kind := (applyKind interface kind).1.kind }
      ∧ ((applyKind interface kind).2 = true ↔ ∀ value ∈ kind, value.isData = true) := by
  cases kind with
  | none => exact ⟨.inr ⟨fun _ hnone => (by cases hnone), rfl⟩, rfl, iff_of_true rfl fun _ hnone => (by cases hnone)⟩
  | some kind =>
    rw [applyKind, forall_mem_some]
    rcases moveToKind_outcome interface kind with ⟨hdata, hmove⟩ | ⟨hdata, hmove⟩ <;> rw [hmove]
    · exact ⟨.inl ⟨kind, rfl, hdata, rfl⟩, rfl, iff_of_true rfl hdata⟩
    · exact ⟨.inr ⟨forall_mem_some.mpr hdata, rfl⟩, rfl, iff_of_false Bool.false_ne_true hdata⟩

theorem applyId_outcome (h : resources.interfaceIds.Tracks holder) (hkey : holder key = some interface.id)
    (id : Option UInt32) :
    TakesStaged (CanHold resources.interfaceIds holder key) interface.id id (applyId resources interface id).2.1.id
      ∧ (applyId resources interface id).2.1 = { interface with id := (applyId resources interface id).2.1.id }
      ∧ ((applyId resources interface id).2.2 = true
        ↔ ∀ value ∈ id, CanHold resources.interfaceIds holder key value) := by
  cases id with
  | none => exact ⟨.inr ⟨fun _ hnone => (by cases hnone), rfl⟩, rfl, iff_of_true rfl fun _ hnone => (by cases hnone)⟩
  | some id =>
    rw [applyId, forall_mem_some]
    rcases moveToId_outcome h hkey id with ⟨hcan, hmove, htrue⟩ | ⟨hcannot, hmove⟩
    · rw [hmove]
      exact ⟨.inl ⟨id, rfl, hcan, rfl⟩, rfl, iff_of_true htrue hcan⟩
    · rw [hmove]
      exact ⟨.inr ⟨forall_mem_some.mpr hcannot, rfl⟩, rfl, iff_of_false Bool.false_ne_true hcannot⟩

theorem commit_outcome (h : resources.interfaceIds.Tracks holder) (hkey : holder key = some interface.id)
    (hdata : interface.kind.isData = true) {update : InterfaceUpdate} (hstaged : interface.staged = some update) :
    Outcome resources.interfaceIds holder key update interface (commit resources interface).2.1
      (commit resources interface).2.2 := by
  rw [commit_of_staged hstaged]
  obtain ⟨hkind, hrest, hkindAccepted⟩ := applyKind_outcome { interface with staged := none } update.kind
  generalize applyKind { interface with staged := none } update.kind = kinded at hkind hrest hkindAccepted
  have hkinded : holder key = some kinded.1.id := by
    rw [hrest]
    exact hkey
  obtain ⟨hid, hsame, hidAccepted⟩ := applyId_outcome h hkinded update.id
  have hold : kinded.1.id = interface.id := by rw [hrest]
  have hnextKind : (applyId resources kinded.1 update.id).2.1.kind = kinded.1.kind := by rw [hsame]
  rw [hold] at hid
  refine ⟨?_, hid, ?_, ?_⟩
  · show (applyId resources kinded.1 update.id).2.1.staged = none
    rw [hsame, hrest]
  · show TakesStaged _ _ _ (applyId resources kinded.1 update.id).2.1.kind
    rw [hnextKind]
    exact hkind
  · rw [Bool.and_eq_true, hkindAccepted, hidAccepted, hkind.forall_usable_iff hdata,
      hid.forall_usable_iff (canHold_id h hkey), and_comm, hnextKind]

end BusInterface

end CaptureProtocol
