import CaptureProtocol.Proofs.CleanDelivery
import CaptureProtocol.Proofs.Subscriptions
import Mathlib

/-!
# Which streams of a sink listen

The streams of a sink subscribe to their addresses when they are opened.  A stream that is closed no longer listens;
when it is given another address afterwards, it listens again.

* `DataSink.address?` — the address of a stream; `SinkOperation.isForeign` — operations that are not about streams;
* `DataSink.sameListeners_quiet` — operations that leave all addresses and subscriptions;
* `DataSink.Closed` — a stream was closed and has kept its address since; `closedAt_concat` — after one more operation;
* `DataSink.InStep` — the subscriptions are those of the streams that listen; `InStep.perform` — one operation;
* `DataSink.performAll_listening` — all of them; `DataSink.listening_reopened` — a closed stream that listens again.
-/

namespace CaptureProtocol

theorem Subscriptions.mem_add {H : Type} [DecidableEq H] {pairs : Subscriptions H} {pair other : StreamKey × H} :
    other ∈ Subscriptions.add pairs pair ↔ other = pair ∨ other ∈ pairs := by
  rw [add]
  split
  · rename_i hmem
    exact ⟨.inr, fun h => h.elim (fun hsame => hsame ▸ hmem) id⟩
  · rw [List.mem_append, List.mem_singleton, or_comm]

/-- Operations on the subscriptions of observers, and the end of the sink. -/
def SinkOperation.isForeign : SinkOperation → Bool
  | .subscribe .. | .unsubscribe .. | .detach => true
  | _ => false

/-- Operations that have nothing to do with which streams there are and where they listen. -/
def SinkOperation.isQuiet : SinkOperation → Bool
  | .takeFrame .. | .takeEthernetFrame .. | .expire .. | .receiveDirectly .. | .tryReceive .. | .drain ..
  | .takeObserved => true
  | _ => false

theorem SinkStream.key_receive (stream : SinkStream) (key : StreamKey) (packets : List Packet) :
    (stream.receive key packets).key = stream.key := by
  rw [receive]
  split
  · rfl
  · dsimp only
    split
    · rw [enqueue]
      split <;> rfl
    · rfl

theorem SinkStream.key_tryReceive (stream : SinkStream) : stream.tryReceive.2.key = stream.key := by
  rw [tryReceive]
  split <;> rfl

namespace DataSink

variable {sink : DataSink} {handle other : Nat} {key old : StreamKey}

/-- The address of a stream. -/
def address? (sink : DataSink) (handle : Nat) : Option StreamKey := (sink.receiver? handle).map SinkStream.key

/-! ### Addresses -/

theorem lt_length_of_receiver? {stream : SinkStream} (h : sink.receiver? handle = some stream) :
    handle < sink.receivers.length := by
  rw [receiver?, Option.join_eq_some_iff] at h
  exact (List.getElem?_eq_some_iff.mp h).1

/-- Two sinks have the same streams at the same addresses, and the same subscriptions. -/
structure SameListeners (sink later : DataSink) : Prop where
  address : ∀ handle, later.address? handle = sink.address? handle
  length : later.receivers.length = sink.receivers.length
  router : later.router = sink.router
  attached : later.attached = sink.attached

theorem SameListeners.trans {middle later : DataSink} (h : sink.SameListeners middle)
    (hlater : middle.SameListeners later) : sink.SameListeners later where
  address handle := (hlater.address handle).trans (h.address handle)
  length := hlater.length.trans h.length
  router := hlater.router.trans h.router
  attached := hlater.attached.trans h.attached

theorem sameListeners_modifyReceiver {change : SinkStream → SinkStream}
    (hchange : ∀ stream, (change stream).key = stream.key) (sink : DataSink) (handle : Nat) :
    sink.SameListeners (sink.modifyReceiver handle change) where
  address other := by
    rw [address?, receiver?_modifyReceiver, address?]
    split
    · rw [Option.map_map]
      exact congrArg (Option.map · _) (funext hchange)
    · rfl
  length := List.length_modify ..
  router := rfl
  attached := rfl

theorem sameListeners_react (sink : DataSink) (subscriber : Subscriber) (key : StreamKey) (packets : List Packet) :
    sink.SameListeners (react subscriber key packets sink) := by
  cases subscriber with
  | receiver handle => exact sameListeners_modifyReceiver (fun stream => stream.key_receive key packets) sink handle
  | observer handle => exact ⟨fun _ => rfl, rfl, rfl, rfl⟩

theorem sameListeners_takeFrame (sink : DataSink) (now : Nat) (frame : Bytes) :
    sink.SameListeners (sink.takeFrame now frame).1 := by
  have hnoted : sink.SameListeners (sink.noted now frame) := ⟨fun _ => rfl, rfl, rfl, rfl⟩
  rw [takeFrame_fst]
  refine dispatch_publishes (·.router) react sink.SameListeners ?_ hnoted
  intro entry _ world hworld
  rw [publish]
  generalize world.router.handlers entry.1 = called
  induction called generalizing world with
  | nil => exact hworld
  | cons subscriber called ih => exact ih _ (hworld.trans (sameListeners_react world subscriber entry.1 entry.2))

theorem sameListeners_quiet {operation : SinkOperation} (h : operation.isQuiet = true) (sink : DataSink) :
    sink.SameListeners (sink.perform operation) := by
  cases operation with
  | takeFrame now frame => exact sink.sameListeners_takeFrame now frame
  | takeEthernetFrame now frame =>
    rw [perform, takeEthernetFrame]
    split
    · exact sink.sameListeners_takeFrame now _
    · exact ⟨fun _ => rfl, rfl, rfl, rfl⟩
  | receiveDirectly handle key packets =>
    exact sameListeners_modifyReceiver (fun stream => stream.key_receive key packets) sink handle
  | tryReceive handle => exact sameListeners_modifyReceiver SinkStream.key_tryReceive sink handle
  | drain handle => exact sameListeners_modifyReceiver (fun stream => (rfl : stream.drain.2.key = _)) sink handle
  | expire now => exact ⟨fun _ => rfl, rfl, rfl, rfl⟩
  | takeObserved => exact ⟨fun _ => rfl, rfl, rfl, rfl⟩
  | subscribe | unsubscribe | openStream | moveStream | closeStream | dropStream | detach => cases h

theorem address?_openStream (sink : DataSink) (key : StreamKey) (payloadType : PayloadType) (handle : Nat) :
    (sink.openStream key payloadType).2.address? handle
      = if handle = sink.receivers.length then some key else sink.address? handle := by
  rw [address?, receiver?, openStream]
  dsimp only
  split
  · rename_i hnew
    rw [hnew, List.getElem?_concat_length]
    rfl
  · rename_i hold
    rcases Nat.lt_or_gt_of_ne hold with hbelow | habove
    · rw [List.getElem?_append_left hbelow]
      rfl
    · rw [address?, receiver?, List.getElem?_eq_none (by rw [List.length_append, List.length_singleton]; omega),
        List.getElem?_eq_none (by omega)]

theorem moveStream_of_none (h : sink.address? handle = none) : sink.moveStream handle key = sink := by
  rw [address?, Option.map_eq_none_iff] at h
  rw [moveStream, h]

theorem moveStream_self (h : sink.address? handle = some key) : sink.moveStream handle key = sink := by
  obtain ⟨stream, hstream, rfl⟩ := Option.map_eq_some_iff.mp h
  rw [moveStream, hstream]
  exact if_pos rfl

/-- A stream that gets another address. -/
theorem moveStream_of_ne (hattached : sink.attached = true) (h : sink.address? handle = some old) (hne : old ≠ key) :
    sink.moveStream handle key
      = { sink with router := sink.router.move old key (.receiver handle) }.modifyReceiver handle
          fun stream => { stream with key } := by
  obtain ⟨stream, hstream, rfl⟩ := Option.map_eq_some_iff.mp h
  rw [moveStream, hstream]
  dsimp only
  rw [if_neg hne, hattached, if_pos rfl]

theorem address?_moveStream (sink : DataSink) (handle other : Nat) (key : StreamKey) :
    (sink.moveStream handle key).address? other
      = if other = handle then (sink.address? other).map fun _ => key else sink.address? other := by
  rw [moveStream]
  split
  · rename_i hstream
    split
    · rename_i hsame
      rw [hsame, address?, hstream]
      rfl
    · rfl
  · rename_i stream hstream
    by_cases hkey : stream.key = key
    · rw [if_pos hkey]
      split
      · rename_i hsame
        rw [hsame, address?, hstream, Option.map_some, Option.map_some, hkey]
      · rfl
    · rw [if_neg hkey, address?, receiver?_modifyReceiver]
      by_cases hsame : other = handle
      · subst hsame
        rw [if_pos rfl, if_pos rfl, Option.map_map, address?, Option.map_map]
        rfl
      · rw [if_neg hsame, if_neg (Ne.symm hsame)]
        rfl

theorem closeStream_of_none (h : sink.address? handle = none) : sink.closeStream handle = sink := by
  rw [address?, Option.map_eq_none_iff] at h
  rw [closeStream, h]

theorem closeStream_of_some (hattached : sink.attached = true) (h : sink.address? handle = some key) :
    sink.closeStream handle = { sink with router := (sink.router.unsubscribe key (.receiver handle)).1 } := by
  obtain ⟨stream, hstream, rfl⟩ := Option.map_eq_some_iff.mp h
  rw [closeStream, hstream]
  exact if_pos hattached

theorem address?_closeStream (sink : DataSink) (handle other : Nat) :
    (sink.closeStream handle).address? other = sink.address? other := by
  rw [closeStream]
  split
  · rfl
  · split <;> rfl

theorem address?_dropStream (sink : DataSink) (handle other : Nat) :
    (sink.dropStream handle).address? other = if other = handle then none else sink.address? other := by
  rw [address?, receiver?, dropStream]
  dsimp only
  rw [List.getElem?_set]
  by_cases hsame : other = handle
  · subst hsame
    rw [if_pos rfl, if_pos rfl]
    split <;> rfl
  · rw [if_neg (Ne.symm hsame), if_neg hsame]
    rfl

/-- A stream keeps its address, or is dropped, where it is given no other. -/
theorem address?_perform {operation : SinkOperation} (hlt : handle < sink.receivers.length)
    (hkept : ∀ other, operation = .moveStream handle other → other = key)
    (haddress : sink.address? handle = some key ∨ sink.address? handle = none) :
    handle < (sink.perform operation).receivers.length
      ∧ ((sink.perform operation).address? handle = some key ∨ (sink.perform operation).address? handle = none) := by
  have hsame : ∀ {later : DataSink}, sink.SameListeners later →
      handle < later.receivers.length ∧ (later.address? handle = some key ∨ later.address? handle = none) := by
    intro later hlater
    rw [hlater.length, hlater.address]
    exact ⟨hlt, haddress⟩
  cases operation with
  | openStream new payloadType =>
    rw [perform, address?_openStream, if_neg hlt.ne]
    refine ⟨?_, haddress⟩
    rw [openStream, List.length_append]
    exact Nat.lt_add_right _ hlt
  | moveStream other new =>
    have hlength : (sink.moveStream other new).receivers.length = sink.receivers.length := by
      rw [moveStream]
      split
      · rfl
      · split
        · rfl
        · exact List.length_modify ..
    rw [perform, hlength, address?_moveStream]
    refine ⟨hlt, ?_⟩
    split
    · rename_i hmoved
      subst hmoved
      rw [hkept new rfl]
      exact haddress.imp (fun hsome => by rw [hsome]; rfl) (fun hnone => by rw [hnone]; rfl)
    · exact haddress
  | closeStream other =>
    have hlength : (sink.closeStream other).receivers.length = sink.receivers.length := by
      rw [closeStream]
      split
      · rfl
      · split <;> rfl
    rw [perform, hlength, address?_closeStream]
    exact ⟨hlt, haddress⟩
  | dropStream other =>
    rw [perform, address?_dropStream]
    refine ⟨by rwa [dropStream, List.length_set], ?_⟩
    split
    · exact .inr rfl
    · exact haddress
  | subscribe | unsubscribe | detach => exact ⟨hlt, haddress⟩
  | takeFrame | takeEthernetFrame | expire | receiveDirectly | tryReceive | drain | takeObserved =>
    exact hsame (sameListeners_quiet rfl sink)

/-! ### Closed streams -/

/-- After a run, a stream was closed at an address and has been given no other since. -/
def ClosedAt (start : DataSink) (operations : List SinkOperation) (handle : Nat) (key : StreamKey) : Prop :=
  ∃ front back, operations = front ++ .closeStream handle :: back
    ∧ (start.performAll front).address? handle = some key ∧ ∀ other, .moveStream handle other ∈ back → other = key

/-- After a run, a stream was closed and has been given no other address since. -/
def Closed (start : DataSink) (operations : List SinkOperation) (handle : Nat) : Prop :=
  ∃ key, start.ClosedAt operations handle key

variable {start : DataSink} {operations : List SinkOperation} {operation : SinkOperation}

theorem performAll_concat (start : DataSink) (operations : List SinkOperation) (operation : SinkOperation) :
    start.performAll (operations ++ [operation]) = (start.performAll operations).perform operation :=
  List.foldl_concat ..

theorem closedAt_concat : start.ClosedAt (operations ++ [operation]) handle key
    ↔ (operation = .closeStream handle ∧ (start.performAll operations).address? handle = some key)
      ∨ (start.ClosedAt operations handle key ∧ ∀ other, operation = .moveStream handle other → other = key) := by
  constructor
  · rintro ⟨front, back, hsplit, haddress, hkept⟩
    rcases List.eq_nil_or_concat back with rfl | ⟨middle, last, rfl⟩
    · obtain ⟨rfl, hlast⟩ := List.append_inj' hsplit rfl
      exact .inl ⟨List.singleton_inj.mp hlast, haddress⟩
    · rw [List.concat_eq_append, ← List.cons_append, ← List.append_assoc] at hsplit
      obtain ⟨rfl, hlast⟩ := List.append_inj' hsplit rfl
      rw [List.concat_eq_append] at hkept
      refine .inr ⟨⟨front, middle, rfl, haddress, fun other hmem => hkept other (List.mem_append_left _ hmem)⟩, ?_⟩
      intro other hmove
      refine hkept other (List.mem_append_right _ ?_)
      rw [← hlast, hmove]
      exact List.mem_singleton_self _
  · rintro (⟨rfl, haddress⟩ | ⟨⟨front, back, rfl, haddress, hkept⟩, hlast⟩)
    · exact ⟨operations, [], rfl, haddress, fun other hmem => (List.not_mem_nil hmem).elim⟩
    · refine ⟨front, back ++ [operation], ?_, haddress, ?_⟩
      · rw [List.append_assoc, List.cons_append]
      · intro other hmem
        rcases List.mem_append.mp hmem with hold | hnew
        · exact hkept other hold
        · exact hlast other (List.mem_singleton.mp hnew).symm

theorem not_closedAt_nil : ¬ start.ClosedAt [] handle key := by
  rintro ⟨front, back, hsplit, -⟩
  exact List.append_ne_nil_of_right_ne_nil front (List.cons_ne_nil _ _) hsplit.symm

/-- A closed stream is still at the address at which it was closed, unless it was dropped. -/
theorem ClosedAt.address (h : start.ClosedAt operations handle key) :
    handle < (start.performAll operations).receivers.length
      ∧ ((start.performAll operations).address? handle = some key
        ∨ (start.performAll operations).address? handle = none) := by
  induction operations using List.reverseRecOn with
  | nil => exact (not_closedAt_nil h).elim
  | append_singleton operations operation ih =>
    rw [performAll_concat]
    rcases closedAt_concat.mp h with ⟨rfl, haddress⟩ | ⟨hclosed, hkept⟩
    · obtain ⟨stream, hstream, -⟩ := Option.map_eq_some_iff.mp haddress
      exact address?_perform (lt_length_of_receiver? hstream) (by simp) (.inl haddress)
    · obtain ⟨hlt, haddress⟩ := ih hclosed
      exact address?_perform hlt hkept haddress

/-- An operation that neither closes a stream nor gives it another address leaves it open or closed. -/
theorem closed_concat_of_other (hclose : operation ≠ .closeStream handle)
    (hmove : ∀ other, operation = .moveStream handle other →
      (start.performAll operations).address? handle = some other) :
    start.Closed (operations ++ [operation]) handle ↔ start.Closed operations handle := by
  refine exists_congr fun key => closedAt_concat.trans ?_
  rw [or_iff_right (fun h => hclose h.1), and_iff_left_iff_imp]
  intro hclosed other hother
  rcases hclosed.address.2 with haddress | hnone
  · exact Option.some.inj ((hmove other hother).symm.trans haddress)
  · exact (Option.some_ne_none _ ((hmove other hother).symm.trans hnone)).elim

theorem closed_closeStream (h : (start.performAll operations).address? handle = some key) :
    start.Closed (operations ++ [.closeStream handle]) handle := ⟨key, closedAt_concat.mpr (.inl ⟨rfl, h⟩)⟩

/-- A stream that is given another address is no longer closed. -/
theorem not_closed_moveStream (h : (start.performAll operations).address? handle = some old) (hne : old ≠ key) :
    ¬ start.Closed (operations ++ [.moveStream handle key]) handle := by
  rintro ⟨closedKey, hclosed⟩
  rcases closedAt_concat.mp hclosed with ⟨hfalse, -⟩ | ⟨hclosed, hkept⟩
  · cases hfalse
  · rcases hclosed.address.2 with haddress | hnone
    · exact hne ((Option.some.inj (h.symm.trans haddress)).trans (hkept key rfl).symm)
    · exact Option.some_ne_none _ (h.symm.trans hnone)

/-! ### Subscriptions -/

/-- The subscriptions of a sink are those of the streams that listen, each to its address. -/
structure InStep (sink : DataSink) (listens : Nat → Prop) : Prop where
  attached : sink.attached = true
  represents : ∃ pairs, sink.router.Represents pairs ∧ ∀ key subscriber, (key, subscriber) ∈ pairs
    ↔ ∃ handle, subscriber = .receiver handle ∧ listens handle ∧ sink.address? handle = some key

namespace InStep

variable {listens later : Nat → Prop}

/-- Only streams that exist matter. -/
theorem congr (h : sink.InStep listens)
    (hlater : ∀ handle key, sink.address? handle = some key → (listens handle ↔ later handle)) : sink.InStep later := by
  obtain ⟨pairs, hpairs, hmem⟩ := h.represents
  refine ⟨h.attached, pairs, hpairs, fun key subscriber => (hmem key subscriber).trans ?_⟩
  exact exists_congr fun handle => and_congr_right fun _ => and_congr_left fun haddress => hlater handle key haddress

theorem of_sameListeners {other : DataSink} (h : sink.InStep listens) (hsame : sink.SameListeners other) :
    other.InStep listens := by
  obtain ⟨pairs, hpairs, hmem⟩ := h.represents
  refine ⟨hsame.attached.trans h.attached, pairs, hsame.router.symm ▸ hpairs, fun key subscriber => ?_⟩
  refine (hmem key subscriber).trans (exists_congr fun handle => ?_)
  rw [hsame.address]

/-- A stream that is opened listens. -/
theorem openStream (h : sink.InStep listens) (key : StreamKey) (payloadType : PayloadType) :
    (sink.openStream key payloadType).2.InStep fun handle => handle = sink.receivers.length ∨ listens handle := by
  obtain ⟨pairs, hpairs, hmem⟩ := h.represents
  refine ⟨h.attached, _, (hpairs.subscribe key (.receiver sink.receivers.length)).2, fun other subscriber => ?_⟩
  rw [Subscriptions.mem_add, hmem, Prod.mk.injEq]
  constructor
  · rintro (⟨rfl, rfl⟩ | ⟨handle, rfl, hlistens, haddress⟩)
    · exact ⟨_, rfl, .inl rfl, (address?_openStream ..).trans (if_pos rfl)⟩
    · obtain ⟨stream, hstream, -⟩ := Option.map_eq_some_iff.mp haddress
      refine ⟨handle, rfl, .inr hlistens, (address?_openStream ..).trans ?_⟩
      rwa [if_neg (lt_length_of_receiver? hstream).ne]
  · rintro ⟨handle, rfl, hlistens, haddress⟩
    rw [address?_openStream] at haddress
    split at haddress
    · rename_i hnew
      exact .inl ⟨(Option.some.inj haddress).symm, congrArg _ hnew⟩
    · rename_i hold
      exact .inr ⟨handle, rfl, hlistens.resolve_left hold, haddress⟩

/-- A stream that is given another address listens there, even when it was closed. -/
theorem moveStream (h : sink.InStep listens) (haddress : sink.address? handle = some old) (hne : old ≠ key) :
    (sink.moveStream handle key).InStep fun other => other = handle ∨ listens other := by
  obtain ⟨pairs, hpairs, hmem⟩ := h.represents
  -- the pair of the new address is added whether or not there was one of the old address to take out
  have hmoved := hpairs.move old key (.receiver handle)
  rw [if_neg hne] at hmoved
  have hrouter : (sink.moveStream handle key).router = sink.router.move old key (.receiver handle) := by
    rw [moveStream_of_ne h.attached haddress hne]
    rfl
  have hattached : (sink.moveStream handle key).attached = true := by
    rw [moveStream_of_ne h.attached haddress hne]
    exact h.attached
  refine ⟨hattached, _, hrouter.symm ▸ hmoved, fun other subscriber => ?_⟩
  rw [Subscriptions.mem_add, hpairs.pairs_nodup.mem_erase_iff, hmem, Prod.mk.injEq]
  constructor
  · rintro (⟨rfl, rfl⟩ | ⟨hother, found, rfl, hlistens, hfound⟩)
    · refine ⟨handle, rfl, .inl rfl, ?_⟩
      rw [address?_moveStream, if_pos rfl, haddress]
      rfl
    · refine ⟨found, rfl, .inr hlistens, ?_⟩
      rw [address?_moveStream, if_neg, hfound]
      rintro rfl
      exact hother (Prod.ext (Option.some.inj (hfound.symm.trans haddress)) rfl)
  · rintro ⟨found, rfl, hlistens, hfound⟩
    rw [address?_moveStream] at hfound
    split at hfound
    · rename_i hsame
      subst hsame
      rw [haddress] at hfound
      exact .inl ⟨(Option.some.inj hfound).symm, rfl⟩
    · rename_i hother
      refine .inr ⟨fun hsame => hother ?_, found, rfl, hlistens.resolve_left hother, hfound⟩
      exact Subscriber.receiver.inj (congrArg Prod.snd hsame)

/-- A stream that is closed no longer listens. -/
theorem closeStream (h : sink.InStep listens) (handle : Nat) :
    (sink.closeStream handle).InStep fun other => other ≠ handle ∧ listens other := by
  cases haddress : sink.address? handle with
  | none =>
    rw [closeStream_of_none haddress]
    refine h.congr fun other key hother => (and_iff_right ?_).symm
    rintro rfl
    exact Option.some_ne_none _ (hother.symm.trans haddress)
  | some key =>
    obtain ⟨pairs, hpairs, hmem⟩ := h.represents
    rw [closeStream_of_some h.attached haddress]
    refine ⟨h.attached, _, (hpairs.unsubscribe key (.receiver handle)).2, fun other subscriber => ?_⟩
    rw [hpairs.pairs_nodup.mem_erase_iff, hmem]
    constructor
    · rintro ⟨hother, found, rfl, hlistens, hfound⟩
      refine ⟨found, rfl, ⟨?_, hlistens⟩, hfound⟩
      rintro rfl
      exact hother (Prod.ext (Option.some.inj (hfound.symm.trans haddress)) rfl)
    · rintro ⟨found, rfl, ⟨hother, hlistens⟩, hfound⟩
      exact ⟨fun hsame => hother (Subscriber.receiver.inj (congrArg Prod.snd hsame)), found, rfl, hlistens, hfound⟩

theorem dropStream (h : sink.InStep listens) (handle : Nat) : (sink.dropStream handle).InStep listens := by
  obtain ⟨hattached, pairs, hpairs, hmem⟩ := h.closeStream handle
  refine ⟨hattached, pairs, hpairs, fun other subscriber => (hmem other subscriber).trans ?_⟩
  refine exists_congr fun found => ?_
  rw [address?_closeStream, address?_dropStream]
  by_cases hsame : found = handle
  · rw [if_pos hsame]
    exact ⟨fun hfound => (hfound.2.1.1 hsame).elim, fun hfound => (Option.some_ne_none _ hfound.2.2.symm).elim⟩
  · rw [if_neg hsame, and_iff_right hsame]

/-- One operation: the streams that are not closed listen. -/
theorem perform (h : (start.performAll operations).InStep fun handle => ¬ start.Closed operations handle)
    (hown : operation.isForeign = false) :
    (start.performAll (operations ++ [operation])).InStep
      fun handle => ¬ start.Closed (operations ++ [operation]) handle := by
  rw [performAll_concat]
  -- streams that the operation neither closes nor moves
  have hother : ∀ handle, operation ≠ .closeStream handle → (∀ key, operation ≠ .moveStream handle key) →
      (¬ start.Closed (operations ++ [operation]) handle ↔ ¬ start.Closed operations handle) :=
    fun handle hclose hmove => not_congr (closed_concat_of_other hclose fun key hkey => (hmove key hkey).elim)
  cases operation with
  | openStream key payloadType =>
    refine (h.openStream key payloadType).congr fun handle _ _ => ?_
    rw [hother handle (by simp) (by simp), or_iff_right_iff_imp]
    rintro rfl ⟨closedKey, hclosed⟩
    exact lt_irrefl _ hclosed.address.1
  | moveStream handle key =>
    cases haddress : (start.performAll operations).address? handle with
    | none =>
      rw [DataSink.perform, moveStream_of_none haddress]
      refine h.congr fun other otherKey hfound => (hother other (by simp) ?_).symm
      rintro _ ⟨⟩
      exact Option.some_ne_none _ (hfound.symm.trans haddress)
    | some old =>
      by_cases hne : old = key
      · subst hne
        rw [DataSink.perform, moveStream_self haddress]
        refine h.congr fun other otherKey _ => (not_congr (closed_concat_of_other ?_ ?_)).symm
        · simp
        · rintro moved ⟨⟩
          exact haddress
      · refine (h.moveStream haddress hne).congr fun other otherKey _ => ?_
        by_cases hsame : other = handle
        · subst hsame
          exact iff_of_true (.inl rfl) (not_closed_moveStream haddress hne)
        · rw [or_iff_right hsame]
          refine (hother other (by simp) ?_).symm
          rintro _ ⟨⟩
          exact hsame rfl
  | closeStream handle =>
    refine (h.closeStream handle).congr fun other otherKey hfound => ?_
    rw [address?_closeStream] at hfound
    by_cases hsame : other = handle
    · subst hsame
      exact iff_of_false (fun hfalse => hfalse.1 rfl) (not_not_intro (closed_closeStream hfound))
    · rw [and_iff_right hsame]
      refine (hother other ?_ (by simp)).symm
      rintro ⟨⟩
      exact hsame rfl
  | dropStream handle =>
    exact (h.dropStream handle).congr fun other _ _ =>
      (hother other (by simp) (by simp)).symm
  | subscribe | unsubscribe | detach => cases hown
  | takeFrame | takeEthernetFrame | expire | receiveDirectly | tryReceive | drain | takeObserved =>
    exact (h.of_sameListeners (sameListeners_quiet rfl _)).congr fun other _ _ =>
      (hother other (by simp) (by simp)).symm

theorem performAll (hnew : start.attached = true ∧ start.receivers = [] ∧ start.router = {})
    (hown : ∀ operation ∈ operations, operation.isForeign = false) :
    (start.performAll operations).InStep fun handle => ¬ start.Closed operations handle := by
  induction operations using List.reverseRecOn with
  | nil =>
    obtain ⟨hattached, hreceivers, hrouter⟩ := hnew
    refine ⟨hattached, [], ?_, fun key subscriber => iff_of_false List.not_mem_nil ?_⟩
    · show start.router.Represents []
      rw [hrouter]
      exact Router.represents_new
    · rintro ⟨handle, -, -, haddress⟩
      obtain ⟨stream, hstream, -⟩ := Option.map_eq_some_iff.mp haddress
      have hlt : handle < start.receivers.length := lt_length_of_receiver? hstream
      rw [hreceivers] at hlt
      exact Nat.not_lt_zero _ hlt
  | append_singleton operations operation ih =>
    obtain ⟨hfirst, hlast⟩ := List.forall_mem_append.mp hown
    exact (ih hfirst).perform (hlast operation (List.mem_singleton_self _))

theorem mem_handlers_iff (h : sink.InStep listens) {stream : SinkStream}
    (hstream : sink.receiver? handle = some stream) :
    .receiver handle ∈ sink.router.handlers key ↔ key = stream.key ∧ listens handle := by
  obtain ⟨pairs, hpairs, hmem⟩ := h.represents
  rw [hpairs.mem_handlers, hmem]
  constructor
  · rintro ⟨found, hfound, hlistens, haddress⟩
    obtain rfl := Subscriber.receiver.inj hfound
    rw [address?, hstream] at haddress
    exact ⟨(Option.some.inj haddress).symm, hlistens⟩
  · rintro ⟨rfl, hlistens⟩
    refine ⟨handle, rfl, hlistens, ?_⟩
    rw [address?, hstream]
    rfl

theorem not_mem_handlers (h : sink.InStep listens) (hnone : sink.receiver? handle = none) :
    .receiver handle ∉ sink.router.handlers key := by
  obtain ⟨pairs, hpairs, hmem⟩ := h.represents
  rw [hpairs.mem_handlers, hmem]
  rintro ⟨found, hfound, -, haddress⟩
  obtain rfl := Subscriber.receiver.inj hfound
  rw [address?, hnone] at haddress
  cases haddress

/-- There are as many subscriptions as streams that listen. -/
theorem size_eq (h : sink.InStep listens) :
    sink.router.size = {handle | (sink.receiver? handle).isSome = true ∧ listens handle}.ncard := by
  obtain ⟨pairs, hpairs, hmem⟩ := h.represents
  -- the streams that listen are as many as the pairs, one pair for each
  let pairOf : Nat → StreamKey × Subscriber := fun handle => ((sink.address? handle).getD default, .receiver handle)
  have hinjective : Function.Injective pairOf := fun first second hsame =>
    Subscriber.receiver.inj (congrArg Prod.snd hsame)
  have himage : pairOf '' {handle | (sink.receiver? handle).isSome = true ∧ listens handle} = ↑pairs.toFinset := by
    ext ⟨key, subscriber⟩
    rw [Set.mem_image, Finset.mem_coe, List.mem_toFinset, hmem]
    refine exists_congr fun handle => ?_
    constructor
    · rintro ⟨⟨hlive, hlistens⟩, hpair⟩
      obtain ⟨stream, hstream⟩ := Option.isSome_iff_exists.mp hlive
      obtain ⟨hkey, rfl⟩ := Prod.mk.inj hpair
      refine ⟨rfl, hlistens, ?_⟩
      rw [address?, hstream] at hkey ⊢
      exact congrArg some hkey
    · rintro ⟨rfl, hlistens, haddress⟩
      refine ⟨⟨?_, hlistens⟩, Prod.ext ?_ rfl⟩
      · obtain ⟨stream, hstream, -⟩ := Option.map_eq_some_iff.mp haddress
        show (sink.receiver? handle).isSome = true
        rw [hstream]
        rfl
      · show (sink.address? handle).getD default = key
        rw [haddress]
        rfl
  rw [← Set.ncard_image_of_injective _ hinjective, himage, Set.ncard_coe_finset,
    List.toFinset_card_of_nodup hpairs.pairs_nodup, hpairs.size_eq]

theorem distinct (h : sink.InStep listens) : sink.router.Distinct := by
  obtain ⟨pairs, hpairs, -⟩ := h.represents
  exact hpairs.distinct

end InStep

/-- A stream that subscribes to nothing is given nothing. -/
theorem receiver?_takeFrame (hdistinct : sink.router.Distinct)
    (hsilent : ∀ key, .receiver handle ∉ sink.router.handlers key) (now : Nat) (frame : Bytes) :
    (sink.takeFrame now frame).1.receiver? handle = sink.receiver? handle := by
  have hnoted : (sink.noted now frame).router = sink.router
      ∧ (sink.noted now frame).receiver? handle = sink.receiver? handle := ⟨rfl, rfl⟩
  rw [takeFrame_fst]
  refine (dispatch_publishes (·.router) react
    (fun world : DataSink => world.router = sink.router ∧ world.receiver? handle = sink.receiver? handle) ?_ hnoted).2
  rintro ⟨key, group⟩ _ world ⟨hrouter, hreceiver⟩
  rw [publish, hrouter]
  obtain ⟨-, hkept⟩ := foldl_react_decoder (sink.router.handlers key) world key group
  refine ⟨hkept.trans hrouter, ?_⟩
  rw [receiver?_foldl_react (hdistinct.handlers key), if_neg (hsilent key)]
  exact hreceiver

/-- A run of operations on the streams of a new sink, which may also be fed frames.  A stream listens at its own address
and at no other, unless it was closed and has been given no other address since; a stream that was dropped listens
nowhere; there are as many subscriptions as streams that listen; and a frame gives nothing to a closed stream. -/
theorem performAll_listening {config : LinkConfig} (hcreate : create config = .ok start)
    (hown : ∀ operation ∈ operations, operation.isForeign = false) :
    let sink := start.performAll operations
    (∀ handle stream, sink.receiver? handle = some stream → ∀ key,
        .receiver handle ∈ sink.router.handlers key ↔ key = stream.key ∧ ¬ start.Closed operations handle)
      ∧ (∀ handle, sink.receiver? handle = none → ∀ key, .receiver handle ∉ sink.router.handlers key)
      ∧ (∀ key, (sink.router.handlers key).Nodup)
      ∧ sink.router.size = {handle | (sink.receiver? handle).isSome = true ∧ ¬ start.Closed operations handle}.ncard
      ∧ ∀ handle, start.Closed operations handle → ∀ now frame,
        (sink.takeFrame now frame).1.receiver? handle = sink.receiver? handle
          ∧ (sink.takeEthernetFrame now frame).1.receiver? handle = sink.receiver? handle := by
  intro sink
  have hnew : start.attached = true ∧ start.receivers = [] ∧ start.router = {} := by
    rw [create] at hcreate
    cases hvalidate : config.validate with
    | error error =>
      rw [hvalidate] at hcreate
      cases hcreate
    | ok accepted =>
      rw [hvalidate] at hcreate
      cases hcreate
      exact ⟨rfl, rfl, rfl⟩
  have hstep : sink.InStep fun handle => ¬ start.Closed operations handle := InStep.performAll hnew hown
  refine ⟨fun handle stream hstream key => hstep.mem_handlers_iff hstream,
    fun handle hnone key => hstep.not_mem_handlers hnone, hstep.distinct.handlers, hstep.size_eq,
    fun handle hclosed now frame => ?_⟩
  have hsilent : ∀ key, .receiver handle ∉ sink.router.handlers key := by
    intro key
    cases hstream : sink.receiver? handle with
    | none => exact hstep.not_mem_handlers hstream
    | some stream => exact fun hmem => ((hstep.mem_handlers_iff hstream).mp hmem).2 hclosed
  refine ⟨receiver?_takeFrame hstep.distinct hsilent now frame, ?_⟩
  rw [takeEthernetFrame]
  split
  · exact receiver?_takeFrame hstep.distinct hsilent now _
  · rfl

/-- Three streams at one address: the first is moved, the second closed, the third dropped; then a frame comes. -/
def sharedOperations : List SinkOperation :=
  [.openStream ⟨7, 1, 9⟩ .can, .openStream ⟨7, 1, 9⟩ .can, .openStream ⟨7, 1, 9⟩ .can, .moveStream 0 ⟨7, 1, 10⟩,
    .closeStream 1, .moveStream 1 ⟨7, 1, 9⟩, .dropStream 2, .takeFrame 0 busFrame]

theorem performAll_listening_shared :
    create {} = .ok newSink ∧ (∀ operation ∈ sharedOperations, operation.isForeign = false)
      ∧ newSink.Closed sharedOperations 1
      ∧ (newSink.performAll sharedOperations).router.size
        = {handle | ((newSink.performAll sharedOperations).receiver? handle).isSome = true
            ∧ ¬ newSink.Closed sharedOperations handle}.ncard
      ∧ ∀ now frame, ((newSink.performAll sharedOperations).takeFrame now frame).1.receiver? 1
        = (newSink.performAll sharedOperations).receiver? 1 := by
  have hcreate : create {} = .ok newSink := rfl
  have hown : ∀ operation ∈ sharedOperations, operation.isForeign = false := by decide
  have hclosed : newSink.Closed sharedOperations 1 := by
    refine ⟨⟨7, 1, 9⟩, sharedOperations.take 4, sharedOperations.drop 5, rfl, by decide +kernel, ?_⟩
    intro other hmem
    simpa [sharedOperations] using hmem
  obtain ⟨-, -, -, hsize, hsilent⟩ := performAll_listening hcreate hown
  exact ⟨hcreate, hown, hclosed, hsize, fun now frame => (hsilent 1 hclosed now frame).1⟩

/-- A closed stream that is given another address listens there, and is given the frame that comes for it. -/
theorem listening_reopened :
    let closed := newSink.performAll [.openStream ⟨7, 1, 10⟩ .can, .closeStream 0]
    let moved := closed.perform (.moveStream 0 ⟨7, 1, 9⟩)
    closed.router.size = 0 ∧ moved.router.size = 1 ∧ moved.router.handlers ⟨7, 1, 9⟩ = [.receiver 0]
      ∧ (moved.receiver? 0).map (·.received) = some 0
      ∧ ((moved.takeFrame 0 busFrame).1.receiver? 0).map (·.received) = some 1 := by
  decide +kernel

end DataSink

end CaptureProtocol
