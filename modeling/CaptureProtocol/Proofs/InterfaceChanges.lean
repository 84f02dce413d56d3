import CaptureProtocol.Capture.Interface
import CaptureProtocol.Proofs.Bookkeeping
import Mathlib

/-!
# What an operation of an interface does to the shared parts

* `BusInterface.Follows` — an operation leaves the interface identifiers in step with the identifier of the interface,
  and touches neither the rest of the shared parts nor its streams; `changeId_follows` and `commit_follows` show it;
* `changeId_refused`, `changeKind_refused` — what is refused changes nothing.
-/

namespace CaptureProtocol

namespace BusInterface

variable {T : Type} {resources after : LinkResources T} {interface next : BusInterface} {holder : Nat → Option UInt32}
  {key : Nat}

/-- What an operation of the interface that holds `key` leaves behind. -/
structure Follows (holder : Nat → Option UInt32) (key : Nat) (resources : LinkResources T) (interface : BusInterface)
    (after : LinkResources T) (next : BusInterface) : Prop where
  tracks : after.interfaceIds.Tracks (Function.update holder key (some next.id))
  rest : after = { resources with interfaceIds := after.interfaceIds }
  streams : next.streams = interface.streams

theorem follows_of_id (h : resources.interfaceIds.Tracks holder) (hkey : holder key = some interface.id)
    (hid : next.id = interface.id) (hstreams : next.streams = interface.streams) :
    Follows holder key resources interface resources next where
  tracks := by
    rw [hid, ← hkey, Function.update_eq_self]
    exact h
  rest := rfl
  streams := hstreams

theorem Follows.trans {middle : LinkResources T} {between : BusInterface}
    (hfirst : Follows holder key resources interface middle between)
    (hsecond : Follows (Function.update holder key (some between.id)) key middle between after next) :
    Follows holder key resources interface after next where
  tracks := by
    have htracks := hsecond.tracks
    rwa [Function.update_idem] at htracks
  rest := by
    rw [hsecond.rest, hfirst.rest]
  streams := hsecond.streams.trans hfirst.streams

theorem moveToId_follows (h : resources.interfaceIds.Tracks holder) (hkey : holder key = some interface.id)
    (id : UInt32) :
    Follows holder key resources interface (moveToId resources interface id).1
      (moveToId resources interface id).2.1 := by
  rw [moveToId]
  cases hreplace : resources.interfaceIds.replace interface.id id with
  | error error => exact follows_of_id h hkey rfl rfl
  | ok pool =>
    rcases IdPool.replace_eq_ok hreplace with ⟨rfl, rfl⟩ | ⟨hne, hcovers, hfree, rfl⟩
    · exact follows_of_id h hkey rfl rfl
    · exact ⟨h.exchange hkey hne hcovers hfree, rfl, rfl⟩

theorem moveToId_refused {id : UInt32} (hrefused : (moveToId resources interface id).2.2 = false) :
    moveToId resources interface id = (resources, interface, false) := by
  rw [moveToId] at hrefused ⊢
  cases hreplace : resources.interfaceIds.replace interface.id id with
  | error error => rfl
  | ok pool =>
    rw [hreplace] at hrefused
    cases hrefused

theorem moveToKind_id (interface : BusInterface) (kind : PayloadType) :
    (moveToKind interface kind).1.id = interface.id ∧ (moveToKind interface kind).1.streams = interface.streams := by
  rw [moveToKind]
  split <;> exact ⟨rfl, rfl⟩

theorem moveToKind_refused {kind : PayloadType} (hrefused : (moveToKind interface kind).2 = false) :
    moveToKind interface kind = (interface, false) := by
  rw [moveToKind] at hrefused ⊢
  split_ifs at hrefused ⊢
  rfl

theorem changeId_follows (h : resources.interfaceIds.Tracks holder) (hkey : holder key = some interface.id)
    (id : UInt32) :
    Follows holder key resources interface (changeId resources interface id).1
      (changeId resources interface id).2.1 := by
  rw [changeId]
  split
  · exact follows_of_id h hkey rfl rfl
  · exact moveToId_follows h hkey id

theorem changeId_refused {id : UInt32} (hrefused : (changeId resources interface id).2.2 = false) :
    changeId resources interface id = (resources, interface, false) := by
  rw [changeId] at hrefused ⊢
  split at hrefused
  · cases hrefused
  · exact moveToId_refused hrefused

theorem changeKind_id (interface : BusInterface) (kind : PayloadType) :
    (changeKind interface kind).1.id = interface.id ∧ (changeKind interface kind).1.streams = interface.streams := by
  rw [changeKind]
  split
  · exact ⟨rfl, rfl⟩
  · exact moveToKind_id interface kind

theorem changeKind_refused {kind : PayloadType} (hrefused : (changeKind interface kind).2 = false) :
    changeKind interface kind = (interface, false) := by
  rw [changeKind] at hrefused ⊢
  split at hrefused
  · cases hrefused
  · exact moveToKind_refused hrefused

theorem commit_follows (h : resources.interfaceIds.Tracks holder) (hkey : holder key = some interface.id) :
    Follows holder key resources interface (commit resources interface).1 (commit resources interface).2.1 := by
  rw [commit]
  split
  · exact follows_of_id h hkey rfl rfl
  · rename_i update _
    -- the kind is applied first; it touches neither the identifier nor the streams
    have hmoved : ∀ between : BusInterface, between.id = interface.id → between.streams = interface.streams →
        ∀ id, Follows holder key resources interface (moveToId resources between id).1
          (moveToId resources between id).2.1 := by
      intro between hbetween hstreams id
      have hkind := follows_of_id h hkey hbetween hstreams
      exact hkind.trans (moveToId_follows hkind.tracks (Function.update_self ..) id)
    cases update.kind with
    | none =>
      cases update.id with
      | none => exact follows_of_id h hkey rfl rfl
      | some id => exact hmoved { interface with staged := none } rfl rfl id
    | some kind =>
      obtain ⟨hsame, hstreams⟩ := moveToKind_id { interface with staged := none } kind
      cases update.id with
      | none => exact follows_of_id h hkey hsame hstreams
      | some id => exact hmoved _ hsame hstreams id

end BusInterface

end CaptureProtocol
