import CaptureProtocol.Proofs.Inlets
import Mathlib

/-!
# What an inlet remembers

Signals are connected to an inlet and taken away, and its payload type changes.  What the inlet does with values
depends on its payload type and on the last signal alone.

* `InletEvent`, `SignalInlet.perform`, `performAll` — the events and what they do;
* `InletEvent.lastType`, `InletEvent.lastSignal` — the payload type and the signal that events leave;
* `SignalShape.fits` — the shapes that a payload type can carry;
* `SignalInlet.Consistent` — the state and the quantizer of an inlet are those of its signal; every event keeps that;
* `SignalInlet.packets?_congr` — consistent inlets with the same payload type and signal send the same;
  `Consistent.packets?_eq_connect` puts a new inlet beside any consistent one;
* `SignalInlet.performAll_new` — a new inlet after events.
-/

namespace CaptureProtocol

/-- What happens to an inlet. -/
inductive InletEvent where
  | connect (shape : Option SignalShape) (axis : Option TimeAxis)
  | disconnect
  | retype (payloadType : PayloadType)
deriving Inhabited, Repr

namespace InletEvent

/-- Whether the signal goes away. -/
def isDisconnect : InletEvent → Bool
  | disconnect => true
  | connect .. | retype _ => false

/-- The signal that is connected, of which each part may be missing. -/
def signal? : InletEvent → Option (Option SignalShape × Option TimeAxis)
  | connect shape axis => some (shape, axis)
  | disconnect | retype _ => none

/-- The payload type that is set. -/
def payloadType? : InletEvent → Option PayloadType
  | retype payloadType => some payloadType
  | connect .. | disconnect => none

/-- The payload type after events: the one that was set last, or else the first. -/
def lastType (first : PayloadType) (events : List InletEvent) : PayloadType :=
  (events.reverse.findSome? payloadType?).getD first

/-- The signal after events: the one that was connected last after the signal last went away. -/
def lastSignal (events : List InletEvent) : Option (Option SignalShape × Option TimeAxis) :=
  (events.reverse.takeWhile fun event => !event.isDisconnect).findSome? signal?

variable (first : PayloadType) (events : List InletEvent)

theorem lastType_append (event : InletEvent) :
    lastType first (events ++ [event]) = event.payloadType?.getD (lastType first events) := by
  rw [lastType, List.reverse_append]
  cases event <;> rfl

theorem lastSignal_connect (shape : Option SignalShape) (axis : Option TimeAxis) :
    lastSignal (events ++ [connect shape axis]) = some (shape, axis) := by
  rw [lastSignal, List.reverse_append]
  rfl

theorem lastSignal_disconnect : lastSignal (events ++ [disconnect]) = none := by
  rw [lastSignal, List.reverse_append]
  rfl

theorem lastSignal_retype (payloadType : PayloadType) :
    lastSignal (events ++ [retype payloadType]) = lastSignal events := by
  rw [lastSignal, List.reverse_append]
  rfl

end InletEvent

/-- Whether a payload type can carry values of a shape. -/
def SignalShape.fits (shape : SignalShape) : PayloadType → Bool
  | .can | .canFd => shape.isCan
  | .analog => shape.isSingleNumber && (Quantizer.derive? shape).isSome
  | _ => false

namespace SignalInlet

variable {inlet other : SignalInlet}

/-- The inlet after an event. -/
def perform (inlet : SignalInlet) : InletEvent → SignalInlet
  | .connect shape axis => inlet.connect shape axis
  | .disconnect => inlet.disconnect
  | .retype payloadType => inlet.retype payloadType

/-- The inlet after events, one after the other. -/
def performAll (inlet : SignalInlet) (events : List InletEvent) : SignalInlet := events.foldl perform inlet

theorem performAll_append (inlet : SignalInlet) (events : List InletEvent) (event : InletEvent) :
    inlet.performAll (events ++ [event]) = (inlet.performAll events).perform event := by
  rw [performAll, List.foldl_append]
  rfl

/-! ### The signal of an inlet -/

theorem check_signal (inlet : SignalInlet) : inlet.check.shape = inlet.shape ∧ inlet.check.axis = inlet.axis := by
  unfold check
  repeat' split
  all_goals exact ⟨rfl, rfl⟩

theorem retype_signal (inlet : SignalInlet) (payloadType : PayloadType) :
    (inlet.retype payloadType).shape = inlet.shape ∧ (inlet.retype payloadType).axis = inlet.axis := by
  rw [retype]
  split
  · exact ⟨rfl, rfl⟩
  · exact check_signal _

theorem disconnect_signal (inlet : SignalInlet) : inlet.disconnect.shape = none ∧ inlet.disconnect.axis = none := by
  rw [disconnect]
  split <;> exact ⟨rfl, rfl⟩

/-- A new inlet has the payload type and the signal that events leave. -/
theorem performAll_signal (first : PayloadType) (events : List InletEvent) :
    (performAll { payloadType := first } events).payloadType = InletEvent.lastType first events
      ∧ (performAll { payloadType := first } events).shape = (InletEvent.lastSignal events).bind (·.1)
      ∧ (performAll { payloadType := first } events).axis = (InletEvent.lastSignal events).bind (·.2) := by
  induction events using List.reverseRecOn with
  | nil => exact ⟨rfl, rfl, rfl⟩
  | append_singleton events event ih =>
    obtain ⟨htype, hshape, haxis⟩ := ih
    rw [performAll_append, InletEvent.lastType_append]
    cases event with
    | connect shape axis =>
      rw [InletEvent.lastSignal_connect]
      exact ⟨(connect_payloadType ..).trans htype, check_signal _⟩
    | disconnect =>
      rw [InletEvent.lastSignal_disconnect]
      exact ⟨(disconnect_payloadType _).trans htype, disconnect_signal _⟩
    | retype payloadType =>
      rw [InletEvent.lastSignal_retype]
      obtain ⟨hsameShape, hsameAxis⟩ := retype_signal (performAll { payloadType := first } events) payloadType
      exact ⟨retype_payloadType .., hsameShape.trans hshape, hsameAxis.trans haxis⟩

/-! ### Consistent inlets -/

/-- The state and the quantizer of an inlet are those of its signal. -/
structure Consistent (inlet : SignalInlet) : Prop where
  settled : inlet.Settled
  connected_iff : inlet.state = .connected ↔
    ∃ shape axis, inlet.shape = some shape ∧ inlet.axis = some axis ∧ shape.fits inlet.payloadType = true
  quantizer_iff : inlet.quantizer.isSome = true ↔ inlet.state = .connected ∧ inlet.payloadType = .analog
  current_iff : inlet.quantizerIsCurrent = true ↔ inlet.quantizer.isSome = true

/-- An inlet without a signal that is not connected and has no quantizer. -/
theorem consistent_of_none (hshape : inlet.shape = none) (hstate : inlet.state = .disconnected)
    (hquantizer : inlet.quantizer = none) (hcurrent : inlet.quantizerIsCurrent = false) : inlet.Consistent where
  settled := settled_of_state (by rw [hstate]; exact SignalState.noConfusion)
  connected_iff := by simp [hstate, hshape]
  quantizer_iff := by simp [hstate, hquantizer]
  current_iff := by simp [hcurrent, hquantizer]

theorem consistent_new (payloadType : PayloadType) : ({ payloadType } : SignalInlet).Consistent :=
  consistent_of_none rfl rfl rfl rfl

theorem consistent_check (inlet : SignalInlet) : inlet.check.Consistent := by
  obtain ⟨payloadType, state, shape, axis, quantizer, unitCode, quantizerIsCurrent⟩ := inlet
  rcases shape with _ | shape
  · exact ⟨settled_check _, by simp [check], by simp [check], by simp [check]⟩
  rcases axis with _ | axis
  · exact ⟨settled_check _, by simp [check], by simp [check], by simp [check]⟩
  cases payloadType
  case can | canFd =>
    cases hcan : shape.isCan <;>
      exact ⟨settled_check _, by simp [check, hcan, SignalShape.fits], by simp [check, hcan], by simp [check, hcan]⟩
  case analog =>
    by_cases hnumber : shape.isSingleNumber = true
    · cases hquantizer : Quantizer.derive? shape <;>
        exact ⟨settled_check _, by simp [check, hnumber, hquantizer, SignalShape.fits],
          by simp [check, hnumber, hquantizer], by simp [check, hnumber, hquantizer]⟩
    · exact ⟨settled_check _, by simp [check, hnumber, SignalShape.fits], by simp [check, hnumber],
        by simp [check, hnumber]⟩
  all_goals exact ⟨settled_check _, by simp [check, SignalShape.fits], by simp [check], by simp [check]⟩

namespace Consistent

theorem disconnect (h : inlet.Consistent) : inlet.disconnect.Consistent := by
  rw [SignalInlet.disconnect]
  split
  · exact consistent_of_none rfl rfl rfl rfl
  · -- other inlets have no quantizer that could be left over
    rename_i htype
    have hquantizer : ¬ inlet.quantizer.isSome = true := fun hsome => htype (h.quantizer_iff.mp hsome).2
    have hcurrent : ¬ inlet.quantizerIsCurrent = true := mt h.current_iff.mp hquantizer
    exact consistent_of_none rfl rfl (Option.not_isSome_iff_eq_none.mp hquantizer) (Bool.eq_false_iff.mpr hcurrent)

theorem perform (h : inlet.Consistent) (event : InletEvent) : (inlet.perform event).Consistent := by
  cases event with
  | connect shape axis => exact consistent_check _
  | disconnect => exact h.disconnect
  | retype payloadType =>
    rw [SignalInlet.perform, SignalInlet.retype]
    split
    · rename_i hnone
      obtain ⟨hshape, -⟩ := Bool.and_eq_true_iff.mp hnone
      exact consistent_of_none (Option.isNone_iff_eq_none.mp hshape) rfl rfl rfl
    · exact consistent_check _

theorem performAll (h : inlet.Consistent) (events : List InletEvent) : (inlet.performAll events).Consistent := by
  induction events generalizing inlet with
  | nil => exact h
  | cons event events ih => exact ih (h.perform event)

end Consistent

/-! ### Packets -/

/-- Consistent inlets with the same payload type and signal send the same. -/
theorem packets?_congr (h : inlet.Consistent) (hother : other.Consistent)
    (htype : inlet.payloadType = other.payloadType) (hshape : inlet.shape = other.shape)
    (haxis : inlet.axis = other.axis) (interfaceId : UInt32) (batch : SignalBatch) :
    inlet.packets? interfaceId batch = other.packets? interfaceId batch := by
  have hiff : inlet.state = .connected ↔ other.state = .connected := by
    rw [h.connected_iff, hother.connected_iff, htype, hshape, haxis]
  by_cases hstate : inlet.state = .connected
  · have hotherState := hiff.mp hstate
    obtain ⟨shape, axis, hinletShape, hinletAxis⟩ := h.settled.signal hstate
    rw [packets?, packets?, hstate, hotherState, ← haxis, hinletAxis, ← htype]
    dsimp only
    by_cases hanalog : inlet.payloadType = .analog
    · -- quantizer and unit are both derived from the one shape
      obtain ⟨quantizer, hderive, hquantizer, hunit⟩ := h.settled.analog hstate hanalog hinletShape
      obtain ⟨otherQuantizer, hotherDerive, hotherQuantizer, hotherUnit⟩ :=
        hother.settled.analog hotherState (htype ▸ hanalog) (hshape ▸ hinletShape)
      rw [hderive, Option.some.injEq] at hotherDerive
      subst hotherDerive
      rw [hanalog, hquantizer, hotherQuantizer]
      cases batch with
      | can messages => rfl
      | analog startTick values =>
        dsimp only
        rw [analogBlock, analogBlock, hunit, hotherUnit]
    · split
      · rfl
      · rfl
      · rename_i hcontra
        exact (hanalog hcontra).elim
      · rfl
  · rw [packets?_of_not_connected hstate, packets?_of_not_connected (mt hiff.mpr hstate)]

namespace Consistent

/-- A consistent inlet sends what a new inlet of its payload type sends that was given its signal. -/
theorem packets?_eq_connect (h : inlet.Consistent) (interfaceId : UInt32) (batch : SignalBatch) :
    inlet.packets? interfaceId batch
      = (connect { payloadType := inlet.payloadType } inlet.shape inlet.axis).packets? interfaceId batch := by
  let given : SignalInlet := { payloadType := inlet.payloadType, shape := inlet.shape, axis := inlet.axis }
  obtain ⟨hshape, haxis⟩ := check_signal given
  exact packets?_congr h (consistent_check given) (check_payloadType given).symm hshape.symm haxis.symm interfaceId batch

theorem packets?_of_shape_eq_none (h : inlet.Consistent) (hshape : inlet.shape = none) (interfaceId : UInt32)
    (batch : SignalBatch) : inlet.packets? interfaceId batch = some [] := by
  refine packets?_of_not_connected ?_ interfaceId batch
  intro hconnected
  obtain ⟨shape, -, hsome, -⟩ := h.connected_iff.mp hconnected
  rw [hshape] at hsome
  cases hsome

end Consistent

/-- After events a new inlet is connected when the last signal is complete and fits the last payload type; it has a
quantizer, its own, when an analog signal is connected; and it sends what another new inlet of that type sends that was
given that signal only. -/
theorem performAll_new (first : PayloadType) (events : List InletEvent) :
    let inlet := performAll { payloadType := first } events
    let payloadType := InletEvent.lastType first events
    inlet.payloadType = payloadType
      ∧ (inlet.state = .connected ↔ ∃ shape axis,
          InletEvent.lastSignal events = some (some shape, some axis) ∧ shape.fits payloadType = true)
      ∧ (inlet.quantizerIsCurrent = true ↔ inlet.quantizer.isSome = true)
      ∧ (inlet.quantizer.isSome = true ↔ inlet.state = .connected ∧ payloadType = .analog)
      ∧ ∀ interfaceId batch, inlet.packets? interfaceId batch =
          match InletEvent.lastSignal events with
          | some (shape, axis) => (connect { payloadType } shape axis).packets? interfaceId batch
          | none => some [] := by
  intro inlet payloadType
  have h : inlet.Consistent := (consistent_new _).performAll events
  obtain ⟨htype, hshape, haxis⟩ := performAll_signal _ events
  have htype : inlet.payloadType = payloadType := htype
  refine ⟨htype, ?_, h.current_iff, ?_, ?_⟩
  · rw [h.connected_iff, hshape, haxis, htype]
    constructor
    · intro hsignal
      obtain ⟨shape, axis, hshape, haxis, hfits⟩ := hsignal
      obtain ⟨signal, hlast, hshape⟩ := Option.bind_eq_some_iff.mp hshape
      rw [hlast, Option.bind_some] at haxis
      exact ⟨shape, axis, hlast.trans (congrArg some (Prod.ext hshape haxis)), hfits⟩
    · intro hsignal
      obtain ⟨shape, axis, hlast, hfits⟩ := hsignal
      rw [hlast]
      exact ⟨shape, axis, rfl, rfl, hfits⟩
  · rw [h.quantizer_iff, htype]
  · intro interfaceId batch
    cases hlast : InletEvent.lastSignal events with
    | none =>
      rw [hlast] at hshape
      exact h.packets?_of_shape_eq_none hshape interfaceId batch
    | some signal =>
      rw [hlast] at hshape haxis
      have hpackets := h.packets?_eq_connect interfaceId batch
      rw [htype, hshape, haxis] at hpackets
      exact hpackets

end SignalInlet

end CaptureProtocol
