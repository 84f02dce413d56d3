import CaptureProtocol.Proofs.Inlets
import Mathlib

/-!
# Times that should saturate

A number of ticks times the length of a tick is a product of three factors, and it is computed in 128-bit words.  Where
it fits, times saturate as they should; where it overflows, there is no time, although a time that saturates is asked
for.

* `TimeAxis.saturatedTime` — the time without any limit on products, kept within 64 bits; `saturatedTime_mono`;
* `TimeAxis.Fits` — the product fits in 128 bits; `forall_fits_iff`: for which axes it always does;
* `timeOf?_eq_some_iff`, `timeOf?_eq_none_iff` — the times that there are, all of them right, and when one is missing;
* `SignalBatch.inTime_of_num_le` — for such an axis all packets of a batch have their times;
* `timeOf?_mono`, `SignalInlet.pairwise_timestamp` — the order of times, and of the packets of bus messages;
* `TimeAxis.timeOf?_saturates` — all of this together; `timeOf?_overflows`: a time that is missing.
-/

namespace CaptureProtocol

namespace TimeAxis

variable {axis : TimeAxis} {ticks first second time later : UInt64}

/-- A time in nanoseconds, rounded down and kept within 64 bits, with a product of any size. -/
def saturatedTime (axis : TimeAxis) (ticks : UInt64) : Nat :=
  if axis.den = 0 then 0
  else min (ticks.toNat * axis.num.toNat * 10 ^ 9 / axis.den.toNat) (2 ^ 64 - 1)

/-- The product fits in a 128-bit word. -/
def Fits (axis : TimeAxis) (ticks : UInt64) : Prop := ticks.toNat * axis.num.toNat * 10 ^ 9 < 2 ^ 128

/-! ### The product -/

theorem wordProduct?_eq (left right : Nat) :
    wordProduct? left right = if left * right < 2 ^ 128 then some (left * right) else none := by
  norm_num [wordProduct?]

/-- The first multiplication never leaves the 128 bits. -/
theorem ticks_mul_num_lt (axis : TimeAxis) (ticks : UInt64) : ticks.toNat * axis.num.toNat < 2 ^ 128 := by
  have hticks := ticks.toNat_lt
  have hnum := axis.num.toNat_lt
  calc ticks.toNat * axis.num.toNat < 2 ^ 64 * 2 ^ 64 := Nat.mul_lt_mul'' hticks hnum
    _ = 2 ^ 128 := by norm_num

/-- So it is the second one that decides. -/
theorem scaledTicks?_eq (axis : TimeAxis) (ticks : UInt64) :
    axis.scaledTicks? ticks = wordProduct? (ticks.toNat * axis.num.toNat) (10 ^ 9) := by
  have hnano : (10 ^ 9 : Nat) = 1000000000 := by norm_num
  rw [scaledTicks?, wordProduct?_eq, if_pos (axis.ticks_mul_num_lt ticks), Option.bind_some, hnano]

theorem scaledTicks?_of_fits (h : axis.Fits ticks) :
    axis.scaledTicks? ticks = some (ticks.toNat * axis.num.toNat * 10 ^ 9) := by
  rw [scaledTicks?_eq, wordProduct?_eq]
  exact if_pos h

theorem scaledTicks?_of_not_fits (h : ¬ axis.Fits ticks) : axis.scaledTicks? ticks = none := by
  rw [scaledTicks?_eq, wordProduct?_eq]
  exact if_neg h

/-- Where it fits for a number of ticks it fits for fewer. -/
theorem Fits.of_le (h : axis.Fits second) (hle : first ≤ second) : axis.Fits first := by
  have hticks : first.toNat ≤ second.toNat := UInt64.le_iff_toNat_le.mp hle
  have hproduct : first.toNat * axis.num.toNat * 10 ^ 9 ≤ second.toNat * axis.num.toNat * 10 ^ 9 := by gcongr
  exact hproduct.trans_lt h

/-- The product fits for every number of ticks exactly if a tick has at most so many units. -/
theorem forall_fits_iff : (∀ ticks, axis.Fits ticks) ↔ axis.num.toNat ≤ 18446744073 := by
  constructor
  · intro h
    have hmost : (0xFFFFFFFFFFFFFFFF : UInt64).toNat * axis.num.toNat * 10 ^ 9 < 2 ^ 128 := h _
    have hvalue : (0xFFFFFFFFFFFFFFFF : UInt64).toNat = 2 ^ 64 - 1 := by decide
    rw [hvalue] at hmost
    omega
  · intro hnum ticks
    have hticks := ticks.toNat_lt
    have hproduct : ticks.toNat * axis.num.toNat ≤ (2 ^ 64 - 1) * 18446744073 := Nat.mul_le_mul (by omega) hnum
    rw [Fits]
    omega

/-! ### The time -/

theorem toNat_den_pos (hden : axis.den ≠ 0) : 0 < axis.den.toNat :=
  Nat.pos_of_ne_zero fun hzero => hden (UInt64.toNat_inj.mp hzero)

theorem saturatedTime_mono (axis : TimeAxis) (h : first ≤ second) :
    axis.saturatedTime first ≤ axis.saturatedTime second := by
  rw [saturatedTime, saturatedTime]
  split
  · exact le_rfl
  · have hticks : first.toNat ≤ second.toNat := UInt64.le_iff_toNat_le.mp h
    have hproduct : first.toNat * axis.num.toNat * 10 ^ 9 ≤ second.toNat * axis.num.toNat * 10 ^ 9 := by gcongr
    exact min_le_min_right _ (Nat.div_le_div_right hproduct)

/-- A product that does not fit is so great that the time should saturate. -/
theorem saturatedTime_of_not_fits (hden : axis.den ≠ 0) (h : ¬ axis.Fits ticks) :
    axis.saturatedTime ticks = 2 ^ 64 - 1 := by
  have hlt := axis.den.toNat_lt
  rw [Fits, Nat.not_lt] at h
  rw [saturatedTime, if_neg hden, min_eq_right_iff, Nat.le_div_iff_mul_le (toNat_den_pos hden)]
  calc (2 ^ 64 - 1) * axis.den.toNat ≤ (2 ^ 64 - 1) * 2 ^ 64 := by gcongr
    _ ≤ 2 ^ 128 := by norm_num
    _ ≤ _ := h

/-- There is a time where ticks have no length or the product fits, and it is the right one. -/
theorem timeOf?_eq_some_iff :
    axis.timeOf? ticks = some time ↔ (axis.den = 0 ∨ axis.Fits ticks) ∧ time.toNat = axis.saturatedTime ticks := by
  by_cases hden : axis.den = 0
  · rw [timeOf?, if_pos hden, saturatedTime, if_pos hden, Option.some_inj, and_iff_right (.inl hden), eq_comm]
    exact UInt64.toNat_inj.symm
  · by_cases hfits : axis.Fits ticks
    · have htime : (UInt64.ofNat (Nat.min (ticks.toNat * axis.num.toNat * 10 ^ 9 / axis.den.toNat)
            0xFFFFFFFFFFFFFFFF)).toNat = axis.saturatedTime ticks := by
        rw [saturatedTime, if_neg hden, UInt64.toNat_ofNat']
        exact Nat.mod_eq_of_lt (lt_of_le_of_lt (Nat.min_le_right _ _) (by norm_num))
      rw [timeOf?, if_neg hden, scaledTicks?_of_fits hfits, Option.map_some, Option.some_inj,
        and_iff_right (.inr hfits), ← htime, UInt64.toNat_inj, eq_comm]
    · rw [timeOf?, if_neg hden, scaledTicks?_of_not_fits hfits]
      exact iff_of_false (Option.some_ne_none _).symm fun hall => (not_or_intro hden hfits) hall.1

/-- When a time is missing. -/
theorem timeOf?_eq_none_iff : axis.timeOf? ticks = none ↔ axis.den ≠ 0 ∧ ¬ axis.Fits ticks := by
  by_cases hden : axis.den = 0
  · rw [timeOf?, if_pos hden]
    exact iff_of_false (Option.some_ne_none _) fun hall => hall.1 hden
  · rw [timeOf?, if_neg hden, Option.map_eq_none_iff, and_iff_right hden]
    by_cases hfits : axis.Fits ticks
    · rw [scaledTicks?_of_fits hfits]
      exact iff_of_false (Option.some_ne_none _) (not_not_intro hfits)
    · exact iff_of_true (scaledTicks?_of_not_fits hfits) hfits

/-- Where later ticks have a time, earlier ones have one that is not later. -/
theorem timeOf?_mono (h : first ≤ second) (hlater : axis.timeOf? second = some later) :
    ∃ earlier, axis.timeOf? first = some earlier ∧ earlier ≤ later := by
  obtain ⟨hright, hlater⟩ := timeOf?_eq_some_iff.mp hlater
  have hfirst : axis.timeOf? first ≠ none := fun hnone => by
    obtain ⟨hden, hfits⟩ := timeOf?_eq_none_iff.mp hnone
    exact hfits ((hright.resolve_left hden).of_le h)
  obtain ⟨earlier, hearlier⟩ := Option.ne_none_iff_exists'.mp hfirst
  refine ⟨earlier, hearlier, ?_⟩
  rw [UInt64.le_iff_toNat_le, (timeOf?_eq_some_iff.mp hearlier).2, hlater]
  exact axis.saturatedTime_mono h

end TimeAxis

/-- Where ticks have at most so many units, no time overflows that a batch needs. -/
theorem SignalBatch.inTime_of_num_le {axis : TimeAxis} (hnum : axis.num.toNat ≤ 18446744073) (batch : SignalBatch)
    (payloadType : PayloadType) : batch.InTime axis payloadType := fun ticks _ hnone =>
  (TimeAxis.timeOf?_eq_none_iff.mp hnone).2 (TimeAxis.forall_fits_iff.mpr hnum ticks)

/-! ### Packets of bus messages -/

namespace SignalInlet

variable {inlet : SignalInlet} {axis : TimeAxis} {interfaceId : UInt32} {messages : List CanMessage}
  {packets : List Packet}

/-- The packets of messages in the order of their ticks are in the order of their times. -/
theorem pairwise_canPackets? {flexible : Bool} (hticks : messages.Pairwise (·.tick ≤ ·.tick))
    (hpackets : canPackets? flexible interfaceId axis messages = some packets) :
    packets.Pairwise (·.timestamp ≤ ·.timestamp) := by
  rw [canPackets?, mapM_eq_some_iff] at hpackets
  rw [← filterMap_of_forall₂ hpackets, List.pairwise_filterMap]
  refine (hticks.filter _).imp fun {message later} hless packet hpacket next hnext => ?_
  obtain ⟨time, htime, rfl⟩ := Option.map_eq_some_iff.mp hpacket
  obtain ⟨nextTime, hnextTime, rfl⟩ := Option.map_eq_some_iff.mp hnext
  obtain ⟨earlier, hearlier, hle⟩ := TimeAxis.timeOf?_mono hless hnextTime
  rw [htime, Option.some_inj] at hearlier
  subst hearlier
  exact hle

/-- The packets of a batch of bus messages, whatever the inlet carries. -/
theorem packets?_can (haxis : inlet.axis = some axis) (interfaceId : UInt32) (messages : List CanMessage) :
    (∃ flexible, inlet.packets? interfaceId (.can messages) = canPackets? flexible interfaceId axis messages)
      ∨ inlet.packets? interfaceId (.can messages) = some [] := by
  rw [packets?, haxis]
  split
  · rename_i hfound
    cases hfound
    split
    · rename_i hbatch
      cases hbatch
      exact .inl ⟨false, rfl⟩
    · rename_i hbatch
      cases hbatch
      exact .inl ⟨true, rfl⟩
    · rename_i hbatch
      cases hbatch
    · exact .inr rfl
  · exact .inr rfl

theorem pairwise_timestamp (haxis : inlet.axis = some axis) (hticks : messages.Pairwise (·.tick ≤ ·.tick))
    (hpackets : inlet.packets? interfaceId (.can messages) = some packets) :
    packets.Pairwise (·.timestamp ≤ ·.timestamp) := by
  rcases packets?_can haxis interfaceId messages with ⟨flexible, hcan⟩ | hnothing
  · exact pairwise_canPackets? hticks (hcan.symm.trans hpackets)
  · rw [hnothing, Option.some_inj] at hpackets
    subst hpackets
    exact List.Pairwise.nil

/-- There are packets of a batch of bus messages if no time of a message is missing. -/
theorem packets?_ne_none (haxis : inlet.axis = some axis)
    (htimes : ∀ message ∈ messages, axis.timeOf? message.tick ≠ none) :
    inlet.packets? interfaceId (.can messages) ≠ none := by
  intro hnone
  rcases packets?_can haxis interfaceId messages with ⟨flexible, hcan⟩ | hnothing
  · obtain ⟨ticks, hticks, hmissing⟩ := canPackets?_eq_none_iff.mp (hcan.symm.trans hnone)
    obtain ⟨message, hmessage, rfl⟩ := List.mem_map.mp hticks
    exact htimes message (List.mem_of_mem_filter hmessage) hmissing
  · exact Option.some_ne_none _ (hnothing.symm.trans hnone)

end SignalInlet

/-! ### All together -/

namespace TimeAxis

/-- The time that there is for a number of ticks is always the right one.  It is missing exactly where ticks have a
length and the last product leaves the 128 bits, and only where it should saturate; no axis whose ticks have at most so
many units misses one, and every other axis does.  Later ticks have later times, and so have the packets of bus
messages, which there are if no time of a message is missing. -/
theorem timeOf?_saturates (axis : TimeAxis) :
    (∀ ticks : UInt64, ticks.toNat * axis.num.toNat < 2 ^ 128)
      ∧ (∀ ticks time, axis.timeOf? ticks = some time → time.toNat = axis.saturatedTime ticks)
      ∧ (∀ ticks, axis.timeOf? ticks = none ↔ axis.den ≠ 0 ∧ 2 ^ 128 ≤ ticks.toNat * axis.num.toNat * 10 ^ 9)
      ∧ (∀ ticks, axis.timeOf? ticks = none → axis.saturatedTime ticks = 2 ^ 64 - 1)
      ∧ ((∀ ticks, axis.timeOf? ticks ≠ none) ↔ axis.den = 0 ∨ axis.num.toNat ≤ 18446744073)
      ∧ (∀ first second later, first ≤ second → axis.timeOf? second = some later →
        ∃ earlier, axis.timeOf? first = some earlier ∧ earlier ≤ later)
      ∧ ∀ (inlet : SignalInlet) interfaceId messages, inlet.axis = some axis →
        messages.Pairwise (·.tick ≤ ·.tick) →
          (∀ packets, inlet.packets? interfaceId (.can messages) = some packets →
            packets.Pairwise (·.timestamp ≤ ·.timestamp))
          ∧ ((∀ message ∈ messages, axis.timeOf? message.tick ≠ none) →
            inlet.packets? interfaceId (.can messages) ≠ none) := by
  refine ⟨axis.ticks_mul_num_lt, fun ticks time htime => (timeOf?_eq_some_iff.mp htime).2, fun ticks => ?_,
    fun ticks hnone => ?_, ?_, fun _ _ _ => timeOf?_mono, fun inlet interfaceId messages haxis hticks =>
      ⟨fun _ => SignalInlet.pairwise_timestamp haxis hticks, fun htimes => ?_⟩⟩
  · rw [timeOf?_eq_none_iff, Fits, Nat.not_lt]
  · obtain ⟨hden, hfits⟩ := timeOf?_eq_none_iff.mp hnone
    exact saturatedTime_of_not_fits hden hfits
  · rw [← forall_fits_iff]
    by_cases hden : axis.den = 0
    · exact iff_of_true (fun ticks hnone => (timeOf?_eq_none_iff.mp hnone).1 hden) (.inl hden)
    · rw [or_iff_right hden]
      exact forall_congr' fun ticks => by rw [ne_eq, timeOf?_eq_none_iff, and_iff_right hden, not_not]
  · exact SignalInlet.packets?_ne_none haxis htimes

/-- The latest time of an axis in microseconds is right, and the packets of three messages are in order. -/
theorem timeOf?_saturates_microseconds :
    (∃ latest, (microseconds none).timeOf? 0xFFFFFFFFFFFFFFFF = some latest ∧ latest.toNat = 2 ^ 64 - 1)
      ∧ ∃ packets, (SignalInlet.connect { payloadType := .can } (some .can) (some (microseconds none))).packets? 1
          (.can [.ofData 3 0x45 [1], .ofData 3 0x46 [2], .ofData 0xFFFFFFFFFFFFFFFF 0x45 [3]]) = some packets
        ∧ packets.Pairwise (·.timestamp ≤ ·.timestamp) := by
  obtain ⟨-, hright, -, -, hall, -, hpackets⟩ := timeOf?_saturates (microseconds none)
  have htimes := hall.mpr (.inr (by decide))
  have hlatest : (microseconds none).saturatedTime 0xFFFFFFFFFFFFFFFF = 2 ^ 64 - 1 := by decide +kernel
  obtain ⟨latest, htime⟩ := Option.ne_none_iff_exists'.mp (htimes 0xFFFFFFFFFFFFFFFF)
  obtain ⟨hordered, hsome⟩ := hpackets (SignalInlet.connect { payloadType := .can } (some .can)
    (some (microseconds none))) 1 [.ofData 3 0x45 [1], .ofData 3 0x46 [2], .ofData 0xFFFFFFFFFFFFFFFF 0x45 [3]] rfl
    (by decide)
  obtain ⟨packets, hfound⟩ := Option.ne_none_iff_exists'.mp (hsome fun message _ => htimes message.tick)
  exact ⟨⟨latest, htime, (hright _ _ htime).trans hlatest⟩, packets, hfound, hordered packets hfound⟩

/-- A tick lasts 2 ^ 59 seconds. -/
def coarseAxis : TimeAxis := ⟨0x800000000000000, 1, none⟩

/-- The time of 2 ^ 60 ticks should saturate, and it is missing; so are all packets of a batch that needs it, although
a signal is connected and its ticks are in order. -/
theorem timeOf?_overflows :
    let inlet := SignalInlet.connect { payloadType := .can } (some .can) (some coarseAxis)
    let batch := SignalBatch.can [.ofData 1 0x45 [1], .ofData 0x1000000000000000 0x46 [2]]
    coarseAxis.saturatedTime 0x1000000000000000 = 2 ^ 64 - 1 ∧ coarseAxis.timeOf? 0x1000000000000000 = none
      ∧ inlet.state = .connected ∧ inlet.packets? 1 batch = none := by
  decide +kernel

end TimeAxis

end CaptureProtocol
