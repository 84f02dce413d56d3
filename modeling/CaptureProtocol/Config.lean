import CaptureProtocol.Ethernet
import CaptureProtocol.Frame.Limits
import CaptureProtocol.IdPool

/-!
# Configuration of a link

* `LinkConfig` — frame sizes, intervals, queue sizes and addresses, with the default values;
* `jumbo`, `lowLatency` — ready-made configurations;
* `frameLimits` — the limits in force; `validate` refuses what cannot work.
-/

namespace CaptureProtocol

/-- The configuration of a link. -/
structure LinkConfig where
  /-- The least frame size; shorter frames are padded. -/
  minFrameSize : Nat := 64
  maxFrameSize : Nat := 1500
  /-- Whether frames may grow to the jumbo size. -/
  allowJumboFrames : Bool := false
  /-- The time between status reports, in milliseconds. -/
  statusInterval : Nat := 1000
  /-- How long parts of a payload wait for the others, in milliseconds. -/
  reassemblyTimeout : Nat := 2000
  /-- Whether interface 0 is reserved. -/
  reserveZeroInterfaceId : Bool := true
  /-- The hardware address of the sender. -/
  sourceMac : MacAddress := [0x02, 0x00, 0x00, 0x00, 0x00, 0x01]
  /-- The capacity of a sink stream's queue. -/
  outputQueueCapacity : Nat := 1024
deriving DecidableEq, Inhabited, Repr

namespace LinkConfig

/-- For links that take jumbo frames. -/
def jumbo : LinkConfig :=
  { allowJumboFrames := true, maxFrameSize := FrameLimits.jumboMax, outputQueueCapacity := 4096 }

/-- For monitoring with little delay. -/
def lowLatency : LinkConfig := { statusInterval := 100, reassemblyTimeout := 500, outputQueueCapacity := 256 }

/-- The frame limits in force. -/
def frameLimits (config : LinkConfig) : FrameLimits where
  min := config.minFrameSize
  max := if config.allowJumboFrames then Nat.max config.maxFrameSize FrameLimits.jumboMax else config.maxFrameSize

/-- How interface 0 is treated. -/
def zeroRule (config : LinkConfig) : ZeroRule :=
  if config.reserveZeroInterfaceId then .reserved else .allocatable

/-- Refuses what cannot work: crossed sizes, no status interval, no output queue, unusable frame limits. -/
def validate (config : LinkConfig) : Except LinkError Unit :=
  if config.maxFrameSize < config.minFrameSize then
    .error (.unusableLimits config.minFrameSize config.maxFrameSize)
  else if config.statusInterval = 0 then .error (.zeroSetting .statusInterval)
  else if config.outputQueueCapacity = 0 then .error (.zeroSetting .outputQueueCapacity)
  else config.frameLimits.validate

/-- A configuration that is accepted has usable frame limits. -/
theorem usable_of_validate {config : LinkConfig} (h : config.validate = .ok ()) : config.frameLimits.Usable := by
  unfold validate at h
  repeat' split at h
  all_goals first | contradiction | exact (FrameLimits.validate_eq_ok_iff _).mp h

end LinkConfig

end CaptureProtocol
