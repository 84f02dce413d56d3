import CaptureProtocol.Message.Kind

/-!
# Errors of the link

Every refused operation names its cause; `LinkError.message` gives the one wording of each.
-/

namespace CaptureProtocol

/-- A setting that must not be zero. -/
inductive PositiveSetting where
  | statusInterval
  /-- The capacity of a sink stream's queue. -/
  | outputQueueCapacity
deriving DecidableEq, Inhabited, Repr

/-- What is wrong with a setting that is zero. -/
def PositiveSetting.complaint : PositiveSetting → String
  | statusInterval => "status_interval_ms는 0보다 커야 함"
  | outputQueueCapacity => "output_queue_capacity는 0보다 커야 함"

/-- The cause of a refused operation. -/
inductive LinkError where
  /-- A setting is zero that must not be. -/
  | zeroSetting (setting : PositiveSetting)
  /-- The frame limits are crossed or leave no room for a body. -/
  | unusableLimits (min max : Nat)
  /-- A packet's payload type is not the one its slot is bound to. -/
  | wrongPayloadType (slot : Nat) (expected got : PayloadType)
  /-- A payload cannot be sent, or its type cannot be used here. -/
  | unusablePayload (type : PayloadType)
  /-- There is no such encoder slot. -/
  | noSuchSlot (slot count : Nat)
  /-- The encoder slot is not bound to a stream. -/
  | slotUnbound (slot : Nat)
  /-- Every identifier is in use. -/
  | noFreeId
  /-- An identifier lies outside the range of its pool. -/
  | idOutside (id least greatest : UInt32)
  /-- An identifier is in use already. -/
  | idTaken (id : UInt32)
  | noSuchInterface (id : UInt32)
  | noSuchStream (id : UInt8)
  /-- Nothing takes frames from the queue any more. -/
  | queueClosed
deriving DecidableEq, Inhabited, Repr

/-- The name of a cause. -/
def LinkError.name : LinkError → String
  | zeroSetting .. => "InvalidConfig"
  | unusableLimits .. => "InvalidFrameConstraints"
  | wrongPayloadType .. => "PayloadTypeMismatch"
  | unusablePayload .. => "InvalidPayload"
  | noSuchSlot .. => "SlotOutOfRange"
  | slotUnbound .. => "SlotNotConfigured"
  | noFreeId => "IdExhausted"
  | idOutside .. => "IdOutOfRange"
  | idTaken .. => "IdInUse"
  | noSuchInterface .. => "UnknownInterface"
  | noSuchStream .. => "UnknownStream"
  | queueClosed => "TransportClosed"

/-- The text of an error. -/
def LinkError.message : LinkError → String
  | zeroSetting setting => "유효하지 않은 설정: " ++ setting.complaint
  | unusableLimits min max => s!"유효하지 않은 프레임 제약: min={min}, max={max}"
  | wrongPayloadType slot expected got =>
    s!"페이로드 타입 불일치: slot={slot}, expected {expected.name}, got {got.name}"
  | unusablePayload type => s!"유효하지 않은 페이로드: {type.name}"
  | noSuchSlot slot count => s!"인코더 슬롯 범위 초과: {slot} (최대 {count})"
  | slotUnbound slot => s!"설정되지 않은 인코더 슬롯: {slot}"
  | noFreeId => "사용 가능한 ID 없음"
  | idOutside id least greatest =>
    s!"ID 범위 밖: {id.toNat} (허용 {least.toNat}..={greatest.toNat})"
  | idTaken id => s!"이미 사용 중인 ID: {id.toNat}"
  | noSuchInterface id => s!"알 수 없는 인터페이스: {id.toNat}"
  | noSuchStream id => s!"알 수 없는 스트림: {id.toNat}"
  | queueClosed => "전송 채널 종료"

end CaptureProtocol
