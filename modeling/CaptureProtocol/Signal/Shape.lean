import CaptureProtocol.Binary64

/-!
# The shape of a signal's values

* `ValueType` — the type of a value;
* `DeclaredRange`, `SourceScale` — the declared range, and a scale that the source applies;
* `SignalShape` — the shape; `isCan` and `isSingleNumber` recognise the two shapes that can be sent.
-/

namespace CaptureProtocol

/-- The type of a signal's values. -/
inductive ValueType where
  /-- Signed, one byte. -/
  | int8
  /-- Signed, two bytes. -/
  | int16
  /-- Signed, four bytes. -/
  | int32
  /-- Signed, eight bytes. -/
  | int64
  /-- Unsigned, one byte. -/
  | uint8
  /-- Unsigned, two bytes. -/
  | uint16
  /-- Unsigned, four bytes. -/
  | uint32
  /-- Unsigned, eight bytes. -/
  | uint64
  /-- Floating point, four bytes. -/
  | float32
  /-- Floating point, eight bytes. -/
  | float64
  | record
deriving DecidableEq, Inhabited, Repr

namespace ValueType

/-- Whether values are integers. -/
def isInteger : ValueType → Bool
  | float32 | float64 | record => false
  | _ => true

/-- Whether values are numbers. -/
def isNumeric (type : ValueType) : Bool := type != record

end ValueType

/-- A declared range of values. -/
structure DeclaredRange where
  /-- The least value. -/
  low : Binary64
  /-- The greatest value. -/
  high : Binary64
deriving DecidableEq, Inhabited, Repr

namespace DeclaredRange

/-- A range with finite ends and some width. -/
def isValid (range : DeclaredRange) : Bool :=
  range.low.isFinite && range.high.isFinite && range.low.lt range.high

/-- Whether a range lies within bounds. -/
def isWithin (range : DeclaredRange) (low high : Binary64) : Bool := low.le range.low && range.high.le high

end DeclaredRange

/-- A scale that the source applies: the physical value is `raw · scale + offset`. -/
structure SourceScale where
  /-- The physical value of one raw step. -/
  scale : Binary64
  /-- The physical value of raw 0. -/
  offset : Binary64
  rawType : ValueType
deriving DecidableEq, Inhabited, Repr

/-- The shape of a signal's values. -/
inductive SignalShape where
  /-- A shape from all its parts. -/
  | describe (name : String) (valueType : ValueType) (dimension : Option Nat) (fields : List SignalShape)
      (unit : Option String) (range : Option DeclaredRange) (sourceScale : Option SourceScale)
deriving Inhabited, Repr

namespace SignalShape

/-- The type of the values. -/
def valueType : SignalShape → ValueType
  | describe _ valueType .. => valueType

/-- The length of an array; a scalar has none. -/
def dimension : SignalShape → Option Nat
  | describe _ _ dimension .. => dimension

/-- The fields of a record. -/
def fields : SignalShape → List SignalShape
  | describe _ _ _ fields .. => fields

/-- The symbol of the unit. -/
def unit : SignalShape → Option String
  | describe _ _ _ _ unit .. => unit

/-- The declared range. -/
def range : SignalShape → Option DeclaredRange
  | describe _ _ _ _ _ range _ => range

/-- The scale that the source applies. -/
def sourceScale : SignalShape → Option SourceScale
  | describe _ _ _ _ _ _ sourceScale => sourceScale

/-- A scalar or an array without further attributes. -/
def plain (name : String) (valueType : ValueType) (dimension : Option Nat) : SignalShape :=
  describe name valueType dimension [] none none none

/-- The shape of CAN messages: identifier, length and 64 data bytes. -/
def can : SignalShape :=
  describe "CAN" .record none
    [plain "ArbId" .int32 none, plain "Length" .int8 none, plain "Data" .uint8 (some 64)] none none none

/-- Whether a shape is that of CAN messages; names do not count. -/
def isCan (shape : SignalShape) : Bool :=
  shape.valueType == .record &&
    match shape.fields with
    | [id, length, data] =>
      id.valueType == .int32 && id.dimension == none && length.valueType == .int8 && length.dimension == none &&
        data.valueType == .uint8 && data.dimension == some 64
    | _ => false

/-- Whether a shape is a single number. -/
def isSingleNumber (shape : SignalShape) : Bool :=
  shape.valueType.isNumeric && shape.dimension.isNone && shape.fields.isEmpty

end SignalShape

end CaptureProtocol
