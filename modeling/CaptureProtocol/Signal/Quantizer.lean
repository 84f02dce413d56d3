import CaptureProtocol.Payload.Analog
import CaptureProtocol.Signal.Shape

/-!
# Quantizers

A signal of numbers is sent as integers together with a scale and an offset.

* `Quantizer` — values are sent as they are, or brought to 24 bits over the declared range;
* `quantize` — the integer of a value; `quantize_holds`: it lies in the range of the sample format;
* `derive?` — the quantizer that a signal's shape allows.
-/

namespace CaptureProtocol

/-- How the values of a signal become integers. -/
inductive Quantizer where
  /-- Values are integers already. -/
  | direct (width : SampleWidth) (scale offset : Binary64)
  /-- The integer is `(value - offset) / scale`. -/
  | rescaled (scale offset : Binary64)
deriving DecidableEq, Inhabited, Repr

namespace Quantizer

/-- The physical value of one step. -/
def scale : Quantizer → Binary64
  | direct _ scale _ | rescaled scale _ => scale

/-- The physical value of the integer 0. -/
def offset : Quantizer → Binary64
  | direct _ _ offset | rescaled _ offset => offset

/-- The format of the integers. -/
def width : Quantizer → SampleWidth
  | direct width .. => width
  | rescaled .. => .int32

/-- Whether values are brought to another scale. -/
def rescales : Quantizer → Bool
  | direct .. => false
  | rescaled .. => true

/-- The value that is rounded to an integer. -/
def scaledValue : Quantizer → Binary64 → Binary64
  | direct .., value => value
  | rescaled scale offset, value => (value - offset) / scale

/-- The integer of a value: the nearest one, within the range of the format. -/
def quantize (quantizer : Quantizer) (value : Binary64) : Int32 :=
  Int32.ofInt ((quantizer.scaledValue value).nearestWithin quantizer.width.least quantizer.width.greatest)

/-- Every quantized value lies in the range of the format, whatever the value. -/
theorem quantize_holds (quantizer : Quantizer) (value : Binary64) :
    quantizer.width.holds (quantizer.quantize value) = true := by
  have least_le_zero : quantizer.width.least ≤ 0 := by cases quantizer.width <;> decide
  have zero_le_greatest : 0 ≤ quantizer.width.greatest := by cases quantizer.width <;> decide
  have bounds := Binary64.nearestWithin_bounds least_le_zero zero_le_greatest (quantizer.scaledValue value)
  have least : -2147483648 ≤ quantizer.width.least := by cases quantizer.width <;> decide
  have greatest : quantizer.width.greatest ≤ 2147483647 := by cases quantizer.width <;> decide
  have exact : (quantizer.quantize value).toInt
      = (quantizer.scaledValue value).nearestWithin quantizer.width.least quantizer.width.greatest :=
    Int32.toInt_ofInt_of_le (by omega) (by omega)
  simp [SampleWidth.holds, exact, bounds]

/-- The format for raw values of a type, if they can be sent as they are. -/
def directWidth? : ValueType → Option SampleWidth
  | .int8 | .int16 => some .int16
  | .uint8 | .uint16 | .int32 => some .int32
  | _ => none

/-- The format for integers within a declared range. -/
def rangeWidth? (range : DeclaredRange) : Option SampleWidth :=
  if range.isWithin (.ofInt32 (-32768)) (.ofInt32 32767) then some .int16
  else if range.isWithin (.ofInt32 (-2147483648)) (.ofInt32 2147483647) then some .int32
  else none

/-- The quantizer that divides a range into `2 ^ 24` steps, unless the step is not a usable 32-bit number. -/
def rescale? (range : DeclaredRange) : Option Quantizer :=
  let scale := Binary64.widen ((range.high - range.low) / Binary64.two24).narrow
  if scale.le .zero || !scale.isFinite then none
  else some (.rescaled scale (Binary64.widen range.low.narrow))

/-- The quantizer that a signal's shape allows: values with a source scale by their raw type, short integers as they
are, other integers as they are where their range allows it, and everything else over the declared range. -/
def derive? (shape : SignalShape) : Option Quantizer :=
  match shape.sourceScale with
  | some source => (directWidth? source.rawType).map fun width => .direct width source.scale source.offset
  | none =>
    match directWidth? shape.valueType with
    | some width => some (.direct width .one .zero)
    | none => do
      let range ← shape.range.filter DeclaredRange.isValid
      match if shape.valueType.isInteger then rangeWidth? range else none with
      | some width => some (.direct width .one .zero)
      | none => rescale? range

end Quantizer

end CaptureProtocol
