import CaptureProtocol.Text.Blank

/-!
# Measurement units

Analog payloads name their unit by a one-byte code.

* `symbols` — the canonical symbol of each code, code 0 meaning no unit;
* `aliases` — further spellings, accepted on input only;
* `code?`, `symbol?` — the two directions;
* `codeFor` — an unknown or absent symbol counts as no unit.
-/

namespace CaptureProtocol.MeasurementUnit

/-- The code of quantities without a unit. -/
def dimensionless : UInt8 := 0

/-- The canonical symbols, in the order of their codes from 0. -/
def symbols : List String :=
  ["", "m", "kg", "s", "A", "K", "mol", "cd", "Hz", "rad", "sr", "N", "Pa", "J", "W", "C", "V", "F", "Ω", "S",
   "Wb", "T", "H", "°C", "lm", "lx", "Bq", "Gy", "Sv", "kat"]

/-- Spellings that are accepted beside the canonical ones. -/
def aliases : List (String × UInt8) := [("Ohm", 0x12), ("ohm", 0x12), ("degC", 0x17)]

/-- The code of a symbol, blanks around it aside. -/
def code? (symbol : String) : Option UInt8 :=
  let symbol := Text.trim symbol
  match symbols.idxOf? symbol with
  | some code => some (UInt8.ofNat code)
  | none => aliases.lookup symbol

/-- The canonical symbol of a code. -/
def symbol? (code : UInt8) : Option String := symbols[code.toNat]?

/-- The code of a symbol, or no unit when the symbol is absent or unknown. -/
def codeFor (symbol : Option String) : UInt8 := (symbol.bind code?).getD dimensionless

end CaptureProtocol.MeasurementUnit
