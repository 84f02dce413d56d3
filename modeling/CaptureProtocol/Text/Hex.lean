import CaptureProtocol.Bytes

/-!
# Bytes as hexadecimal text

Every byte is written as two lower-case digits, the higher half first.

* `hex` — the text of bytes;
* `hexBytes` — the bytes of a text; a single digit at the end is passed over.
-/

namespace CaptureProtocol.Text

/-- The digit of a value below sixteen. -/
def hexDigit (value : Nat) : Char := Char.ofNat (if value < 10 then 48 + value else 87 + value)

/-- The value of a lower-case digit. -/
def hexValue (digit : Char) : Nat := if digit.isDigit then digit.toNat - 48 else digit.toNat - 87

/-- The two digits of a byte. -/
def hexPair (byte : UInt8) : List Char := [hexDigit (byte.toNat / 16), hexDigit (byte.toNat % 16)]

/-- The text of bytes. -/
def hex (bytes : Bytes) : String := String.ofList (bytes.flatMap hexPair)

/-- The bytes of pairs of digits, after bytes already read, latest first. -/
def hexBytesAfter (done : Bytes) : List Char → Bytes
  | high :: low :: rest => hexBytesAfter (UInt8.ofNat (hexValue high * 16 + hexValue low) :: done) rest
  | _ => done.reverse

/-- The bytes of a text. -/
def hexBytes (text : String) : Bytes := hexBytesAfter [] text.toList

end CaptureProtocol.Text
