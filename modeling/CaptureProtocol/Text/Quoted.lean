import CaptureProtocol.Text.Unprintable

/-!
# Quoted text

A text in double quotes, with a backslash before what would not be shown as itself.

* `escape` — the form of one character;
* `quote` — the form of a text.
-/

namespace CaptureProtocol.Text

/-- A number in hexadecimal digits. -/
def hexadecimal (number : Nat) : List Char := Nat.toDigits 16 number

/-- The quoted form of a character. -/
def escape (c : Char) : List Char :=
  if c = '\x00' then ['\\', '0']
  else if c = '\t' then ['\\', 't']
  else if c = '\n' then ['\\', 'n']
  else if c = '\r' then ['\\', 'r']
  else if c = '"' || c = '\\' then ['\\', c]
  else if isUnprintable c then ['\\', 'u', '\x7b'] ++ hexadecimal c.toNat ++ ['\x7d']
  else [c]

/-- A text in double quotes. -/
def quote (text : String) : String := String.ofList ('"' :: text.toList.flatMap escape ++ ['"'])

end CaptureProtocol.Text
