import CaptureProtocol.Frame.Layout

/-!
# The pieces of a received frame

After its header, a received frame is cut into messages: a message header, then as many bytes as it announces.
The cut ends where no header fits any more, where only zero bytes are left, or in the middle of a body.

* `Piece` — a message, whole or cut short by the end of the frame;
* `cut` — the pieces of the bytes after the frame header.
-/

namespace CaptureProtocol

/-- A part of a received frame. -/
inductive Piece where
  | whole (message : Message)
  /-- A message whose frame ended before its body did. -/
  | truncated (message : Message)
deriving DecidableEq, Inhabited, Repr

/-- The pieces of the bytes after a frame header. -/
def cut (bytes : Bytes) : List Piece :=
  match _hread : MessageHeader.read bytes with
  | none => []
  | some (header, rest) =>
    if bytes.allZero then []
    else
      let body := rest.take header.payloadLength.toNat
      if body.length = header.payloadLength.toNat then
        .whole ⟨header, body⟩ :: cut (rest.drop header.payloadLength.toNat)
      else [.truncated ⟨header, rest⟩]
termination_by bytes.length
decreasing_by
  rw [MessageHeader.read_eq_some _hread]
  simp [MessageHeader.size]
  omega

end CaptureProtocol
