import CaptureProtocol.Reader

/-!
# Ethernet frames

Frames of the protocol travel as the payload of broadcast Ethernet frames with a type of their own.  One VLAN
tag is passed over on reception.

* `EthernetHeader`, `MacAddress` — the header;
* `wrap` — the Ethernet frame of a payload;
* `parse?` — header and payload of an Ethernet frame; `unwrap?` — the payload, of protocol frames only.
-/

namespace CaptureProtocol

/-- A hardware address. -/
abbrev MacAddress := Bytes

/-- The header of an Ethernet frame. -/
structure EthernetHeader where
  /-- Where the frame goes. -/
  destination : MacAddress
  /-- Where the frame comes from. -/
  source : MacAddress
  etherType : UInt16
deriving DecidableEq, Inhabited, Repr

namespace Ethernet

/-- The type of protocol frames. -/
def protocolType : UInt16 := 0x99FE

/-- The type that stands before a VLAN tag. -/
def vlanType : UInt16 := 0x8100

/-- The number of bytes of an address. -/
def addressSize : Nat := 6

/-- The address of all receivers. -/
def broadcast : MacAddress := List.replicate addressSize 0xFF

/-- The Ethernet frame of a payload. -/
def wrap (source : MacAddress) (payload : Bytes) : Bytes :=
  broadcast ++ source ++ Bytes.ofUInt16 protocolType ++ payload

/-- Reads a header.  A VLAN tag is passed over; the type after it counts. -/
def readHeader : Reader EthernetHeader := do
  let destination ← Reader.take addressSize
  let source ← Reader.take addressSize
  let outerType ← Reader.u16
  if outerType = vlanType then
    Reader.skip 2
    let etherType ← Reader.u16
    return { destination, source, etherType }
  else return { destination, source, etherType := outerType }

/-- Header and payload of an Ethernet frame. -/
def parse? (frame : Bytes) : Option (EthernetHeader × Bytes) := readHeader frame

/-- The payload of a protocol frame. -/
def unwrap? (frame : Bytes) : Option Bytes :=
  match parse? frame with
  | some (header, payload) => if header.etherType = protocolType then some payload else none
  | none => none

end Ethernet

end CaptureProtocol
