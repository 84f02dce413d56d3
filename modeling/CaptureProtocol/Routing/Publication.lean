import CaptureProtocol.Routing.Router

/-!
# Publication

Packets are handed to the handlers that subscribe to their address.  A handler may change anything, the
subscriptions included; who is called is settled before the first of them runs.

* `publish` — hands packets to the handlers of one address, in the order of their subscriptions;
* `groups` — mixed packets by address, in the order of first appearance;
* `dispatch` — publishes each group under its address.

The state `W` of the world holds a router, found by `routes`; `react` is what a handler does to the world.
-/

namespace CaptureProtocol

/-- What the handlers `H` do to a world `W`. -/
abbrev Reaction (H W : Type) := H → StreamKey → List Packet → W → W

section

variable {H W : Type} (routes : W → Router H) (react : Reaction H W)

/-- Hands packets to the handlers of an address and counts these. -/
def publish (key : StreamKey) (packets : List Packet) (world : W) : W × Nat :=
  let called := (routes world).handlers key
  (called.foldl (fun world handler => react handler key packets world) world, called.length)

/-- Adds a packet to the group of its address. -/
def addToGroups (packet : Packet) : List (StreamKey × List Packet) → List (StreamKey × List Packet)
  | [] => [(packet.key, [packet])]
  | (key, group) :: rest =>
    if packet.key = key then (key, packet :: group) :: rest else (key, group) :: addToGroups packet rest

/-- Mixed packets by address, in the order of first appearance. -/
def groups (packets : List Packet) : List (StreamKey × List Packet) :=
  (packets.foldl (fun found packet => addToGroups packet found) []).map fun (key, group) => (key, group.reverse)

/-- Publishes mixed packets by address and counts the calls. -/
def dispatch (packets : List Packet) (world : W) : W × Nat :=
  (groups packets).foldl
    (fun (world, count) (key, group) =>
      let (world, called) := publish routes react key group world
      (world, count + called))
    (world, 0)

end

end CaptureProtocol
