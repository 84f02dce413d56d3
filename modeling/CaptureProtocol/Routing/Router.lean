import CaptureProtocol.Packet
import CaptureProtocol.Total

/-!
# Routers

A router knows which handlers subscribe to which address.  The handlers of one address are kept in the order
of their subscriptions.

* `Router` — the subscriptions, one entry for each address with handlers;
* `handlers` — the handlers of an address; `setHandlers` replaces them;
* `subscribe`, `unsubscribe`, `move` — operations.
-/

namespace CaptureProtocol

/-- The subscriptions of handlers to addresses. -/
structure Router (H : Type) where
  /-- The addresses with handlers. -/
  entries : List (StreamKey × List H) := []
deriving DecidableEq, Inhabited, Repr

namespace Router

variable {H : Type}

/-- The handlers of an address. -/
def handlers (router : Router H) (key : StreamKey) : List H := (router.entries.lookup key).getD []

/-- Replaces the handlers of an address in a list of entries; an address without handlers has no entry. -/
def setEntry (key : StreamKey) (list : List H) : List (StreamKey × List H) → List (StreamKey × List H)
  | [] => if list.isEmpty then [] else [(key, list)]
  | (other, old) :: rest =>
    if key = other then if list.isEmpty then rest else (key, list) :: rest
    else (other, old) :: setEntry key list rest

/-- Replaces the handlers of an address. -/
def setHandlers (router : Router H) (key : StreamKey) (list : List H) : Router H :=
  ⟨setEntry key list router.entries⟩

/-- The number of subscriptions. -/
def size (router : Router H) : Nat := total (fun entry => entry.2.length) router.entries

/-- The addresses with handlers. -/
def keys (router : Router H) : List StreamKey := router.entries.map (·.1)

variable [DecidableEq H]

/-- Subscribes a handler to an address; refused when it subscribes already. -/
def subscribe (router : Router H) (key : StreamKey) (handler : H) : Router H × Bool :=
  let list := router.handlers key
  if list.contains handler then (router, false) else (router.setHandlers key (list ++ [handler]), true)

/-- Ends the subscription of a handler to an address; refused when there is none. -/
def unsubscribe (router : Router H) (key : StreamKey) (handler : H) : Router H × Bool :=
  let list := router.handlers key
  if list.contains handler then (router.setHandlers key (list.filter (· != handler)), true) else (router, false)

/-- Moves the subscription of a handler from one address to another. -/
def move (router : Router H) (old new : StreamKey) (handler : H) : Router H :=
  if old = new then router else ((router.unsubscribe old handler).1.subscribe new handler).1

/-- No subscriptions. -/
def clear (_ : Router H) : Router H := {}

end Router

end CaptureProtocol
