import CaptureProtocol.Routing.Publication

/-!
# Scripted handlers

A scripted handler answers each of its calls with the next list of actions of its script; the actions work on
the router that called it.

* `RouterAction` — what can be done to a router; `ActionResult` is what it answers;
* `ScriptedRouter` — a router, the scripts of its handlers and a log of calls and actions;
* `remaining` — the number of action lists that are left.  Every nested call uses one up, so it bounds how deep
  calls can nest;
* `perform` — performs an action with everything that the handlers do in turn.
-/

namespace CaptureProtocol

/-- An operation on a router whose handlers are numbered. -/
inductive RouterAction where
  | subscribe (key : StreamKey) (handler : Nat)
  /-- Ends a subscription. -/
  | unsubscribe (key : StreamKey) (handler : Nat)
  | move (old new : StreamKey) (handler : Nat)
  /-- Hands packets to the handlers of an address. -/
  | publish (key : StreamKey) (packets : List Packet)
  /-- Publishes mixed packets by address. -/
  | dispatch (packets : List Packet)
  /-- Counts the handlers of an address. -/
  | count (key : StreamKey)
  /-- Ends all subscriptions. -/
  | clear
deriving Inhabited, Repr

/-- The name of an operation in a log. -/
def RouterAction.name : RouterAction → String
  | subscribe .. => "subscribe"
  | unsubscribe .. => "unsubscribe"
  | move .. => "rebind"
  | publish .. => "publish"
  | dispatch .. => "dispatch"
  | count .. => "count"
  | clear => "clear"

/-- The answer of an operation. -/
inductive ActionResult where
  /-- Nothing to say. -/
  | done
  /-- Whether the operation changed something. -/
  | changed (yes : Bool)
  | count (handlers : Nat)
deriving DecidableEq, Inhabited, Repr

/-- An entry of the log. -/
inductive LogEntry where
  | called (handler : Nat) (key : StreamKey) (packets : List Packet)
  | performed (handler : Nat) (action : String) (result : ActionResult)
deriving Inhabited, Repr

/-- A router with scripted handlers. -/
structure ScriptedRouter where
  router : Router Nat := {}
  /-- The action lists that each handler has left. -/
  scripts : List (List (List RouterAction))
  /-- What happened, latest first. -/
  log : List LogEntry := []
deriving Inhabited, Repr

namespace ScriptedRouter

/-- The number of action lists that are left. -/
def remaining (world : ScriptedRouter) : Nat := total List.length world.scripts

/-- Writes an entry to the log. -/
def record (world : ScriptedRouter) (entry : LogEntry) : ScriptedRouter :=
  { world with log := entry :: world.log }

/-- Takes the next action list of a handler; none is left at the end of its script. -/
def nextActions (world : ScriptedRouter) (handler : Nat) : Option (List RouterAction × ScriptedRouter) :=
  match world.scripts[handler]? with
  | some (actions :: rest) => some (actions, { world with scripts := world.scripts.set handler rest })
  | _ => none

/-- Performs one action, where called handlers react as given. -/
def performWith (react : Reaction Nat ScriptedRouter) (world : ScriptedRouter) :
    RouterAction → ScriptedRouter × ActionResult
  | .subscribe key handler =>
    let (router, changed) := world.router.subscribe key handler
    ({ world with router }, .changed changed)
  | .unsubscribe key handler =>
    let (router, changed) := world.router.unsubscribe key handler
    ({ world with router }, .changed changed)
  | .move old new handler => ({ world with router := world.router.move old new handler }, .done)
  | .publish key packets =>
    let (world, count) := CaptureProtocol.publish (·.router) react key packets world
    (world, .count count)
  | .dispatch packets =>
    let (world, count) := CaptureProtocol.dispatch (·.router) react packets world
    (world, .count count)
  | .count key => (world, .count (world.router.handlers key).length)
  | .clear => ({ world with router := world.router.clear }, .done)

/-- What a called handler does when calls may nest `depth` deep: it records the call, then performs its next
action list and records every answer. -/
def react : Nat → Reaction Nat ScriptedRouter
  | 0, handler, key, packets, world => world.record (.called handler key packets)
  | depth + 1, handler, key, packets, world =>
    let world := world.record (.called handler key packets)
    match world.nextActions handler with
    | none => world
    | some (actions, world) =>
      actions.foldl
        (fun world action =>
          let (world, result) := performWith (react depth) world action
          world.record (.performed handler action.name result))
        world

/-- Performs an action with everything that the handlers do in turn. -/
def perform (world : ScriptedRouter) (action : RouterAction) : ScriptedRouter × ActionResult :=
  performWith (react world.remaining) world action

/-- Takes the log, in the order of events. -/
def takeLog (world : ScriptedRouter) : List LogEntry × ScriptedRouter :=
  (world.log.reverse, { world with log := [] })

end ScriptedRouter

end CaptureProtocol
