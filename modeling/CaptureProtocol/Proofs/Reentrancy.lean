import CaptureProtocol.Routing.Publication
import CaptureProtocol.Proofs.Subscriptions
import Mathlib

/-!
# Handlers that call back

A handler may use the router that calls it: it subscribes, unsubscribes and publishes as it likes, and the handlers that
are called for it do so in turn.

* `Conduct` — what a handler does when it is called, a tree of requests and replies;
* `RouterEvent` — what happens, call by call and change by change; `callsAt`, `changes` — parts of a trace;
* `RouterWorld.reaction` — handlers that behave as given and whose calls nest up to a limit;
* `RouterWorld.LeadsTo` — what happens between two worlds; `publish_leadsTo` — calls go to those who subscribed before;
* `RouterWorld.reaction_extends` — a limit that is not met makes no difference;
* `RouterWorld.publish_reentrant` — all of it for a router that operations led to.
-/

namespace CaptureProtocol

/-- What a handler asks of the router that calls it. -/
inductive RouterRequest (H : Type) where
  | change (operation : RouterOperation H)
  | publish (key : StreamKey) (packets : List Packet)
  | dispatch (packets : List Packet)
deriving Inhabited, Repr

/-- What the router replies. -/
inductive RouterReply where
  | changed (answer : List Bool)
  | count (calls : Nat)
deriving DecidableEq, Inhabited, Repr

/-- What a handler does when it is called.  Whatever it does next may depend on all that it has seen. -/
inductive Conduct (H S : Type) where
  | done
  /-- Looks at the router and at the state of the handlers. -/
  | look (next : Router H → S → Conduct H S)
  /-- Replaces the state of the handlers. -/
  | keep (state : S) (next : Conduct H S)
  /-- Asks the router, and goes on with its reply. -/
  | ask (request : RouterRequest H) (next : RouterReply → Conduct H S)

/-- What happens to a router and its handlers. -/
inductive RouterEvent (H : Type) where
  /-- A handler is called by a handler that is itself called, and so on, `level` times. -/
  | called (level : Nat) (handler : H) (key : StreamKey) (packets : List Packet)
  | changed (operation : RouterOperation H)
  /-- The handler that was called last has no more room for calls of its own and does nothing. -/
  | cutOff
deriving Inhabited, Repr

/-- A router, its handlers and what has happened. -/
structure RouterWorld (H S : Type) where
  router : Router H := {}
  /-- The state of the handlers. -/
  state : S
  /-- The number of calls under way. -/
  level : Nat := 0
  trace : List (RouterEvent H) := []
deriving Inhabited, Repr

section

variable {H : Type}

/-- The call at a level. -/
def RouterEvent.call? (level : Nat) : RouterEvent H → Option (H × StreamKey × List Packet)
  | .called found handler key packets => if found = level then some (handler, key, packets) else none
  | _ => none

/-- The change of the subscriptions. -/
def RouterEvent.change? : RouterEvent H → Option (RouterOperation H)
  | .changed operation => some operation
  | _ => none

def RouterEvent.isCutOff : RouterEvent H → Bool
  | .cutOff => true
  | _ => false

/-- The calls at a level, in order. -/
def callsAt (level : Nat) (events : List (RouterEvent H)) : List (H × StreamKey × List Packet) :=
  events.filterMap (RouterEvent.call? level)

/-- The changes of the subscriptions, in order. -/
def changes (events : List (RouterEvent H)) : List (RouterOperation H) := events.filterMap RouterEvent.change?

theorem callsAt_append (level : Nat) (events later : List (RouterEvent H)) :
    callsAt level (events ++ later) = callsAt level events ++ callsAt level later := List.filterMap_append ..

theorem callsAt_called (level found : Nat) (handler : H) (key : StreamKey) (packets : List Packet)
    (events : List (RouterEvent H)) :
    callsAt level (.called found handler key packets :: events)
      = if found = level then (handler, key, packets) :: callsAt level events else callsAt level events := by
  by_cases hlevel : found = level
  · have hcall : (RouterEvent.called found handler key packets).call? level = some (handler, key, packets) :=
      if_pos hlevel
    rw [if_pos hlevel, callsAt, List.filterMap_cons_some hcall]
    rfl
  · have hcall : (RouterEvent.called found handler key packets).call? level = none := if_neg hlevel
    rw [if_neg hlevel, callsAt, List.filterMap_cons_none hcall]
    rfl

theorem changes_append (events later : List (RouterEvent H)) :
    changes (events ++ later) = changes events ++ changes later := List.filterMap_append ..

end

namespace RouterWorld

variable {H S : Type} [DecidableEq H]

/-- Adds an event to the trace. -/
def record (world : RouterWorld H S) (event : RouterEvent H) : RouterWorld H S :=
  { world with trace := world.trace ++ [event] }

/-- Grants a request, where handlers that are called react as given. -/
def reply (react : Reaction H (RouterWorld H S)) (world : RouterWorld H S) :
    RouterRequest H → RouterWorld H S × RouterReply
  | .change operation =>
    let (router, answer) := world.router.perform operation
    ({ world with router }.record (.changed operation), .changed answer)
  | .publish key packets =>
    let (world, calls) := publish (·.router) react key packets world
    (world, .count calls)
  | .dispatch packets =>
    let (world, calls) := dispatch (·.router) react packets world
    (world, .count calls)

/-- Does what a handler does, where handlers that are called for it react as given. -/
def follow (react : Reaction H (RouterWorld H S)) : Conduct H S → RouterWorld H S → RouterWorld H S
  | .done, world => world
  | .look next, world => follow react (next world.router world.state) world
  | .keep state next, world => follow react next { world with state }
  | .ask request next, world =>
    let (world, reply) := world.reply react request
    follow react (next reply) world

/-- Handlers of a given conduct, whose calls nest up to a limit. -/
def reaction (conduct : H → StreamKey → List Packet → Conduct H S) : Nat → Reaction H (RouterWorld H S)
  | 0, handler, key, packets, world => (world.record (.called world.level handler key packets)).record .cutOff
  | limit + 1, handler, key, packets, world =>
    let called := world.record (.called world.level handler key packets)
    let left := follow (reaction conduct limit) (conduct handler key packets) { called with level := world.level + 1 }
    { left with level := world.level }

/-! ### What happens between two worlds -/

/-- Events lead from one world to another: they make all changes of the subscriptions, and no call returns that was
under way before. -/
structure LeadsTo (before after : RouterWorld H S) (events : List (RouterEvent H)) : Prop where
  level : after.level = before.level
  trace : after.trace = before.trace ++ events
  router : after.router = (Run.collect Router.perform before.router (changes events)).1
  inner : ∀ level < before.level, callsAt level events = []

variable {before middle after world : RouterWorld H S} {events later : List (RouterEvent H)}
  {react longer : Reaction H (RouterWorld H S)} {key : StreamKey} {packets : List Packet}

theorem LeadsTo.refl (world : RouterWorld H S) : world.LeadsTo world [] where
  level := rfl
  trace := (List.append_nil _).symm
  router := rfl
  inner := fun _ _ => rfl

theorem LeadsTo.trans (h : before.LeadsTo middle events) (hlater : middle.LeadsTo after later) :
    before.LeadsTo after (events ++ later) where
  level := hlater.level.trans h.level
  trace := by rw [hlater.trace, h.trace, List.append_assoc]
  router := by rw [hlater.router, h.router, changes_append, Run.collect_append]
  inner := by
    intro level hlevel
    rw [callsAt_append, h.inner level hlevel, hlater.inner level (h.level.symm ▸ hlevel)]
    rfl

/-- Whoever is called leaves a trace that starts with the call, and makes no other call at its level. -/
def Traced (react : Reaction H (RouterWorld H S)) : Prop :=
  ∀ handler key packets (world : RouterWorld H S), ∃ events, world.LeadsTo (react handler key packets world) events
    ∧ callsAt world.level events = [(handler, key, packets)]

/-- The calls of one publication are made one after the other, each with all that is done for it. -/
theorem foldl_leadsTo (hreact : Traced react) (called : List H) (key : StreamKey) (packets : List Packet)
    (world : RouterWorld H S) :
    ∃ events, world.LeadsTo (called.foldl (fun world handler => react handler key packets world) world) events
      ∧ callsAt world.level events = called.map fun handler => (handler, key, packets) := by
  induction called generalizing world with
  | nil => exact ⟨[], .refl world, rfl⟩
  | cons handler called ih =>
    obtain ⟨events, hevents, hcall⟩ := hreact handler key packets world
    obtain ⟨later, hlater, hcalls⟩ := ih (react handler key packets world)
    rw [hevents.level] at hcalls
    refine ⟨events ++ later, hevents.trans hlater, ?_⟩
    rw [callsAt_append, hcall, hcalls]
    rfl

/-- Publishing calls those who subscribe when it starts, whatever they do. -/
theorem publish_leadsTo (hreact : Traced react) (key : StreamKey) (packets : List Packet) (world : RouterWorld H S) :
    ∃ events, world.LeadsTo (publish (·.router) react key packets world).1 events
      ∧ callsAt world.level events = (world.router.handlers key).map fun handler => (handler, key, packets) :=
  foldl_leadsTo hreact (world.router.handlers key) key packets world

theorem dispatch_leadsTo (hreact : Traced react) (packets : List Packet) (world : RouterWorld H S) :
    ∃ events, world.LeadsTo (dispatch (·.router) react packets world).1 events := by
  refine dispatch_publishes (·.router) react (fun after => ∃ events, world.LeadsTo after events) ?_ ⟨[], .refl world⟩
  rintro ⟨key, group⟩ _ middle ⟨events, hevents⟩
  obtain ⟨later, hlater, -⟩ := publish_leadsTo hreact key group middle
  exact ⟨events ++ later, hevents.trans hlater⟩

theorem reply_leadsTo (hreact : Traced react) (request : RouterRequest H) (world : RouterWorld H S) :
    ∃ events, world.LeadsTo (world.reply react request).1 events := by
  cases request with
  | change operation =>
    refine ⟨[.changed operation], rfl, rfl, ?_, fun _ _ => rfl⟩
    exact (congrArg Prod.fst (Run.collect_cons Router.perform world.router operation [])).symm
  | publish key packets =>
    obtain ⟨events, hevents, -⟩ := publish_leadsTo hreact key packets world
    exact ⟨events, hevents⟩
  | dispatch packets => exact dispatch_leadsTo hreact packets world

theorem follow_leadsTo (hreact : Traced react) (conduct : Conduct H S) (world : RouterWorld H S) :
    ∃ events, world.LeadsTo (follow react conduct world) events := by
  induction conduct generalizing world with
  | done => exact ⟨[], .refl world⟩
  | look next ih => exact ih _ _ world
  | keep state next ih =>
    obtain ⟨events, hevents⟩ := ih { world with state }
    exact ⟨events, hevents.level, hevents.trace, hevents.router, hevents.inner⟩
  | ask request next ih =>
    obtain ⟨events, hevents⟩ := reply_leadsTo hreact request world
    obtain ⟨later, hlater⟩ := ih (world.reply react request).2 (world.reply react request).1
    exact ⟨events ++ later, hevents.trans hlater⟩

/-- One call: what the handler does is one level further in. -/
theorem reaction_traced (conduct : H → StreamKey → List Packet → Conduct H S) (limit : Nat) :
    Traced (reaction conduct limit) := by
  induction limit with
  | zero =>
    intro handler key packets world
    refine ⟨[.called world.level handler key packets, .cutOff], ⟨rfl, ?_, rfl, ?_⟩, ?_⟩
    · exact List.append_assoc ..
    · intro level hlevel
      rw [callsAt_called, if_neg hlevel.ne']
      rfl
    · rw [callsAt_called, if_pos rfl]
      rfl
  | succ limit ih =>
    intro handler key packets world
    -- all that the handler does happens one level further in, so its own call is the only one at this level
    obtain ⟨events, hevents⟩ := follow_leadsTo ih (conduct handler key packets)
      { world.record (.called world.level handler key packets) with level := world.level + 1 }
    refine ⟨.called world.level handler key packets :: events, ⟨rfl, ?_, hevents.router, ?_⟩, ?_⟩
    · exact hevents.trace.trans (List.append_assoc ..)
    · intro level hlevel
      rw [callsAt_called, if_neg hlevel.ne']
      exact hevents.inner level (hlevel.trans (Nat.lt_succ_self _))
    · rw [callsAt_called, if_pos rfl, hevents.inner world.level (Nat.lt_succ_self _)]

/-! ### Limits -/

/-- How often a handler was cut off. -/
def cuts (world : RouterWorld H S) : Nat := world.trace.countP RouterEvent.isCutOff

theorem LeadsTo.cuts_eq (h : before.LeadsTo after events) :
    after.cuts = before.cuts + events.countP RouterEvent.isCutOff := by
  rw [cuts, h.trace, List.countP_append]
  rfl

theorem LeadsTo.cuts_le (h : before.LeadsTo after events) : before.cuts ≤ after.cuts :=
  Nat.le.intro h.cuts_eq.symm

/-- One reaction does what another does wherever the latter cuts nobody off. -/
def Extends (longer react : Reaction H (RouterWorld H S)) : Prop :=
  ∀ handler key packets world, (react handler key packets world).cuts = world.cuts →
    longer handler key packets world = react handler key packets world

/-- Two folds do the same where the steps do, as long as a measure stays what it is. -/
theorem foldl_eq_of_measure {σ α : Type} {step other : σ → α → σ} (measure : σ → Nat)
    (hle : ∀ state input, measure state ≤ measure (step state input))
    (heq : ∀ state input, measure (step state input) = measure state → other state input = step state input)
    (inputs : List α) (state : σ) (h : measure (inputs.foldl step state) = measure state) :
    inputs.foldl other state = inputs.foldl step state := by
  have hgrows : ∀ (inputs : List α) (state : σ), measure state ≤ measure (inputs.foldl step state) := by
    intro inputs
    induction inputs with
    | nil => exact fun _ => le_rfl
    | cons input inputs ih => exact fun state => (hle state input).trans (ih _)
  induction inputs generalizing state with
  | nil => rfl
  | cons input inputs ih =>
    have hfirst : measure (step state input) = measure state :=
      le_antisymm ((hgrows inputs _).trans h.le) (hle state input)
    rw [List.foldl_cons, List.foldl_cons, heq state input hfirst]
    exact ih _ (h.trans hfirst.symm)

theorem publish_extends (hreact : Traced react) (hlonger : Extends longer react)
    (h : (publish (·.router) react key packets world).1.cuts = world.cuts) :
    publish (·.router) longer key packets world = publish (·.router) react key packets world := by
  refine congrArg (·, _) (foldl_eq_of_measure cuts ?_ ?_ _ world h)
  · intro world handler
    obtain ⟨events, hevents, -⟩ := hreact handler key packets world
    exact hevents.cuts_le
  · exact fun world handler => hlonger handler key packets world

theorem dispatch_extends (hreact : Traced react) (hlonger : Extends longer react)
    (h : (dispatch (·.router) react packets world).1.cuts = world.cuts) :
    dispatch (·.router) longer packets world = dispatch (·.router) react packets world := by
  refine foldl_eq_of_measure (fun state : RouterWorld H S × Nat => state.1.cuts) ?_ ?_ _ (world, 0) h
  · rintro ⟨world, count⟩ ⟨key, group⟩
    obtain ⟨events, hevents, -⟩ := publish_leadsTo hreact key group world
    exact hevents.cuts_le
  · rintro ⟨world, count⟩ ⟨key, group⟩ hstep
    dsimp only
    rw [publish_extends hreact hlonger hstep]

theorem reply_extends (hreact : Traced react) (hlonger : Extends longer react) {request : RouterRequest H}
    (h : (world.reply react request).1.cuts = world.cuts) : world.reply longer request = world.reply react request := by
  cases request with
  | change operation => rfl
  | publish key packets => rw [reply, reply, publish_extends hreact hlonger h]
  | dispatch packets => rw [reply, reply, dispatch_extends hreact hlonger h]

theorem follow_extends (hreact : Traced react) (hlonger : Extends longer react) {conduct : Conduct H S}
    (h : (follow react conduct world).cuts = world.cuts) :
    follow longer conduct world = follow react conduct world := by
  induction conduct generalizing world with
  | done => rfl
  | look next ih => exact ih _ _ h
  | keep state next ih => exact ih h
  | ask request next ih =>
    obtain ⟨events, hevents⟩ := reply_leadsTo hreact request world
    obtain ⟨later, hlater⟩ := follow_leadsTo hreact (next (world.reply react request).2) (world.reply react request).1
    -- cuts only add up, so that nobody is cut off in either part of the run
    have hreply : (world.reply react request).1.cuts = world.cuts :=
      le_antisymm (hlater.cuts_le.trans h.le) hevents.cuts_le
    rw [follow, follow, reply_extends hreact hlonger hreply]
    exact ih _ (h.trans hreply.symm)

/-- A limit that is not met makes no difference. -/
theorem reaction_extends (conduct : H → StreamKey → List Packet → Conduct H S) (limit more : Nat) :
    Extends (reaction conduct (limit + more)) (reaction conduct limit) := by
  induction limit with
  | zero =>
    intro handler key packets world h
    rw [reaction, cuts, record, record, List.countP_append, List.countP_append] at h
    exact absurd h (Nat.succ_ne_self _)
  | succ limit ih =>
    intro handler key packets world h
    have hcalled : (world.record (.called world.level handler key packets)).cuts = world.cuts := by
      rw [cuts, record, List.countP_append]
      rfl
    rw [Nat.succ_add, reaction, reaction, follow_extends (reaction_traced conduct limit) ih (h.trans hcalled.symm)]

/-- Handlers that change the subscriptions and publish while they are called, as they like.  Publishing calls exactly
those who subscribe when it starts, each once and in the order in which they subscribed, with what was published, and
answers their number; afterwards the subscriptions are what the changes make of them, in the order in which they were
made.  Where nobody was cut off, a higher limit gives the same. -/
theorem publish_reentrant (conduct : H → StreamKey → List Packet → Conduct H S) (limit : Nat)
    (operations : List (RouterOperation H)) (state : S) (level : Nat) (trace : List (RouterEvent H)) (key : StreamKey)
    (packets : List Packet) :
    let router := (Run.collect Router.perform ({} : Router H) operations).1
    let subscribed := Subscriptions.handlers (Run.collect Subscriptions.perform [] operations).1 key
    let before : RouterWorld H S := { router, state, level, trace }
    let (after, calls) := publish (·.router) (reaction conduct limit) key packets before
    ∃ events, after.trace = trace ++ events
      ∧ callsAt level events = subscribed.map (fun handler => (handler, key, packets))
      ∧ subscribed.Nodup
      ∧ calls = subscribed.length
      ∧ after.router = (Run.collect Router.perform ({} : Router H) (operations ++ changes events)).1
      ∧ (.cutOff ∉ events → ∀ more,
        publish (·.router) (reaction conduct (limit + more)) key packets before = (after, calls)) := by
  intro router subscribed before
  have hpairs := (Router.represents_new.collect operations).2
  have hsubscribed : router.handlers key = subscribed := hpairs.handlers_eq key
  obtain ⟨events, hevents, hcalls⟩ := publish_leadsTo (reaction_traced conduct limit) key packets before
  refine ⟨events, hevents.trace, ?_, Subscriptions.nodup_handlers hpairs.pairs_nodup key, ?_, ?_, ?_⟩
  · rw [← hsubscribed]
    exact hcalls
  · rw [← hsubscribed]
  · rw [Run.collect_append]
    exact hevents.router
  · intro huncut more
    refine publish_extends (reaction_traced conduct limit) (reaction_extends conduct limit more) ?_
    rw [hevents.cuts_eq, List.countP_eq_zero.mpr, Nat.add_zero]
    rintro (_ | _ | _) hmem hcut
    · cases hcut
    · cases hcut
    · exact huncut hmem

/-- Two handlers that end the subscription of the second and bring in others: both are called, and nobody else is. -/
example :
    let key : StreamKey := ⟨7, 1, 9⟩
    let conduct : Nat → StreamKey → List Packet → Conduct Nat Unit := fun handler key _ =>
      .ask (.change (.unsubscribe key 1)) fun _ => .ask (.change (.subscribe key (handler + 2))) fun _ => .done
    let (after, calls) := publish (·.router) (reaction conduct 1) key []
      { router := { entries := [(key, [0, 1])] }, state := () }
    calls = 2 ∧ (callsAt 0 after.trace).map (·.1) = [0, 1] ∧ after.router.handlers key = [0, 2, 3] := by
  decide

end RouterWorld

end CaptureProtocol
