import CaptureProtocol.Proofs.CleanDelivery
import CaptureProtocol.Proofs.StatusHistory
import CaptureProtocol.Proofs.Subscriptions
import Mathlib

/-!
# Mixed packets reach their handlers by address

Dispatching searches a growing list of groups for the address of every packet.  What comes of it is told without the
search: one batch for every address, in the order in which the addresses first occur, and each batch holds the packets
of its address as they arrived.

* `addresses`, `batchOf` — the addresses of packets and the packets of an address; `groups_eq` — the groups are these;
* `publishAll` — batches one after another; `dispatch_eq_publishAll`;
* `HandlerCall`, `recording` — handlers that note how they are called, and are otherwise as they were;
* `Steady` — handlers that leave the subscriptions alone; `Steady.callsIn_eq` — how they are called;
* `addresses_perm` — what a change of the order of the packets changes;
* `dispatch_grouped` — all of it for a router that operations led to.
-/

namespace CaptureProtocol

/-! ### The order of first appearance -/

section

variable {α : Type} [BEq α] [LawfulBEq α]

/-- Entries come in the order of their first places. -/
theorem pairwise_idxOf_eraseDups (list : List α) :
    list.eraseDups.Pairwise fun first second => list.idxOf first < list.idxOf second := by
  classical
  induction list using List.reverseRecOn with
  | nil => exact .nil
  | append_singleton list entry ih =>
    have hold : list.eraseDups.Pairwise fun first second =>
        (list ++ [entry]).idxOf first < (list ++ [entry]).idxOf second := by
      refine ih.imp_of_mem ?_
      intro first second hfirst hsecond hlt
      rwa [List.idxOf_append_of_mem (List.mem_eraseDups.mp hfirst),
        List.idxOf_append_of_mem (List.mem_eraseDups.mp hsecond)]
    rw [eraseDups_concat]
    split
    · exact hold
    · rename_i hnew
      refine List.pairwise_append.mpr ⟨hold, List.pairwise_singleton _ _, ?_⟩
      intro first hfirst second hsecond
      have hmem := List.mem_eraseDups.mp hfirst
      rw [List.mem_singleton.mp hsecond, List.idxOf_append_of_mem hmem, List.idxOf_append_of_notMem hnew]
      exact Nat.lt_add_right _ (List.idxOf_lt_length_iff.mpr hmem)

end

theorem total_eq_sum {α : Type} {measure : α → Nat} (list : List α) : total measure list = (list.map measure).sum := by
  induction list with
  | nil => rfl
  | cons entry list ih => rw [total_cons, ih, List.map_cons, List.sum_cons]

/-! ### Groups -/

/-- The addresses of packets, each where it occurs first. -/
def addresses (packets : List Packet) : List StreamKey := (packets.map Packet.key).eraseDups

/-- The packets of an address, as they arrived. -/
def batchOf (packets : List Packet) (key : StreamKey) : List Packet := packets.filter fun packet => packet.key = key

/-- The packets of each address, in the order in which the addresses first occur. -/
def batches (packets : List Packet) : List (StreamKey × List Packet) :=
  (addresses packets).map fun key => (key, batchOf packets key)

variable {packets : List Packet} {key : StreamKey}

theorem nodup_addresses (packets : List Packet) : (addresses packets).Nodup := nodup_eraseDups _

theorem mem_addresses : key ∈ addresses packets ↔ ∃ packet ∈ packets, packet.key = key := by
  rw [addresses, List.mem_eraseDups, List.mem_map]

theorem addresses_concat (packets : List Packet) (packet : Packet) :
    addresses (packets ++ [packet])
      = if packet.key ∈ addresses packets then addresses packets else addresses packets ++ [packet.key] := by
  simp only [addresses, List.map_append, List.map_singleton, eraseDups_concat, List.mem_eraseDups]

theorem batchOf_concat (packets : List Packet) (packet : Packet) (key : StreamKey) :
    (batchOf (packets ++ [packet]) key).reverse
      = if packet.key = key then packet :: (batchOf packets key).reverse else (batchOf packets key).reverse := by
  rw [batchOf, List.filter_append, List.filter_singleton]
  by_cases hkey : packet.key = key <;> simp [hkey, batchOf]

theorem batchOf_eq_nil (h : key ∉ addresses packets) : batchOf packets key = [] := by
  rw [batchOf, List.filter_eq_nil_iff]
  intro packet hpacket hkey
  exact h (mem_addresses.mpr ⟨packet, hpacket, of_decide_eq_true hkey⟩)

/-- One more packet goes to the group of its address, or opens one. -/
theorem addToGroups_map (packet : Packet) {keys : List StreamKey} (hnodup : keys.Nodup)
    {group : StreamKey → List Packet} (hnew : packet.key ∉ keys → group packet.key = []) :
    addToGroups packet (keys.map fun key => (key, group key))
      = (if packet.key ∈ keys then keys else keys ++ [packet.key]).map fun key =>
          (key, if packet.key = key then packet :: group key else group key) := by
  induction keys with
  | nil => simp [addToGroups, hnew]
  | cons head keys ih =>
    obtain ⟨hhead, hkeys⟩ := List.nodup_cons.mp hnodup
    rw [List.map_cons, addToGroups]
    by_cases hkey : packet.key = head
    · have hrest : ∀ key ∈ keys, (key, group key)
          = (key, if packet.key = key then packet :: group key else group key) := by
        intro key hmem
        rw [if_neg]
        rintro hsame
        exact hhead (hkey ▸ hsame ▸ hmem)
      rw [if_pos hkey, if_pos (List.mem_cons.mpr (.inl hkey)), List.map_cons, if_pos hkey, List.map_congr_left hrest]
    · rw [if_neg hkey, ih hkeys fun hnot => hnew (by simp [hkey, hnot])]
      by_cases hmem : packet.key ∈ keys
      · simp [hkey, hmem]
      · simp [hkey, hmem]

/-- The groups of packets are their batches.  The induction is on the packets that have arrived. -/
theorem groups_eq (packets : List Packet) : groups packets = batches packets := by
  have hfound : packets.foldl (fun found packet => addToGroups packet found) []
      = (addresses packets).map fun key => (key, (batchOf packets key).reverse) := by
    induction packets using List.reverseRecOn with
    | nil => rfl
    | append_singleton packets packet ih =>
      rw [List.foldl_append, List.foldl_cons, List.foldl_nil, ih,
        addToGroups_map packet (nodup_addresses packets) fun hnew => by rw [batchOf_eq_nil hnew, List.reverse_nil],
        addresses_concat]
      simp only [batchOf_concat]
  rw [groups, hfound, List.map_map, batches]
  refine List.map_congr_left ?_
  intro key _
  simp

/-- The batches hold every packet once. -/
theorem batches_perm (packets : List Packet) : ((addresses packets).flatMap (batchOf packets)).Perm packets := by
  have h := groups_perm packets
  rwa [groups_eq, batches, List.flatMap_map] at h

/-- Packets in another order, where those of one address keep theirs: the same addresses occur. -/
theorem addresses_perm {other : List Packet} (h : ∀ key, batchOf other key = batchOf packets key) :
    (addresses other).Perm (addresses packets) := by
  have hoccurs : ∀ (packets : List Packet) (key : StreamKey), key ∈ addresses packets ↔ batchOf packets key ≠ [] := by
    intro packets key
    constructor
    · intro hkey hempty
      obtain ⟨packet, hpacket, hsame⟩ := mem_addresses.mp hkey
      exact List.filter_eq_nil_iff.mp hempty packet hpacket (decide_eq_true hsame)
    · intro hfilled
      by_contra hnot
      exact hfilled (batchOf_eq_nil hnot)
  refine (List.perm_ext_iff_of_nodup (nodup_addresses other) (nodup_addresses packets)).mpr ?_
  intro key
  rw [hoccurs, hoccurs, h]

/-- They are the same packets in another order. -/
theorem perm_of_batchOf {other : List Packet} (h : ∀ key, batchOf other key = batchOf packets key) :
    other.Perm packets := by
  have hbatches := (addresses_perm h).flatMap_right (batchOf packets)
  have hother := batches_perm other
  rw [List.flatMap_congr fun key _ => h key] at hother
  exact (hother.symm.trans hbatches).trans (batches_perm packets)

/-! ### Batches one after another -/

section

variable {H W : Type} (routes : W → Router H) (react : Reaction H W)

/-- Publishes batches one after another, each under its address, and counts the calls. -/
def publishAll : List (StreamKey × List Packet) → W → W × Nat
  | [], world => (world, 0)
  | (key, batch) :: rest, world =>
    let (world, called) := publish routes react key batch world
    let (world, others) := publishAll rest world
    (world, called + others)

/-- Dispatching publishes one batch for each address. -/
theorem dispatch_eq_publishAll (packets : List Packet) (world : W) :
    dispatch routes react packets world = publishAll routes react (batches packets) world := by
  have hfold : ∀ (list : List (StreamKey × List Packet)) (state : W × Nat),
      list.foldl (fun state entry => ((publish routes react entry.1 entry.2 state.1).1,
          state.2 + (publish routes react entry.1 entry.2 state.1).2)) state
        = ((publishAll routes react list state.1).1, state.2 + (publishAll routes react list state.1).2) := by
    intro list
    induction list with
    | nil => exact fun state => rfl
    | cons entry list ih =>
      intro state
      rw [List.foldl_cons, ih, publishAll, Nat.add_assoc]
  rw [dispatch, groups_eq]
  refine (hfold (batches packets) (world, 0)).trans ?_
  rw [Nat.zero_add]

/-! ### How handlers are called -/

/-- A call of a handler. -/
structure HandlerCall (H : Type) where
  handler : H
  key : StreamKey
  packets : List Packet
deriving DecidableEq, Inhabited, Repr

/-- Handlers that note how they are called. -/
def recording : Reaction H (W × List (HandlerCall H)) := fun handler key packets world =>
  (react handler key packets world.1, world.2 ++ [⟨handler, key, packets⟩])

/-- The calls of the handlers of an address. -/
def callsTo (router : Router H) (key : StreamKey) (batch : List Packet) : List (HandlerCall H) :=
  (router.handlers key).map fun handler => ⟨handler, key, batch⟩

/-- How handlers are called when packets are dispatched. -/
def callsIn (packets : List Packet) (world : W) : List (HandlerCall H) :=
  (dispatch (fun world => routes world.1) (recording react) packets (world, [])).1.2

theorem publish_recording (key : StreamKey) (batch : List Packet) (world : W) (calls : List (HandlerCall H)) :
    publish (fun world => routes world.1) (recording react) key batch (world, calls)
      = (((publish routes react key batch world).1, calls ++ callsTo (routes world) key batch),
          (publish routes react key batch world).2) := by
  have hfold : ∀ (called : List H) (world : W) (calls : List (HandlerCall H)),
      called.foldl (fun world handler => recording react handler key batch world) (world, calls)
        = (called.foldl (fun world handler => react handler key batch world) world,
            calls ++ called.map fun handler => ⟨handler, key, batch⟩) := by
    intro called
    induction called with
    | nil => simp
    | cons handler called ih =>
      intro world calls
      rw [List.foldl_cons, List.foldl_cons, recording, ih, List.map_cons, List.append_assoc, List.singleton_append]
  exact congrArg (fun world' => (world', _)) (hfold _ world calls)

/-- Noting changes nothing else. -/
theorem publishAll_recording (list : List (StreamKey × List Packet)) (world : W) (calls : List (HandlerCall H)) :
    (publishAll (fun world => routes world.1) (recording react) list (world, calls)).1.1
        = (publishAll routes react list world).1
      ∧ (publishAll (fun world => routes world.1) (recording react) list (world, calls)).2
        = (publishAll routes react list world).2 := by
  induction list generalizing world calls with
  | nil => exact ⟨rfl, rfl⟩
  | cons entry list ih =>
    obtain ⟨hworld, hcount⟩ := ih (publish routes react entry.1 entry.2 world).1
      (calls ++ callsTo (routes world) entry.1 entry.2)
    rw [publishAll, publishAll, publish_recording]
    exact ⟨hworld, congrArg (_ + ·) hcount⟩

/-! ### Handlers that leave the subscriptions alone -/

/-- No handler changes the subscriptions. -/
def Steady : Prop := ∀ handler key packets world, routes (react handler key packets world) = routes world

variable {routes react}

theorem Steady.routes_publish (h : Steady routes react) (key : StreamKey) (batch : List Packet) (world : W) :
    routes (publish routes react key batch world).1 = routes world := by
  have hfold : ∀ (called : List H) (world : W),
      routes (called.foldl (fun world handler => react handler key batch world) world) = routes world := by
    intro called
    induction called with
    | nil => exact fun world => rfl
    | cons handler called ih =>
      intro world
      rw [List.foldl_cons, ih, h]
  exact hfold _ world

/-- Every batch goes to those who subscribed to its address before the first call. -/
theorem Steady.publishAll_recording (h : Steady routes react) (list : List (StreamKey × List Packet)) (world : W)
    (calls : List (HandlerCall H)) :
    (publishAll (fun world => routes world.1) (recording react) list (world, calls)).1.2
        = calls ++ list.flatMap (fun entry => callsTo (routes world) entry.1 entry.2)
      ∧ (publishAll routes react list world).2 = total (fun entry => ((routes world).handlers entry.1).length) list := by
  induction list generalizing world calls with
  | nil => exact ⟨(List.append_nil calls).symm, rfl⟩
  | cons entry list ih =>
    obtain ⟨hcalls, hcount⟩ := ih (publish routes react entry.1 entry.2 world).1
      (calls ++ callsTo (routes world) entry.1 entry.2)
    rw [h.routes_publish] at hcalls hcount
    rw [publishAll, publishAll, publish_recording]
    constructor
    · rw [List.flatMap_cons, ← List.append_assoc]
      exact hcalls
    · rw [total_cons, ← hcount]
      rfl

/-- Handlers that leave the subscriptions alone are called address by address, and counted. -/
theorem Steady.callsIn_eq (h : Steady routes react) (packets : List Packet) (world : W) :
    callsIn routes react packets world
        = (addresses packets).flatMap (fun key => callsTo (routes world) key (batchOf packets key))
      ∧ (dispatch routes react packets world).2
        = total (fun key => ((routes world).handlers key).length) (addresses packets) := by
  obtain ⟨hcalls, hcount⟩ := h.publishAll_recording (batches packets) world []
  rw [callsIn, dispatch_eq_publishAll, dispatch_eq_publishAll, hcalls, hcount]
  constructor
  · rw [List.nil_append, batches, List.flatMap_map]
  · rw [batches, total_eq_sum, total_eq_sum, List.map_map]
    rfl

variable [DecidableEq H]

/-- A handler that subscribes to an address is called once for it. -/
theorem filter_callsTo {router : Router H} (hnodup : (router.handlers key).Nodup) (batch : List Packet) (handler : H) :
    (callsTo router key batch).filter (fun call => call.handler = handler)
      = if handler ∈ router.handlers key then [⟨handler, key, batch⟩] else [] := by
  have hfilter : (router.handlers key).filter (· = handler)
      = if handler ∈ router.handlers key then [handler] else [] := by
    rw [List.filter_eq, hnodup.count]
    split <;> rfl
  rw [callsTo, List.filter_map]
  show ((router.handlers key).filter (· = handler)).map _ = _
  rw [hfilter]
  split <;> rfl

theorem flatMap_filter_callsTo {router : Router H} (hnodup : ∀ key, (router.handlers key).Nodup)
    (keys : List StreamKey) (batch : StreamKey → List Packet) (handler : H) :
    (keys.flatMap fun key => callsTo router key (batch key)).filter (fun call => call.handler = handler)
      = (keys.filter fun key => handler ∈ router.handlers key).map fun key => ⟨handler, key, batch key⟩ := by
  induction keys with
  | nil => rfl
  | cons key keys ih =>
    rw [List.flatMap_cons, List.filter_append, ih, filter_callsTo (hnodup key), List.filter_cons]
    by_cases hsubscribed : handler ∈ router.handlers key <;> simp [hsubscribed]

/-- Dispatching through a router that operations led to.  One publication is made for each address that occurs, in the
order in which the addresses first occur, with the packets of the address as they arrived, and every packet is in one
of these batches.  If the handlers leave the subscriptions alone, a handler is called once for each address that occurs
and that it subscribes to, with the packets of that address, and for nothing else; the answer is the number of calls.
In another order of the packets, where those of one address keep theirs, the same batches are published in the order
of their addresses. -/
theorem dispatch_grouped (routes : W → Router H) (react : Reaction H W) {operations : List (RouterOperation H)}
    {world : W} (hrouter : routes world = (Run.collect Router.perform {} operations).1) (packets : List Packet) :
    ((addresses packets).Nodup
        ∧ (∀ key, key ∈ addresses packets ↔ ∃ packet ∈ packets, packet.key = key)
        ∧ (addresses packets).Pairwise fun first second =>
            (packets.map Packet.key).idxOf first < (packets.map Packet.key).idxOf second)
      ∧ (dispatch routes react packets world
            = publishAll routes react ((addresses packets).map fun key => (key, batchOf packets key)) world
        ∧ ((addresses packets).flatMap (batchOf packets)).Perm packets)
      ∧ (((dispatch (fun world => routes world.1) (recording react) packets (world, [])).1.1,
            (dispatch (fun world => routes world.1) (recording react) packets (world, [])).2)
          = dispatch routes react packets world)
      ∧ (Steady routes react →
          (∀ handler, (callsIn routes react packets world).filter (fun call => call.handler = handler)
              = ((addresses packets).filter fun key => handler ∈ (routes world).handlers key).map fun key =>
                  ⟨handler, key, batchOf packets key⟩)
            ∧ (dispatch routes react packets world).2
              = total (fun key => ((routes world).handlers key).length) (addresses packets))
      ∧ ∀ other, (∀ key, batchOf other key = batchOf packets key) →
          (other.Perm packets ∧ (addresses other).Perm (addresses packets))
            ∧ dispatch routes react other world
              = publishAll routes react ((addresses other).map fun key => (key, batchOf packets key)) world
            ∧ (Steady routes react →
                callsIn routes react other world
                    = (addresses other).flatMap (fun key => callsTo (routes world) key (batchOf packets key))
                  ∧ callsIn routes react packets world
                    = (addresses packets).flatMap (fun key => callsTo (routes world) key (batchOf packets key))
                  ∧ (dispatch routes react other world).2 = (dispatch routes react packets world).2) := by
  have hnodup : ∀ key, ((routes world).handlers key).Nodup := by
    intro key
    rw [hrouter]
    exact ((Router.represents_new (H := H)).collect operations).2.distinct.handlers key
  refine ⟨⟨nodup_addresses packets, fun key => mem_addresses, pairwise_idxOf_eraseDups _⟩,
    ⟨dispatch_eq_publishAll routes react packets world, batches_perm packets⟩, ?_, ?_, ?_⟩
  · obtain ⟨hworld, hcount⟩ := publishAll_recording routes react (batches packets) world []
    rw [dispatch_eq_publishAll, dispatch_eq_publishAll, hworld, hcount]
  · intro hsteady
    obtain ⟨hcalls, hcount⟩ := hsteady.callsIn_eq packets world
    refine ⟨?_, hcount⟩
    intro handler
    rw [hcalls]
    exact flatMap_filter_callsTo hnodup _ _ handler
  · intro other hother
    have hperm := addresses_perm hother
    refine ⟨⟨perm_of_batchOf hother, hperm⟩, ?_, ?_⟩
    · rw [dispatch_eq_publishAll, batches]
      simp only [hother]
    · intro hsteady
      obtain ⟨hcalls, hcount⟩ := hsteady.callsIn_eq other world
      obtain ⟨hcallsBefore, hcountBefore⟩ := hsteady.callsIn_eq packets world
      simp only [hother] at hcalls
      refine ⟨hcalls, hcallsBefore, ?_⟩
      rw [hcount, hcountBefore, total_eq_sum, total_eq_sum, (hperm.map _).sum_eq]

end

/-- One handler subscribes to two addresses, another to the second of them. -/
def sharedSubscriptions : List (RouterOperation Nat) :=
  [.subscribe ⟨0, 1, 0⟩ 7, .subscribe ⟨0, 2, 0⟩ 7, .subscribe ⟨0, 2, 0⟩ 8]

/-- A packet of the second address between two of the first, and one of an address without handlers. -/
def interleavedPackets : List Packet :=
  [.ofPayload 1 10 (.can {}), .ofPayload 2 20 (.can {}), .ofPayload 1 30 (.can {}), .ofPayload 3 40 (.can {})]

/-- The same packets, with that of the second address in front. -/
def reorderedPackets : List Packet :=
  [.ofPayload 2 20 (.can {}), .ofPayload 1 10 (.can {}), .ofPayload 1 30 (.can {}), .ofPayload 3 40 (.can {})]

/-- The handler of both addresses is called for each of them, with its packets in order; three calls are counted, also
when the packets come in another order.  Here the handlers count packets. -/
theorem dispatch_grouped_interleavedPackets :
    let count : Reaction Nat (Router Nat × Nat) := fun _ _ packets world => (world.1, world.2 + packets.length)
    let world : Router Nat × Nat := ((Run.collect Router.perform {} sharedSubscriptions).1, 0)
    Steady Prod.fst count
      ∧ (callsIn Prod.fst count interleavedPackets world).filter (fun call => call.handler = 7)
        = [⟨7, ⟨0, 1, 0⟩, [.ofPayload 1 10 (.can {}), .ofPayload 1 30 (.can {})]⟩,
            ⟨7, ⟨0, 2, 0⟩, [.ofPayload 2 20 (.can {})]⟩]
      ∧ (∀ key, batchOf reorderedPackets key = batchOf interleavedPackets key)
      ∧ (dispatch Prod.fst count reorderedPackets world).2 = 3 := by
  intro count world
  have hsteady : Steady Prod.fst count := fun _ _ _ _ => rfl
  have hother : ∀ key, batchOf reorderedPackets key = batchOf interleavedPackets key := by
    intro key
    by_cases hfirst : (⟨0, 1, 0⟩ : StreamKey) = key
    · subst hfirst
      rfl
    · simp [batchOf, reorderedPackets, interleavedPackets, Packet.key, Packet.ofPayload, List.filter_cons, hfirst]
  obtain ⟨-, -, -, hcalls, hreordered⟩ := dispatch_grouped Prod.fst count
    (show Prod.fst world = (Run.collect Router.perform {} sharedSubscriptions).1 from rfl) interleavedPackets
  obtain ⟨hcalls, hcount⟩ := hcalls hsteady
  obtain ⟨-, -, hreordered⟩ := hreordered reorderedPackets hother
  obtain ⟨-, -, hsame⟩ := hreordered hsteady
  exact ⟨hsteady, (hcalls 7).trans (by decide), hother, hsame.trans (hcount.trans (by decide))⟩

end CaptureProtocol
