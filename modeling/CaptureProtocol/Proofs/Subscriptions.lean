import CaptureProtocol.Routing.Router
import CaptureProtocol.Run
import CaptureProtocol.Proofs.SinkDelivery
import Mathlib

/-!
# What a router keeps

A router keeps a set of subscriptions, each the pair of an address and a handler, in the order in which they were
made at their address.

* `RouterOperation`, `Router.perform` — the operations and what they answer;
* `Subscriptions.perform` — the same operations on a list of pairs;
* `Router.handlers_setHandlers`, `Router.size_setHandlers` — what replacing the handlers of one address does;
* `Router.Represents` — a router stands for a list of pairs; `Represents.perform` says that an operation keeps this and
  answers the same on both sides;
* `Router.collect_represents` — a run of operations on a new router is the run on pairs.
-/

namespace CaptureProtocol

/-- An operation on the subscriptions of a router. -/
inductive RouterOperation (H : Type) where
  | subscribe (key : StreamKey) (handler : H)
  | unsubscribe (key : StreamKey) (handler : H)
  | move (old new : StreamKey) (handler : H)
  | clear
deriving DecidableEq, Inhabited, Repr

/-- The subscriptions of handlers to addresses, in the order in which they were made. -/
abbrev Subscriptions (H : Type) := List (StreamKey × H)

section

variable {H : Type} [DecidableEq H]

/-- The router after an operation, and what the operation answers. -/
def Router.perform (router : Router H) : RouterOperation H → Router H × List Bool
  | .subscribe key handler =>
    let (router, answer) := router.subscribe key handler
    (router, [answer])
  | .unsubscribe key handler =>
    let (router, answer) := router.unsubscribe key handler
    (router, [answer])
  | .move old new handler => (router.move old new handler, [])
  | .clear => (router.clear, [])

/-- The subscriptions with one more at the end, unless it is there already. -/
def Subscriptions.add (pairs : Subscriptions H) (pair : StreamKey × H) : Subscriptions H :=
  if pair ∈ pairs then pairs else pairs ++ [pair]

/-- The subscriptions after an operation, and what the operation answers. -/
def Subscriptions.perform (pairs : Subscriptions H) : RouterOperation H → Subscriptions H × List Bool
  | .subscribe key handler => (Subscriptions.add pairs (key, handler), [decide ((key, handler) ∉ pairs)])
  | .unsubscribe key handler => (pairs.erase (key, handler), [decide ((key, handler) ∈ pairs)])
  | .move old new handler =>
    (if old = new then pairs else Subscriptions.add (pairs.erase (old, handler)) (new, handler), [])
  | .clear => ([], [])

end

/-- The handlers of an address, in the order of their subscriptions. -/
def Subscriptions.handlers {H : Type} (pairs : Subscriptions H) (key : StreamKey) : List H :=
  (pairs.filter (·.1 = key)).map (·.2)

/-! ### Entries of a router -/

namespace Router

variable {H : Type} {router : Router H} {key other : StreamKey} {list : List H}

theorem lookup_setEntry_of_ne (h : other ≠ key) (entries : List (StreamKey × List H)) :
    (setEntry key list entries).lookup other = entries.lookup other := by
  induction entries with
  | nil =>
    rw [setEntry]
    split
    · rfl
    · rw [List.lookup_cons, beq_false_of_ne h]
  | cons entry rest ih =>
    obtain ⟨head, old⟩ := entry
    rw [setEntry]
    by_cases hhead : key = head
    · subst hhead
      rw [if_pos rfl, List.lookup_cons, beq_false_of_ne h]
      split
      · rfl
      · rw [List.lookup_cons, beq_false_of_ne h]
    · rw [if_neg hhead, List.lookup_cons, List.lookup_cons, ih]

theorem lookup_eq_none_of_not_mem {entries : List (StreamKey × List H)} (h : key ∉ entries.map (·.1)) :
    entries.lookup key = none := by
  rw [List.lookup_eq_none_iff]
  intro entry hentry
  refine bne_iff_ne.mpr ?_
  intro hkey
  exact h (List.mem_map.mpr ⟨entry, hentry, hkey.symm⟩)

/-- An address that had one entry at most has the list that was set. -/
theorem lookup_setEntry_self {entries : List (StreamKey × List H)} (h : (entries.map (·.1)).Nodup) :
    ((setEntry key list entries).lookup key).getD [] = list := by
  induction entries with
  | nil =>
    rw [setEntry]
    split
    · rename_i hempty
      exact (List.isEmpty_iff.mp hempty).symm
    · rw [List.lookup_cons_self]
      rfl
  | cons entry rest ih =>
    obtain ⟨head, old⟩ := entry
    obtain ⟨hnot, hrest⟩ := List.nodup_cons.mp h
    rw [setEntry]
    by_cases hhead : key = head
    · subst hhead
      rw [if_pos rfl]
      split
      · rename_i hempty
        rw [lookup_eq_none_of_not_mem hnot]
        exact (List.isEmpty_iff.mp hempty).symm
      · rw [List.lookup_cons_self]
        rfl
    · rw [if_neg hhead, List.lookup_cons, beq_false_of_ne hhead]
      exact ih hrest

/-- Replacing the handlers of an address leaves those of the others. -/
theorem handlers_setHandlers (h : router.keys.Nodup) (key other : StreamKey) (list : List H) :
    (router.setHandlers key list).handlers other = if other = key then list else router.handlers other := by
  rw [handlers, setHandlers]
  by_cases hkey : other = key
  · subst hkey
    rw [if_pos rfl]
    exact lookup_setEntry_self h
  · rw [if_neg hkey, lookup_setEntry_of_ne hkey]
    rfl

theorem nodup_keys_setEntry {entries : List (StreamKey × List H)} (h : (entries.map (·.1)).Nodup) :
    ((setEntry key list entries).map (·.1)).Nodup := by
  induction entries with
  | nil =>
    rw [setEntry]
    split
    · exact List.nodup_nil
    · exact List.nodup_singleton _
  | cons entry rest ih =>
    obtain ⟨head, old⟩ := entry
    obtain ⟨hnot, hrest⟩ := List.nodup_cons.mp h
    rw [setEntry]
    by_cases hhead : key = head
    · subst hhead
      rw [if_pos rfl]
      split
      · exact hrest
      · exact h
    · rw [if_neg hhead, List.map_cons]
      refine List.nodup_cons.mpr ⟨?_, ih hrest⟩
      intro hmem
      obtain ⟨found, hfound, hsame⟩ := List.mem_map.mp hmem
      rcases mem_setEntry hfound with rfl | hold
      · exact hhead hsame
      · exact hnot (List.mem_map.mpr ⟨found, hold, hsame⟩)

/-- An address without handlers gets no entry. -/
theorem ne_nil_of_mem_setEntry {entries : List (StreamKey × List H)} (h : ∀ entry ∈ entries, entry.2 ≠ []) :
    ∀ entry ∈ setEntry key list entries, entry.2 ≠ [] := by
  induction entries with
  | nil =>
    rw [setEntry]
    split
    · exact List.forall_mem_nil _
    · rename_i hfilled
      exact List.forall_mem_singleton.mpr (fun hempty => hfilled (List.isEmpty_iff.mpr hempty))
  | cons entry rest ih =>
    obtain ⟨head, old⟩ := entry
    obtain ⟨hhead, hrest⟩ := List.forall_mem_cons.mp h
    rw [setEntry]
    split
    · split
      · exact hrest
      · rename_i hfilled
        exact List.forall_mem_cons.mpr ⟨fun hempty => hfilled (List.isEmpty_iff.mpr hempty), hrest⟩
    · exact List.forall_mem_cons.mpr ⟨hhead, ih hrest⟩

/-- The handlers that were there give way to the new ones. -/
theorem total_setEntry (entries : List (StreamKey × List H)) :
    total (fun entry => entry.2.length) (setEntry key list entries) + ((entries.lookup key).getD []).length
      = total (fun entry => entry.2.length) entries + list.length := by
  induction entries with
  | nil =>
    rw [setEntry]
    split
    · rename_i hempty
      rw [List.isEmpty_iff.mp hempty]
      rfl
    · simp
  | cons entry rest ih =>
    obtain ⟨head, old⟩ := entry
    rw [setEntry]
    by_cases hhead : key = head
    · subst hhead
      rw [if_pos rfl, List.lookup_cons_self]
      split
      · rename_i hempty
        rw [List.isEmpty_iff.mp hempty]
        simp only [total_cons, Option.getD_some, List.length_nil]
        omega
      · simp only [total_cons, Option.getD_some]
        omega
    · rw [if_neg hhead, List.lookup_cons, beq_false_of_ne hhead]
      simp only [total_cons]
      omega

/-- With one entry for each address, looking for the address of an entry finds the entry. -/
theorem lookup_of_mem {entries : List (StreamKey × List H)} (h : (entries.map (·.1)).Nodup)
    {entry : StreamKey × List H} (hentry : entry ∈ entries) : entries.lookup entry.1 = some entry.2 := by
  induction entries with
  | nil => exact (List.not_mem_nil hentry).elim
  | cons head rest ih =>
    obtain ⟨hnot, hrest⟩ := List.nodup_cons.mp h
    rcases List.mem_cons.mp hentry with rfl | hmem
    · exact List.lookup_cons_self
    · have hne : entry.1 ≠ head.1 := fun hsame => hnot (List.mem_map.mpr ⟨entry, hmem, hsame⟩)
      rw [List.lookup_cons, beq_false_of_ne hne]
      exact ih hrest hmem

theorem size_setHandlers (router : Router H) (key : StreamKey) (list : List H) :
    (router.setHandlers key list).size + (router.handlers key).length = router.size + list.length :=
  total_setEntry router.entries

/-- With one entry for each address, an entry holds the handlers of its address. -/
theorem handlers_of_mem_entries (h : router.keys.Nodup) {entry : StreamKey × List H} (hentry : entry ∈ router.entries) :
    router.handlers entry.1 = entry.2 := by
  rw [handlers, lookup_of_mem h hentry]
  rfl

theorem mem_keys_iff (h : router.keys.Nodup) (hfilled : ∀ entry ∈ router.entries, entry.2 ≠ []) :
    key ∈ router.keys ↔ ∃ handler, handler ∈ router.handlers key := by
  constructor
  · intro hkey
    obtain ⟨entry, hentry, rfl⟩ := List.mem_map.mp hkey
    rw [handlers_of_mem_entries h hentry]
    exact List.exists_mem_of_ne_nil _ (hfilled entry hentry)
  · intro hhandlers
    obtain ⟨handler, hhandler⟩ := hhandlers
    by_contra hnot
    rw [handlers, lookup_eq_none_of_not_mem hnot] at hhandler
    exact List.not_mem_nil hhandler

end Router

/-! ### Lists of pairs -/

namespace Subscriptions

variable {H : Type} {pairs : Subscriptions H} {key other : StreamKey} {handler : H}

theorem mem_handlers : handler ∈ handlers pairs key ↔ (key, handler) ∈ pairs := by
  rw [handlers, List.mem_map]
  constructor
  · intro hmem
    obtain ⟨⟨address, other⟩, hpair, rfl⟩ := hmem
    obtain ⟨hpair, hkey⟩ := List.mem_filter.mp hpair
    rw [← of_decide_eq_true hkey]
    exact hpair
  · intro hpair
    exact ⟨(key, handler), List.mem_filter.mpr ⟨hpair, decide_eq_true rfl⟩, rfl⟩

theorem handlers_append_self : handlers (pairs ++ [(key, handler)]) key = handlers pairs key ++ [handler] := by
  simp [handlers]

theorem handlers_append_of_ne (h : other ≠ key) :
    handlers (pairs ++ [(key, handler)]) other = handlers pairs other := by
  simp [handlers, h.symm]

theorem length_handlers (pairs : Subscriptions H) (key : StreamKey) :
    (handlers pairs key).length = pairs.countP (·.1 = key) := by
  rw [handlers, List.length_map, List.countP_eq_length_filter]

theorem nodup_handlers (h : pairs.Nodup) (key : StreamKey) : (handlers pairs key).Nodup := by
  refine List.Nodup.map_on ?_ (h.filter _)
  intro pair hpair another hanother hsame
  obtain ⟨-, hkey⟩ := List.mem_filter.mp hpair
  obtain ⟨-, hotherKey⟩ := List.mem_filter.mp hanother
  exact Prod.ext ((of_decide_eq_true hkey).trans (of_decide_eq_true hotherKey).symm) hsame

variable [DecidableEq H]

theorem handlers_erase_self (h : pairs.Nodup) :
    handlers (pairs.erase (key, handler)) key = (handlers pairs key).filter (· != handler) := by
  rw [handlers, handlers, h.erase_eq_filter, List.filter_filter, List.filter_map, List.filter_filter]
  congr 1
  refine List.filter_congr ?_
  intro pair _
  by_cases hkey : pair.1 = key
  · simp [hkey, bne, Prod.ext_iff, Function.comp]
  · simp [hkey]

theorem handlers_erase_of_ne (h : other ≠ key) :
    handlers (pairs.erase (key, handler)) other = handlers pairs other := by
  induction pairs with
  | nil => rfl
  | cons pair pairs ih =>
    by_cases hpair : pair = (key, handler)
    · subst hpair
      rw [List.erase_cons_head, handlers, handlers, List.filter_cons_of_neg (by simpa using h.symm)]
    · rw [List.erase_cons_tail (by simpa using hpair)]
      rw [handlers, handlers] at ih ⊢
      rw [List.filter_cons, List.filter_cons]
      split
      · rw [List.map_cons, List.map_cons, ih]
      · exact ih

end Subscriptions

/-! ### A router stands for its subscriptions -/

namespace Router

variable {H : Type} {router : Router H} {pairs : Subscriptions H} {key : StreamKey} {handler : H}

/-- A router stands for subscriptions. -/
structure Represents (router : Router H) (pairs : Subscriptions H) : Prop where
  /-- Every subscription is made once. -/
  pairs_nodup : pairs.Nodup
  /-- An address has one entry at most. -/
  keys_nodup : router.keys.Nodup
  /-- An address with an entry has a handler. -/
  filled : ∀ entry ∈ router.entries, entry.2 ≠ []
  handlers_eq : ∀ key, router.handlers key = Subscriptions.handlers pairs key
  size_eq : router.size = pairs.length

theorem represents_new : ({} : Router H).Represents [] where
  pairs_nodup := List.nodup_nil
  keys_nodup := List.nodup_nil
  filled := List.forall_mem_nil _
  handlers_eq := fun _ => rfl
  size_eq := rfl

namespace Represents

theorem mem_handlers (h : router.Represents pairs) : handler ∈ router.handlers key ↔ (key, handler) ∈ pairs := by
  rw [h.handlers_eq, Subscriptions.mem_handlers]

theorem distinct (h : router.Represents pairs) : router.Distinct := by
  intro entry hentry
  rw [← handlers_of_mem_entries h.keys_nodup hentry, h.handlers_eq]
  exact Subscriptions.nodup_handlers h.pairs_nodup entry.1

/-- The handlers of one address are replaced on both sides. -/
theorem setHandlers (h : router.Represents pairs) {later : Subscriptions H} {list : List H} (hnodup : later.Nodup)
    (hself : Subscriptions.handlers later key = list)
    (hother : ∀ other, other ≠ key → Subscriptions.handlers later other = Subscriptions.handlers pairs other)
    (hlength : later.length + (Subscriptions.handlers pairs key).length = pairs.length + list.length) :
    (router.setHandlers key list).Represents later where
  pairs_nodup := hnodup
  keys_nodup := nodup_keys_setEntry h.keys_nodup
  filled := ne_nil_of_mem_setEntry h.filled
  handlers_eq := by
    intro other
    rw [handlers_setHandlers h.keys_nodup]
    split
    · rename_i hkey
      rw [hkey, hself]
    · rename_i hkey
      rw [hother other hkey, h.handlers_eq]
  size_eq := by
    have hsize := size_setHandlers router key list
    rw [h.handlers_eq, h.size_eq] at hsize
    omega

variable [DecidableEq H]

theorem subscribe (h : router.Represents pairs) (key : StreamKey) (handler : H) :
    (router.subscribe key handler).2 = decide ((key, handler) ∉ pairs)
      ∧ (router.subscribe key handler).1.Represents (Subscriptions.add pairs (key, handler)) := by
  rw [Router.subscribe, Subscriptions.add]
  by_cases hmem : (key, handler) ∈ pairs
  · rw [if_pos hmem, if_pos (List.contains_iff_mem.mpr (h.mem_handlers.mpr hmem))]
    exact ⟨(decide_eq_false (not_not.mpr hmem)).symm, h⟩
  · rw [if_neg hmem, if_neg (mt List.contains_iff_mem.mp (mt h.mem_handlers.mp hmem))]
    refine ⟨(decide_eq_true hmem).symm, ?_⟩
    refine h.setHandlers (h.pairs_nodup.append (List.nodup_singleton _) (List.disjoint_singleton.mpr hmem)) ?_ ?_ ?_
    · rw [Subscriptions.handlers_append_self, h.handlers_eq]
    · exact fun other hother => Subscriptions.handlers_append_of_ne hother
    · rw [h.handlers_eq, List.length_append, List.length_append]
      simp only [List.length_singleton]
      omega

theorem unsubscribe (h : router.Represents pairs) (key : StreamKey) (handler : H) :
    (router.unsubscribe key handler).2 = decide ((key, handler) ∈ pairs)
      ∧ (router.unsubscribe key handler).1.Represents (pairs.erase (key, handler)) := by
  rw [Router.unsubscribe]
  by_cases hmem : (key, handler) ∈ pairs
  · rw [if_pos (List.contains_iff_mem.mpr (h.mem_handlers.mpr hmem))]
    refine ⟨(decide_eq_true hmem).symm, ?_⟩
    refine h.setHandlers (h.pairs_nodup.erase _) ?_ ?_ ?_
    · rw [Subscriptions.handlers_erase_self h.pairs_nodup, h.handlers_eq]
    · exact fun other hother => Subscriptions.handlers_erase_of_ne hother
    · have hhandlers : handler ∈ Subscriptions.handlers pairs key := Subscriptions.mem_handlers.mpr hmem
      have hlist : (handlers router key).filter (· != handler) = (Subscriptions.handlers pairs key).erase handler := by
        rw [h.handlers_eq, (Subscriptions.nodup_handlers h.pairs_nodup key).erase_eq_filter]
      rw [hlist, List.length_erase_of_mem hmem, List.length_erase_of_mem hhandlers]
      have hpos := List.length_pos_of_mem hmem
      have hposHandlers := List.length_pos_of_mem hhandlers
      omega
  · rw [if_neg (mt List.contains_iff_mem.mp (mt h.mem_handlers.mp hmem)), List.erase_of_not_mem hmem]
    exact ⟨(decide_eq_false hmem).symm, h⟩

theorem move (h : router.Represents pairs) (old new : StreamKey) (handler : H) :
    (router.move old new handler).Represents
      (if old = new then pairs else Subscriptions.add (pairs.erase (old, handler)) (new, handler)) := by
  rw [Router.move]
  split
  · exact h
  · exact ((h.unsubscribe old handler).2.subscribe new handler).2

/-- An operation answers the same on both sides, and what it leaves corresponds again. -/
theorem perform (h : router.Represents pairs) (operation : RouterOperation H) :
    (router.perform operation).2 = (Subscriptions.perform pairs operation).2
      ∧ (router.perform operation).1.Represents (Subscriptions.perform pairs operation).1 := by
  cases operation with
  | subscribe key handler =>
    obtain ⟨hanswer, hlater⟩ := h.subscribe key handler
    exact ⟨congrArg (fun answer => [answer]) hanswer, hlater⟩
  | unsubscribe key handler =>
    obtain ⟨hanswer, hlater⟩ := h.unsubscribe key handler
    exact ⟨congrArg (fun answer => [answer]) hanswer, hlater⟩
  | move old new handler => exact ⟨rfl, h.move old new handler⟩
  | clear => exact ⟨rfl, represents_new⟩

theorem collect (h : router.Represents pairs) (operations : List (RouterOperation H)) :
    (Run.collect Router.perform router operations).2 = (Run.collect Subscriptions.perform pairs operations).2
      ∧ (Run.collect Router.perform router operations).1.Represents
        (Run.collect Subscriptions.perform pairs operations).1 := by
  induction operations generalizing router pairs with
  | nil => exact ⟨rfl, h⟩
  | cons operation operations ih =>
    obtain ⟨hanswer, hlater⟩ := h.perform operation
    obtain ⟨hanswers, hlast⟩ := ih hlater
    rw [Run.collect_cons, Run.collect_cons, hanswer, hanswers]
    exact ⟨rfl, hlast⟩

end Represents

/-- A run of operations on a new router answers and leaves what the run on pairs does: no address has an empty list or
the same handler twice, and what the router counts and lists is that of the pairs. -/
theorem collect_new [DecidableEq H] (operations : List (RouterOperation H)) :
    let (router, answers) := Run.collect Router.perform ({} : Router H) operations
    let (pairs, expected) := Run.collect Subscriptions.perform [] operations
    answers = expected
      ∧ (∀ entry ∈ router.entries, entry.2 ≠ [] ∧ entry.2.Nodup)
      ∧ pairs.Nodup
      ∧ (∀ key, router.handlers key = Subscriptions.handlers pairs key)
      ∧ router.size = pairs.length
      ∧ (∀ key, (router.handlers key).length = pairs.countP (·.1 = key))
      ∧ router.keys.Nodup
      ∧ (∀ key, key ∈ router.keys ↔ ∃ handler, (key, handler) ∈ pairs)
      ∧ ∀ key handler, router.move key key handler = router := by
  obtain ⟨hanswers, h⟩ := (represents_new (H := H)).collect operations
  refine ⟨hanswers, ?_, h.pairs_nodup, h.handlers_eq, h.size_eq, ?_, h.keys_nodup, ?_, ?_⟩
  · intro entry hentry
    exact ⟨h.filled entry hentry, h.distinct entry hentry⟩
  · intro key
    exact (congrArg List.length (h.handlers_eq key)).trans (Subscriptions.length_handlers _ key)
  · intro key
    exact (mem_keys_iff h.keys_nodup h.filled).trans (exists_congr fun handler => h.mem_handlers)
  · intro key handler
    rw [Router.move, if_pos rfl]

end Router

end CaptureProtocol
