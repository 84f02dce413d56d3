import CaptureProtocol.Proofs.PoolHistory
import Mathlib

/-!
# The order in which identifiers are handed out

A pool that only hands out goes through a list that is fixed beforehand: first the identifiers that were given back,
then those of its range that are neither in use nor given back, both ascending.

* `IdPool.answers` — what operations answer, one after the other;
* `IdPool.range`, `IdPool.upcoming` — the identifiers that a pool covers, and the list of those that will be handed out;
* `Sound.head?_upcoming` — the first of the list comes next; `upcoming_occupy` — the one that is handed out leaves it;
* `Sound.perform_allocate` — one call of `allocate`; `Sound.answers_allocate` — any number of them;
* `IdPool.allocate_ordered` — what `allocate` answers after any run of a new pool.
-/

namespace CaptureProtocol.IdPool

variable {pool : IdPool} {id other : UInt32}

/-- What operations answer, one after the other. -/
def answers (pool : IdPool) : List PoolOperation → List PoolAnswer
  | [] => []
  | operation :: operations => (pool.perform operation).2 :: (pool.perform operation).1.answers operations

instance (pool : IdPool) : DecidablePred pool.Free := fun id =>
  inferInstanceAs (Decidable (pool.covers id = true ∧ id ∉ pool.usedSet))

/-! ### The range, ascending -/

/-- The identifiers that a pool covers, ascending. -/
def range (pool : IdPool) : List UInt32 :=
  (List.range' pool.least.toNat (pool.greatest.toNat + 1 - pool.least.toNat)).map UInt32.ofNat

theorem mem_range : id ∈ pool.range ↔ pool.covers id = true := by
  have hid := id.toNat_lt
  have hlimit := pool.greatest.toNat_lt
  rw [range, List.mem_map, covers, Bool.and_eq_true, decide_eq_true_iff, decide_eq_true_iff, UInt32.le_iff_toNat_le,
    UInt32.le_iff_toNat_le]
  constructor
  · rintro ⟨number, hnumber, rfl⟩
    rw [List.mem_range'_1] at hnumber
    rw [UInt32.toNat_ofNat', Nat.mod_eq_of_lt (by omega)]
    omega
  · intro hbounds
    exact ⟨id.toNat, List.mem_range'_1.mpr (by omega), UInt32.ofNat_toNat⟩

theorem pairwise_range (pool : IdPool) : pool.range.Pairwise (· < ·) := by
  have hlimit := pool.greatest.toNat_lt
  rw [range, List.pairwise_map]
  refine (List.pairwise_lt_range' 1).imp_of_mem fun {first second} hfirst hsecond hless => ?_
  rw [List.mem_range'_1] at hfirst hsecond
  rw [UInt32.lt_iff_toNat_lt, UInt32.toNat_ofNat', UInt32.toNat_ofNat', Nat.mod_eq_of_lt (by omega),
    Nat.mod_eq_of_lt (by omega)]
  exact hless

/-- The first identifier of a kind in the range is the least one. -/
theorem head?_filter_range {kind : UInt32 → Prop} [DecidablePred kind]
    (hcovered : ∀ id, kind id → pool.covers id = true) (hleast : IsLeast {id | kind id} id) :
    (pool.range.filter kind).head? = some id := by
  have hmem : ∀ other, other ∈ pool.range.filter kind ↔ kind other := by
    intro other
    rw [List.mem_filter, decide_eq_true_iff, mem_range]
    exact and_iff_right_of_imp (hcovered other)
  have hascending := pool.pairwise_range.filter kind
  have hid := (hmem id).mpr hleast.1
  cases hlist : pool.range.filter kind with
  | nil => exact (List.not_mem_nil (hlist ▸ hid)).elim
  | cons first rest =>
    have hfirst : kind first := (hmem first).mp (hlist ▸ List.mem_cons_self ..)
    rw [hlist] at hid hascending
    have hbelow : first ≤ id := by
      rcases List.mem_cons.mp hid with hsame | hlater
      · exact hsame ▸ UInt32.le_refl _
      · exact UInt32.le_of_lt ((List.pairwise_cons.mp hascending).1 id hlater)
    rw [List.head?_cons, UInt32.le_antisymm hbelow (hleast.2 hfirst)]

/-! ### The list of what will be handed out -/

/-- The identifiers that will be handed out: those that were given back, then those of the range that are neither in
use nor given back. -/
def upcoming (pool : IdPool) : List UInt32 :=
  pool.range.filter (· ∈ pool.recycledSet)
    ++ pool.range.filter fun id => id ∉ pool.usedSet ∧ id ∉ pool.recycledSet

theorem nodup_upcoming (pool : IdPool) : pool.upcoming.Nodup := by
  have hrange : pool.range.Nodup := pool.pairwise_range.imp UInt32.ne_of_lt
  refine List.Nodup.append (hrange.filter _) (hrange.filter _) ?_
  intro id hrecycled hfresh
  rw [List.mem_filter, decide_eq_true_iff] at hrecycled hfresh
  exact hfresh.2.2 hrecycled.2

/-- What is handed out leaves the list. -/
theorem upcoming_occupy (pool : IdPool) (id : UInt32) :
    (pool.occupy id).upcoming = pool.upcoming.filter (· ≠ id) := by
  obtain ⟨hused, hrecycled⟩ := pool.holds_occupy id
  have hrange : (pool.occupy id).range = pool.range := rfl
  rw [upcoming, upcoming, List.filter_append, List.filter_filter, List.filter_filter, hused, hrecycled, hrange]
  congr 1
  · refine List.filter_congr fun other _ => ?_
    rw [Bool.eq_iff_iff]
    simp only [Finset.mem_erase, decide_eq_true_eq, Bool.and_eq_true]
  · refine List.filter_congr fun other _ => ?_
    rw [Bool.eq_iff_iff]
    simp only [Finset.mem_insert, Finset.mem_erase, decide_eq_true_eq, Bool.and_eq_true]
    tauto

namespace Sound

/-- The list holds what is free. -/
theorem mem_upcoming (h : pool.Sound) : id ∈ pool.upcoming ↔ pool.Free id := by
  rw [upcoming, List.mem_append, List.mem_filter, List.mem_filter, decide_eq_true_iff, decide_eq_true_iff, mem_range,
    Free]
  constructor
  · rintro (⟨hcovers, hrecycled⟩ | ⟨hcovers, hunused, -⟩)
    · exact ⟨hcovers, Finset.disjoint_right.mp h.disjoint hrecycled⟩
    · exact ⟨hcovers, hunused⟩
  · rintro ⟨hcovers, hunused⟩
    by_cases hrecycled : id ∈ pool.recycledSet
    · exact .inl ⟨hcovers, hrecycled⟩
    · exact .inr ⟨hcovers, hunused, hrecycled⟩

/-- What comes next is the first of the list. -/
theorem head?_of_comes (h : pool.Sound) (hcomes : pool.Comes id) : pool.upcoming.head? = some id := by
  rw [upcoming, List.head?_append]
  rcases hcomes with hleast | ⟨hempty, hleast⟩
  · rw [head?_filter_range h.recycled_covered hleast]
    rfl
  · -- without recycled identifiers the list is what is not in use
    have hnone : pool.range.filter (· ∈ pool.recycledSet) = [] := by
      rw [hempty]
      exact List.filter_eq_nil_iff.mpr fun other _ => by simp
    have hfresh : pool.range.filter (fun other => other ∉ pool.usedSet ∧ other ∉ pool.recycledSet)
        = pool.range.filter pool.Free := by
      refine List.filter_congr fun other hother => ?_
      rw [mem_range] at hother
      simp [Free, hempty, hother]
    rw [hnone, hfresh, head?_filter_range (fun other hother => hother.1) hleast]
    rfl

theorem head?_upcoming (h : pool.Sound) : pool.upcoming.head? = pool.next? := by
  rcases h.next?_cases with ⟨id, hnext, hcomes⟩ | ⟨hnext, hnone⟩
  · rw [hnext, h.head?_of_comes hcomes]
  · rw [hnext, List.head?_eq_none_iff, List.eq_nil_iff_forall_not_mem]
    exact fun id hid => hnone id (h.mem_upcoming.mp hid)

/-! ### Handing out -/

/-- One call of `allocate`: the first of the list is handed out and leaves it, and an empty list is an error. -/
theorem perform_allocate (h : pool.Sound) :
    (∃ id rest, pool.upcoming = id :: rest ∧ pool.perform .allocate = (pool.occupy id, .handed id)
        ∧ (pool.occupy id).Sound ∧ (pool.occupy id).upcoming = rest)
      ∨ (pool.upcoming = [] ∧ pool.perform .allocate = (pool, .refused .noFreeId)) := by
  have hhead := h.head?_upcoming
  rw [IdPool.perform, allocate]
  cases hlist : pool.upcoming with
  | nil =>
    rw [hlist, List.head?_nil] at hhead
    rw [← hhead]
    exact .inr ⟨rfl, rfl⟩
  | cons id rest =>
    rw [hlist, List.head?_cons] at hhead
    rw [← hhead]
    have hfree : pool.Free id := h.mem_upcoming.mp (hlist ▸ List.mem_cons_self ..)
    refine .inl ⟨id, rest, rfl, rfl, h.occupy hfree.1, ?_⟩
    have hnodup := pool.nodup_upcoming
    rw [hlist, List.nodup_cons] at hnodup
    rw [upcoming_occupy, hlist, List.filter_cons_of_neg (by simp), List.filter_eq_self]
    exact fun other hother => decide_eq_true fun hsame => hnodup.1 (hsame ▸ hother)

/-- Any number of calls: the list from its front, and errors from its end on. -/
theorem answers_allocate (h : pool.Sound) (count : Nat) :
    pool.answers (List.replicate count .allocate)
      = (pool.upcoming.take count).map .handed
        ++ List.replicate (count - pool.upcoming.length) (.refused .noFreeId) := by
  induction count generalizing pool with
  | zero => simp [answers]
  | succ count ih =>
    rw [List.replicate_succ, answers]
    rcases h.perform_allocate with ⟨id, rest, hlist, hperform, hsound, hrest⟩ | ⟨hlist, hperform⟩
    · rw [hperform, ih hsound, hrest, hlist, List.take_succ_cons, List.map_cons, List.length_cons,
        Nat.add_sub_add_right, List.cons_append]
    · rw [hperform, ih h, hlist]
      simp [List.replicate_succ]

/-- A call hands an identifier out exactly where the list has it at the call's place. -/
theorem handed_iff (h : pool.Sound) (count place : Nat) :
    (pool.answers (List.replicate count .allocate))[place]? = some (.handed id)
      ↔ place < count ∧ pool.upcoming[place]? = some id := by
  have hlength : ((pool.upcoming.take count).map PoolAnswer.handed).length = min count pool.upcoming.length := by
    rw [List.length_map, List.length_take]
  rw [h.answers_allocate, List.getElem?_append, hlength]
  split
  · rename_i hplace
    have hcount : place < count := by omega
    rw [List.getElem?_map, List.getElem?_take_of_lt hcount, Option.map_eq_some_iff, and_iff_right hcount]
    constructor
    · rintro ⟨found, hfound, hsame⟩
      cases hsame
      exact hfound
    · exact fun hfound => ⟨id, hfound, rfl⟩
  · rename_i hplace
    -- from here on there are errors, and the list has ended or the calls have
    refine iff_of_false (fun hhanded => ?_) fun ⟨hcount, hfound⟩ => ?_
    · have hrefused := List.eq_of_mem_replicate (List.mem_of_getElem? hhanded)
      cases hrefused
    · obtain ⟨hlist, -⟩ := List.getElem?_eq_some_iff.mp hfound
      omega

end Sound

/-- After any run of operations on a new pool, any number of calls of `allocate` go through the list of the
identifiers that were given back, ascending, and then of the others that are not in use, ascending; when the list is
used up they answer an error.  So every free identifier is handed out exactly once, at its place in the list. -/
theorem allocate_ordered (greatest : UInt32) (zero : ZeroRule) (operations : List PoolOperation) :
    let pool := (upTo greatest zero).performAll operations
    (∀ count, pool.answers (List.replicate count .allocate)
        = (pool.upcoming.take count).map .handed
          ++ List.replicate (count - pool.upcoming.length) (.refused .noFreeId))
      ∧ ∀ id, pool.Free id ↔ ∃ place, ∀ count later,
        (pool.answers (List.replicate count .allocate))[later]? = some (.handed id) ↔ later = place ∧ place < count := by
  intro pool
  have hsound : pool.Sound := (Sound.of_empty rfl rfl : (upTo greatest zero).Sound).performAll operations
  refine ⟨hsound.answers_allocate, fun id => ?_⟩
  rw [← hsound.mem_upcoming, List.mem_iff_getElem?]
  refine exists_congr fun place => ⟨fun hplace count later => ?_, fun hhanded => ?_⟩
  · obtain ⟨hlength, -⟩ := List.getElem?_eq_some_iff.mp hplace
    rw [hsound.handed_iff, ← hplace]
    constructor
    · rintro ⟨hcount, hsame⟩
      have hlater := (List.getElem?_inj hlength pool.nodup_upcoming).mp hsame.symm
      exact ⟨hlater.symm, hlater ▸ hcount⟩
    · rintro ⟨rfl, hcount⟩
      exact ⟨hcount, rfl⟩
  · exact ((hsound.handed_iff (place + 1) place).mp ((hhanded _ _).mpr ⟨rfl, Nat.lt_succ_self place⟩)).2

/-- The identifier that was given back comes before the smaller ones that were never used. -/
example : ((upTo 7 .reserved).performAll [.add 2, .add 3, .add 7, .remove 7]).upcoming = [7, 1, 4, 5, 6] := by
  decide +kernel

end CaptureProtocol.IdPool
