import CaptureProtocol.Proofs.Bookkeeping
import Mathlib

/-!
# What a pool hands out over a whole run

A pool stands for two sets of identifiers, those in use and those that were given back.

* `PoolOperation`, `IdPool.perform` — the operations of a pool and what they answer;
* `IdSet.mem_of_lt_firstGap` — every number below the first gap is there;
* `IdPool.Sound` — both sets lie in the range and share nothing; `Sound.perform`, `Sound.performAll` keep it;
* `IdPool.Comes` — the identifier that comes next, told by the two sets; `Sound.next?_eq_some_iff`,
  `Sound.next?_eq_none_iff` say that `next?` finds it, and fails only when everything is in use;
* `IdPool.Obeys` — what an operation answers and what it makes of the two sets; `Sound.obeys`;
* `IdPool.Sound.exists_release` — an identifier goes out of use only where an operation releases it;
* `IdPool.performAll_lawful` — a run of a new pool, whatever its range.
-/

namespace CaptureProtocol

/-- An operation on a pool. -/
inductive PoolOperation where
  | add (id : UInt32)
  | remove (id : UInt32)
  | allocate
  | replace (old new : UInt32)
  | clear
deriving DecidableEq, Inhabited, Repr

/-- What an operation on a pool answers. -/
inductive PoolAnswer where
  | done
  /-- Whether the pool changed. -/
  | changed (yes : Bool)
  | handed (id : UInt32)
  | refused (error : LinkError)
deriving Inhabited

/-- An operation that can put an identifier out of use. -/
def PoolOperation.Releases (operation : PoolOperation) (id : UInt32) : Prop :=
  operation = .remove id ∨ (∃ new, operation = .replace id new) ∨ operation = .clear

/-! ### The first gap -/

theorem IdSet.mem_of_lt_firstGap {ids : IdSet} {start number : Nat} (hstart : start ≤ number)
    (hbelow : number < firstGap start ids) : ∃ id ∈ ids, id.toNat = number := by
  induction ids generalizing start with
  | nil =>
    rw [firstGap] at hbelow
    omega
  | cons head tail ih =>
    rw [firstGap] at hbelow
    split at hbelow
    · obtain ⟨id, hid, hnumber⟩ := ih hstart hbelow
      exact ⟨id, List.mem_cons_of_mem _ hid, hnumber⟩
    · split at hbelow
      · rename_i hhead
        rcases hstart.eq_or_lt with hsame | hlater
        · exact ⟨head, List.mem_cons_self .., hhead.trans hsame⟩
        · obtain ⟨id, hid, hnumber⟩ := ih hlater hbelow
          exact ⟨id, List.mem_cons_of_mem _ hid, hnumber⟩
      · omega

namespace IdPool

variable {pool : IdPool} {id other old new : UInt32}

/-- The pool after an operation, and what the operation answers. -/
def perform (pool : IdPool) : PoolOperation → IdPool × PoolAnswer
  | .add id => ((pool.add id).1, .changed (pool.add id).2)
  | .remove id => ((pool.remove id).1, .changed (pool.remove id).2)
  | .allocate =>
    match pool.allocate with
    | .ok (id, after) => (after, .handed id)
    | .error error => (pool, .refused error)
  | .replace old new =>
    match pool.replace old new with
    | .ok after => (after, .done)
    | .error error => (pool, .refused error)
  | .clear => (pool.clear, .done)

/-- The pool after operations, one after the other. -/
def performAll (pool : IdPool) (operations : List PoolOperation) : IdPool :=
  operations.foldl (fun pool operation => (pool.perform operation).1) pool

/-- The identifier that an operation puts in use. -/
def handed? (pool : IdPool) : PoolOperation → Option UInt32
  | .add id => if (pool.add id).2 then some id else none
  | .allocate => pool.allocate.toOption.map (·.1)
  | .replace old new => if old = new then none else (pool.replace old new).toOption.map fun _ => new
  | .remove _ | .clear => none

/-! ### A pool as two sets -/

/-- The identifiers in use, as a set. -/
def usedSet (pool : IdPool) : Finset UInt32 := pool.used.toFinset

/-- The identifiers that were given back, as a set. -/
def recycledSet (pool : IdPool) : Finset UInt32 := pool.recycled.toFinset

/-- An identifier of the range that is not in use. -/
def Free (pool : IdPool) (id : UInt32) : Prop := pool.covers id = true ∧ id ∉ pool.usedSet

/-- The identifier that comes next: the least that was given back, else the least that is not in use. -/
def Comes (pool : IdPool) (id : UInt32) : Prop :=
  IsLeast (pool.recycledSet : Set UInt32) id ∨ pool.recycledSet = ∅ ∧ IsLeast {other | pool.Free other} id

/-- The sets that a pool stands for. -/
def Holds (pool : IdPool) (used recycled : Finset UInt32) : Prop :=
  pool.usedSet = used ∧ pool.recycledSet = recycled

@[simp] theorem mem_usedSet : id ∈ pool.usedSet ↔ id ∈ pool.used := List.mem_toFinset

@[simp] theorem mem_recycledSet : id ∈ pool.recycledSet ↔ id ∈ pool.recycled := List.mem_toFinset

theorem holds_occupy (pool : IdPool) (id : UInt32) :
    (pool.occupy id).Holds (insert id pool.usedSet) (pool.recycledSet.erase id) := by
  constructor
  · ext other
    rw [mem_usedSet, mem_used_occupy, Finset.mem_insert, mem_usedSet]
  · ext other
    rw [mem_recycledSet, mem_recycled_occupy, Finset.mem_erase, mem_recycledSet, and_comm]

theorem holds_remove (h : id ∈ pool.used) :
    (pool.remove id).1.Holds (pool.usedSet.erase id) (insert id pool.recycledSet) := by
  rw [remove_of_mem h]
  constructor
  · ext other
    rw [mem_usedSet, Finset.mem_erase, mem_usedSet, IdSet.mem_remove, and_comm]
  · ext other
    rw [mem_recycledSet, Finset.mem_insert, mem_recycledSet, IdSet.mem_insert]

theorem add_of_free (h : pool.Free id) : pool.add id = (pool.occupy id, true) := by
  rw [add, h.1, if_pos]
  rw [Bool.true_and, Bool.not_eq_true', ← Bool.not_eq_true, inUse_iff, ← mem_usedSet]
  exact h.2

theorem add_of_not_free (h : ¬ pool.Free id) : pool.add id = (pool, false) := by
  rw [add, if_neg]
  rw [Bool.and_eq_true, Bool.not_eq_true', ← Bool.not_eq_true, inUse_iff, ← mem_usedSet]
  exact h

/-- What an operation answers, and what it makes of the identifiers in use and of those given back. -/
def Obeys (before : IdPool) : PoolOperation → IdPool → PoolAnswer → Prop
  | .add id, after, answer =>
    (before.Free id ∧ answer = .changed true
        ∧ after.Holds (insert id before.usedSet) (before.recycledSet.erase id))
      ∨ (¬ before.Free id ∧ answer = .changed false ∧ after = before)
  | .remove id, after, answer =>
    (id ∈ before.usedSet ∧ answer = .changed true
        ∧ after.Holds (before.usedSet.erase id) (insert id before.recycledSet))
      ∨ (id ∉ before.usedSet ∧ answer = .changed false ∧ after = before)
  | .allocate, after, answer =>
    (∃ id, before.Comes id ∧ before.Free id ∧ answer = .handed id
        ∧ after.Holds (insert id before.usedSet) (before.recycledSet.erase id))
      ∨ ((∀ id, ¬ before.Free id) ∧ answer = .refused .noFreeId ∧ after = before)
  | .replace old new, after, answer =>
    (old = new ∧ answer = .done ∧ after = before)
      ∨ (old ≠ new ∧ before.Free new ∧ answer = .done
        ∧ after.Holds (insert new (before.usedSet.erase old))
          (if old ∈ before.usedSet then insert old (before.recycledSet.erase new) else before.recycledSet.erase new))
      ∨ (old ≠ new ∧ before.covers new = false
        ∧ answer = .refused (.idOutside new before.least before.greatest) ∧ after = before)
      ∨ (old ≠ new ∧ before.covers new = true ∧ new ∈ before.usedSet ∧ answer = .refused (.idTaken new)
        ∧ after = before)
  | .clear, after, answer => answer = .done ∧ after.Holds ∅ ∅

/-! ### The range -/

theorem perform_range (pool : IdPool) (operation : PoolOperation) :
    (pool.perform operation).1.least = pool.least ∧ (pool.perform operation).1.greatest = pool.greatest := by
  have hremove : ∀ (pool : IdPool) (id : UInt32),
      (pool.remove id).1.least = pool.least ∧ (pool.remove id).1.greatest = pool.greatest := by
    intro pool id
    rw [remove]
    split <;> exact ⟨rfl, rfl⟩
  cases operation with
  | add id =>
    rw [perform, add]
    split_ifs <;> exact ⟨rfl, rfl⟩
  | remove id => exact hremove pool id
  | allocate =>
    rw [perform, allocate]
    cases pool.next? <;> exact ⟨rfl, rfl⟩
  | replace old new =>
    rw [perform, replace]
    split_ifs
    · exact ⟨rfl, rfl⟩
    · exact ⟨rfl, rfl⟩
    · exact ⟨rfl, rfl⟩
    · exact hremove (pool.occupy new) old
  | clear => exact ⟨rfl, rfl⟩

theorem performAll_range (pool : IdPool) (operations : List PoolOperation) :
    (pool.performAll operations).least = pool.least ∧ (pool.performAll operations).greatest = pool.greatest := by
  induction operations generalizing pool with
  | nil => exact ⟨rfl, rfl⟩
  | cons operation operations ih =>
    obtain ⟨hleast, hgreatest⟩ := ih (pool.perform operation).1
    obtain ⟨hfirst, hlast⟩ := pool.perform_range operation
    exact ⟨hleast.trans hfirst, hgreatest.trans hlast⟩

/-! ### The invariant -/

/-- Both sets lie in the range and share nothing. -/
structure Sound (pool : IdPool) : Prop where
  used_ascending : pool.used.Pairwise (· < ·)
  recycled_ascending : pool.recycled.Pairwise (· < ·)
  used_covered : ∀ id ∈ pool.usedSet, pool.covers id = true
  recycled_covered : ∀ id ∈ pool.recycledSet, pool.covers id = true
  disjoint : Disjoint pool.usedSet pool.recycledSet

namespace Sound

theorem of_empty (hused : pool.used = []) (hrecycled : pool.recycled = []) : pool.Sound := by
  constructor
  · rw [hused]
    exact List.Pairwise.nil
  · rw [hrecycled]
    exact List.Pairwise.nil
  · intro id hid
    rw [mem_usedSet, hused] at hid
    exact (List.not_mem_nil hid).elim
  · intro id hid
    rw [mem_recycledSet, hrecycled] at hid
    exact (List.not_mem_nil hid).elim
  · rw [usedSet, hused]
    exact Finset.disjoint_empty_left _

theorem occupy (h : pool.Sound) (hcovers : pool.covers id = true) : (pool.occupy id).Sound := by
  obtain ⟨hused, hrecycled⟩ := pool.holds_occupy id
  refine ⟨IdSet.pairwise_insert h.used_ascending, IdSet.pairwise_remove h.recycled_ascending, ?_, ?_, ?_⟩
  · rw [hused]
    exact (Finset.forall_mem_insert _ _ _).mpr ⟨hcovers, h.used_covered⟩
  · rw [hrecycled]
    exact fun other hother => h.recycled_covered other (Finset.mem_of_mem_erase hother)
  · rw [hused, hrecycled]
    refine Finset.disjoint_insert_left.mpr ⟨Finset.notMem_erase _ _, ?_⟩
    exact h.disjoint.mono_right (Finset.erase_subset _ _)

theorem remove (h : pool.Sound) (id : UInt32) : (pool.remove id).1.Sound := by
  by_cases hmem : id ∈ pool.used
  · obtain ⟨hused, hrecycled⟩ := holds_remove hmem
    rw [remove_of_mem hmem] at hused hrecycled ⊢
    refine ⟨IdSet.pairwise_remove h.used_ascending, IdSet.pairwise_insert h.recycled_ascending, ?_, ?_, ?_⟩
    · rw [hused]
      exact fun other hother => h.used_covered other (Finset.mem_of_mem_erase hother)
    · rw [hrecycled]
      exact (Finset.forall_mem_insert _ _ _).mpr ⟨h.used_covered id (mem_usedSet.mpr hmem), h.recycled_covered⟩
    · rw [hused, hrecycled]
      refine Finset.disjoint_insert_right.mpr ⟨Finset.notMem_erase _ _, ?_⟩
      exact h.disjoint.mono_left (Finset.erase_subset _ _)
  · rwa [remove_of_notMem hmem]

/-! ### What comes next -/

/-- Identifiers of the range are free from the first gap on, when none was given back. -/
theorem isLeast_firstGap (h : pool.Sound) (hid : id.toNat = IdSet.firstGap pool.least.toNat pool.used)
    (hgreatest : id ≤ pool.greatest) : IsLeast {other | pool.Free other} id := by
  have hleast := IdSet.le_firstGap pool.least.toNat pool.used
  constructor
  · refine ⟨?_, fun hused => IdSet.ne_firstGap h.used_ascending _ _ (mem_usedSet.mp hused) hid⟩
    rw [covers, Bool.and_eq_true, decide_eq_true_iff, decide_eq_true_iff, UInt32.le_iff_toNat_le]
    exact ⟨by omega, hgreatest⟩
  · intro other hfree
    obtain ⟨hcovers, hunused⟩ := hfree
    rw [covers, Bool.and_eq_true, decide_eq_true_iff, UInt32.le_iff_toNat_le] at hcovers
    by_contra hless
    -- a lesser number of the range lies below the gap, where everything is in use
    rw [UInt32.le_iff_toNat_le] at hless
    have hbelow : other.toNat < IdSet.firstGap pool.least.toNat pool.used := by omega
    obtain ⟨found, hfound, hsame⟩ := IdSet.mem_of_lt_firstGap hcovers.1 hbelow
    exact hunused (mem_usedSet.mpr (UInt32.toNat_inj.mp hsame ▸ hfound))

/-- The first of ascending identifiers is the least. -/
theorem isLeast_head {ids : IdSet} (h : (id :: ids).Pairwise (· < ·)) :
    IsLeast ((id :: ids).toFinset : Set UInt32) id := by
  constructor
  · exact List.mem_toFinset.mpr (List.mem_cons_self ..)
  · intro other hother
    rcases List.mem_cons.mp (List.mem_toFinset.mp hother) with rfl | hlater
    · exact UInt32.le_refl _
    · exact UInt32.le_of_lt ((List.pairwise_cons.mp h).1 other hlater)

theorem comes_free (h : pool.Sound) (hcomes : pool.Comes id) : pool.Free id := by
  rcases hcomes with hrecycled | ⟨-, hfree⟩
  · exact ⟨h.recycled_covered id hrecycled.1, Finset.disjoint_right.mp h.disjoint hrecycled.1⟩
  · exact hfree.1

theorem next?_cases (h : pool.Sound) :
    (∃ id, pool.next? = some id ∧ pool.Comes id) ∨ (pool.next? = none ∧ ∀ id, ¬ pool.Free id) := by
  rw [next?]
  cases hrecycled : pool.recycled with
  | cons first rest =>
    refine .inl ⟨first, rfl, .inl ?_⟩
    have hascending := h.recycled_ascending
    rw [recycledSet]
    rw [hrecycled] at hascending ⊢
    exact isLeast_head hascending
  | nil =>
    have hempty : pool.recycledSet = ∅ := by rw [recycledSet, hrecycled]; rfl
    have hlimit := pool.greatest.toNat_lt
    dsimp only
    split
    · rename_i hgap
      have hid : (UInt32.ofNat (IdSet.firstGap pool.least.toNat pool.used)).toNat
          = IdSet.firstGap pool.least.toNat pool.used := by
        rw [UInt32.toNat_ofNat', Nat.mod_eq_of_lt (by omega)]
      refine .inl ⟨_, rfl, .inr ⟨hempty, h.isLeast_firstGap hid ?_⟩⟩
      rw [UInt32.le_iff_toNat_le, hid]
      exact hgap
    · rename_i hgap
      -- the first gap lies beyond the range: what the range covers is in use
      refine .inr ⟨rfl, fun id hfree => ?_⟩
      obtain ⟨hcovers, hunused⟩ := hfree
      rw [covers, Bool.and_eq_true, decide_eq_true_iff, decide_eq_true_iff, UInt32.le_iff_toNat_le,
        UInt32.le_iff_toNat_le] at hcovers
      have hbelow : id.toNat < IdSet.firstGap pool.least.toNat pool.used := by omega
      obtain ⟨found, hfound, hsame⟩ := IdSet.mem_of_lt_firstGap hcovers.1 hbelow
      exact hunused (mem_usedSet.mpr (UInt32.toNat_inj.mp hsame ▸ hfound))

/-- Only one identifier comes next. -/
theorem comes_unique (hcomes : pool.Comes id) (hother : pool.Comes other) : id = other := by
  rcases hcomes with hid | ⟨hempty, hid⟩ <;> rcases hother with hleast | ⟨hnone, hleast⟩
  · exact UInt32.le_antisymm (hid.2 hleast.1) (hleast.2 hid.1)
  · exact (Finset.notMem_empty id (hnone ▸ hid.1)).elim
  · exact (Finset.notMem_empty other (hempty ▸ hleast.1)).elim
  · exact UInt32.le_antisymm (hid.2 hleast.1) (hleast.2 hid.1)

theorem next?_eq_some_iff (h : pool.Sound) : pool.next? = some id ↔ pool.Comes id := by
  rcases h.next?_cases with ⟨found, hnext, hcomes⟩ | ⟨hnext, hnone⟩
  · rw [hnext, Option.some.injEq]
    exact ⟨fun hsame => hsame ▸ hcomes, fun hid => comes_unique hcomes hid⟩
  · rw [hnext]
    exact ⟨fun hfalse => (Option.some_ne_none _ hfalse.symm).elim, fun hid => (hnone id (h.comes_free hid)).elim⟩

theorem next?_eq_none_iff (h : pool.Sound) : pool.next? = none ↔ ∀ id, pool.covers id = true → id ∈ pool.usedSet := by
  rcases h.next?_cases with ⟨found, hnext, hcomes⟩ | ⟨hnext, hnone⟩
  · obtain ⟨hcovers, hunused⟩ := h.comes_free hcomes
    rw [hnext]
    exact ⟨fun hfalse => (Option.some_ne_none _ hfalse).elim, fun hall => (hunused (hall found hcovers)).elim⟩
  · refine ⟨fun _ id hcovers => ?_, fun _ => hnext⟩
    by_contra hunused
    exact hnone id ⟨hcovers, hunused⟩

/-! ### One operation -/

theorem obeys (h : pool.Sound) (operation : PoolOperation) :
    pool.Obeys operation (pool.perform operation).1 (pool.perform operation).2 := by
  cases operation with
  | add id =>
    rw [perform]
    by_cases hfree : pool.Free id
    · rw [add_of_free hfree]
      exact .inl ⟨hfree, rfl, pool.holds_occupy id⟩
    · rw [add_of_not_free hfree]
      exact .inr ⟨hfree, rfl, rfl⟩
  | remove id =>
    by_cases hused : id ∈ pool.used
    · refine .inl ⟨mem_usedSet.mpr hused, ?_, holds_remove hused⟩
      rw [perform, IdPool.remove, if_pos (inUse_iff.mpr hused)]
    · refine .inr ⟨mt mem_usedSet.mp hused, ?_, remove_of_notMem hused⟩
      rw [perform, IdPool.remove, if_neg (mt inUse_iff.mp hused)]
  | allocate =>
    rw [perform, allocate]
    rcases h.next?_cases with ⟨id, hnext, hcomes⟩ | ⟨hnext, hnone⟩
    · rw [hnext]
      exact .inl ⟨id, hcomes, h.comes_free hcomes, rfl, pool.holds_occupy id⟩
    · rw [hnext]
      exact .inr ⟨hnone, rfl, rfl⟩
  | replace old new =>
    rw [perform, replace]
    split_ifs with hsame hcovers hused
    · exact .inl ⟨hsame, rfl, rfl⟩
    · rw [Bool.not_eq_true'] at hcovers
      exact .inr (.inr (.inl ⟨hsame, hcovers, rfl, rfl⟩))
    · rw [Bool.not_eq_true', Bool.not_eq_false] at hcovers
      exact .inr (.inr (.inr ⟨hsame, hcovers, mem_usedSet.mpr (inUse_iff.mp hused), rfl, rfl⟩))
    · rw [Bool.not_eq_true', Bool.not_eq_false] at hcovers
      have hfree : pool.Free new := ⟨hcovers, mt (fun hmem => inUse_iff.mpr (mem_usedSet.mp hmem)) hused⟩
      refine .inr (.inl ⟨hsame, hfree, rfl, ?_⟩)
      obtain ⟨hoccupied, hleft⟩ := pool.holds_occupy new
      -- the old identifier is given back only if it was in use
      by_cases hold : old ∈ pool.used
      · obtain ⟨hafter, hback⟩ := holds_remove (mem_used_occupy.mpr (.inr hold) : old ∈ (pool.occupy new).used)
        rw [if_pos (mem_usedSet.mpr hold)]
        refine ⟨hafter.trans ?_, hback.trans ?_⟩
        · rw [hoccupied, Finset.erase_insert_of_ne (Ne.symm hsame)]
        · rw [hleft]
      · rw [if_neg (mt mem_usedSet.mp hold), Finset.erase_eq_of_notMem (mt mem_usedSet.mp hold)]
        have hunused : old ∉ (pool.occupy new).used := fun hmem =>
          (mem_used_occupy.mp hmem).elim hsame hold
        rw [remove_of_notMem hunused]
        exact ⟨hoccupied, hleft⟩
  | clear => exact ⟨rfl, rfl, rfl⟩

theorem perform (h : pool.Sound) (operation : PoolOperation) : (pool.perform operation).1.Sound := by
  cases operation with
  | add id =>
    rw [IdPool.perform]
    by_cases hfree : pool.Free id
    · rw [add_of_free hfree]
      exact h.occupy hfree.1
    · rw [add_of_not_free hfree]
      exact h
  | remove id => exact h.remove id
  | allocate =>
    rw [IdPool.perform, allocate]
    rcases h.next?_cases with ⟨id, hnext, hcomes⟩ | ⟨hnext, -⟩
    · rw [hnext]
      exact h.occupy (h.comes_free hcomes).1
    · rw [hnext]
      exact h
  | replace old new =>
    rw [IdPool.perform, replace]
    split_ifs with hsame hcovers
    · exact h
    · exact h
    · exact h
    · rw [Bool.not_eq_true', Bool.not_eq_false] at hcovers
      exact (h.occupy hcovers).remove old
  | clear => exact of_empty rfl rfl

theorem performAll (h : pool.Sound) (operations : List PoolOperation) : (pool.performAll operations).Sound := by
  induction operations generalizing pool with
  | nil => exact h
  | cons operation operations ih => exact ih (h.perform operation)

end Sound

/-! ### From hand to hand -/

/-- What is handed out was not in use and is in use then. -/
theorem Sound.handed?_eq_some (h : pool.Sound) {operation : PoolOperation}
    (hhanded : pool.handed? operation = some id) :
    id ∉ pool.usedSet ∧ id ∈ (pool.perform operation).1.usedSet := by
  have hoccupied : ∀ {id}, pool.Free id → id ∉ pool.usedSet ∧ id ∈ (pool.occupy id).usedSet := by
    intro id hfree
    rw [(pool.holds_occupy id).1]
    exact ⟨hfree.2, Finset.mem_insert_self _ _⟩
  cases operation with
  | add other =>
    rw [handed?] at hhanded
    rw [IdPool.perform]
    by_cases hfree : pool.Free other
    · rw [add_of_free hfree] at hhanded ⊢
      cases hhanded
      exact hoccupied hfree
    · rw [add_of_not_free hfree] at hhanded
      cases hhanded
  | allocate =>
    rw [handed?, allocate] at hhanded
    rw [IdPool.perform, allocate]
    rcases h.next?_cases with ⟨other, hnext, hcomes⟩ | ⟨hnext, -⟩
    · rw [hnext] at hhanded ⊢
      cases hhanded
      exact hoccupied (h.comes_free hcomes)
    · rw [hnext] at hhanded
      cases hhanded
  | replace old new =>
    rw [handed?] at hhanded
    split_ifs at hhanded with hsame
    obtain ⟨after, hafter, rfl⟩ := Option.map_eq_some_iff.mp hhanded
    rcases h.obeys (.replace old new) with ⟨heq, -⟩ | ⟨-, hfree, -, hused, -⟩ | ⟨-, hcovers, -⟩ | ⟨-, hcovers, hused, -⟩
    · exact (hsame heq).elim
    · rw [hused]
      exact ⟨hfree.2, Finset.mem_insert_self _ _⟩
    · rw [replace, if_neg hsame, hcovers] at hafter
      cases hafter
    · rw [replace, if_neg hsame, hcovers, if_pos (inUse_iff.mpr (mem_usedSet.mp hused))] at hafter
      cases hafter
  | remove other => cases hhanded
  | clear => cases hhanded

/-- An identifier goes out of use only where an operation releases it. -/
theorem Sound.releases (h : pool.Sound) {operation : PoolOperation} (hused : id ∈ pool.usedSet)
    (hunused : id ∉ (pool.perform operation).1.usedSet) : operation.Releases id := by
  have hobeys := h.obeys operation
  have hheld : ∀ {used recycled : Finset UInt32}, (pool.perform operation).1.Holds used recycled → id ∉ used :=
    fun hholds => hholds.1 ▸ hunused
  have hchanged : (pool.perform operation).1 ≠ pool := fun hsame => hunused (hsame.symm ▸ hused)
  cases operation with
  | add other =>
    rcases hobeys with ⟨-, -, hholds⟩ | ⟨-, -, hsame⟩
    · exact (hheld hholds (Finset.mem_insert_of_mem hused)).elim
    · exact (hchanged hsame).elim
  | remove other =>
    rcases hobeys with ⟨-, -, hholds⟩ | ⟨-, -, hsame⟩
    · by_contra hreleases
      have hne : id ≠ other := fun heq => hreleases (.inl (congrArg _ heq.symm))
      exact hheld hholds (Finset.mem_erase_of_ne_of_mem hne hused)
    · exact (hchanged hsame).elim
  | allocate =>
    rcases hobeys with ⟨other, -, -, -, hholds⟩ | ⟨-, -, hsame⟩
    · exact (hheld hholds (Finset.mem_insert_of_mem hused)).elim
    · exact (hchanged hsame).elim
  | replace old new =>
    by_contra hreleases
    have hne : id ≠ old := fun heq => hreleases (.inr (.inl ⟨new, congrArg (PoolOperation.replace · new) heq.symm⟩))
    rcases hobeys with ⟨-, -, hsame⟩ | ⟨-, -, -, hholds⟩ | ⟨-, -, -, hsame⟩ | ⟨-, -, -, -, hsame⟩
    · exact hchanged hsame
    · exact hheld hholds (Finset.mem_insert_of_mem (Finset.mem_erase_of_ne_of_mem hne hused))
    · exact hchanged hsame
    · exact hchanged hsame
  | clear => exact .inr (.inr rfl)

/-- Between a moment at which an identifier is in use and one at which it is not, an operation released it. -/
theorem Sound.exists_release (h : pool.Sound) {operations : List PoolOperation} (hused : id ∈ pool.usedSet)
    (hunused : id ∉ (pool.performAll operations).usedSet) :
    ∃ front release back, operations = front ++ release :: back ∧ release.Releases id
      ∧ id ∈ (pool.performAll front).usedSet ∧ id ∉ (pool.performAll (front ++ [release])).usedSet := by
  induction operations generalizing pool with
  | nil => exact (hunused hused).elim
  | cons operation operations ih =>
    by_cases hkept : id ∈ (pool.perform operation).1.usedSet
    · obtain ⟨front, release, back, rfl, hreleases, hbefore, hafter⟩ := ih (h.perform operation) hkept hunused
      exact ⟨operation :: front, release, back, rfl, hreleases, hbefore, hafter⟩
    · exact ⟨[], operation, operations, rfl, h.releases hused hkept, hused, hkept⟩

/-- A run of operations on a new pool.  The two sets stay in the range and apart; what comes next is the least
identifier that was given back, else the least that is not in use, and nothing comes only when all are in use;
operations do to the sets what they should; and between two moments at which an identifier is handed out it is
released. -/
theorem performAll_lawful (greatest : UInt32) (zero : ZeroRule) (operations : List PoolOperation) :
    let pool := (upTo greatest zero).performAll operations
    (∀ id, pool.covers id = true ↔ (zero = .reserved → id ≠ 0) ∧ id ≤ greatest)
      ∧ pool.Sound
      ∧ (∀ id, pool.next? = some id ↔ pool.Comes id)
      ∧ (pool.next? = none ↔ ∀ id, pool.covers id = true → id ∈ pool.usedSet)
      ∧ (∀ operation, pool.Obeys operation (pool.perform operation).1 (pool.perform operation).2)
      ∧ ∀ first middle last id, pool.handed? first = some id →
        (pool.performAll (first :: middle)).handed? last = some id →
        ∃ front release back, middle = front ++ release :: back ∧ release.Releases id
          ∧ id ∈ (pool.performAll (first :: front)).usedSet
          ∧ id ∉ (pool.performAll (first :: (front ++ [release]))).usedSet := by
  intro pool
  have hsound : pool.Sound := (Sound.of_empty rfl rfl : (upTo greatest zero).Sound).performAll operations
  refine ⟨fun id => ?_, hsound, fun id => hsound.next?_eq_some_iff, hsound.next?_eq_none_iff, hsound.obeys, ?_⟩
  · obtain ⟨hleast, hgreatest⟩ := (upTo greatest zero).performAll_range operations
    rw [covers, hleast, hgreatest, Bool.and_eq_true, decide_eq_true_iff, decide_eq_true_iff]
    refine and_congr_left fun _ => ?_
    rw [UInt32.le_iff_toNat_le]
    cases zero with
    | reserved =>
      rw [forall_prop_of_true rfl, Ne, ← UInt32.toNat_inj]
      exact Nat.one_le_iff_ne_zero
    | allocatable => exact iff_of_true (Nat.zero_le _) (by simp)
  · intro first middle last id hfirst hlast
    obtain ⟨-, hused⟩ := hsound.handed?_eq_some hfirst
    obtain ⟨hunused, -⟩ := (hsound.performAll (first :: middle)).handed?_eq_some hlast
    exact (hsound.perform first).exists_release hused hunused

end IdPool

end CaptureProtocol
