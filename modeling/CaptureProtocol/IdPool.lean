import CaptureProtocol.LinkError

/-!
# Pools of identifiers

A pool hands out the identifiers of a range.  Identifiers that were given back are handed out again before any
that were never used.

* `IdSet` — a set of identifiers as an ascending list; `pairwise_insert`, `pairwise_remove` keep it so, and
  `firstGap` is the first number from a start that is missing;
* `IdPool` — the range, the identifiers in use and those given back;
* `add`, `remove`, `allocate`, `replace`, `clear` — operations; `next?` is what `allocate` will hand out.
-/

namespace CaptureProtocol

/-- A set of identifiers, ascending. -/
abbrev IdSet := List UInt32

namespace IdSet

/-- Adds an identifier. -/
def insert (id : UInt32) : IdSet → IdSet
  | [] => [id]
  | head :: tail =>
    if id < head then id :: head :: tail
    else if id = head then head :: tail
    else head :: insert id tail

/-- Removes an identifier. -/
def remove (id : UInt32) (ids : IdSet) : IdSet := ids.filter (· != id)

/-- The first number from `start` that is not in the set. -/
def firstGap (start : Nat) : IdSet → Nat
  | [] => start
  | head :: tail =>
    if head.toNat < start then firstGap start tail
    else if head.toNat = start then firstGap (start + 1) tail
    else start

theorem mem_insert {id other : UInt32} {ids : IdSet} : other ∈ insert id ids ↔ other = id ∨ other ∈ ids := by
  induction ids with
  | nil => simp [insert]
  | cons head tail ih =>
    simp only [insert]
    split
    · simp
    · split
      · rename_i h
        subst h
        simp
      · simp only [List.mem_cons, ih]
        constructor
        · rintro (h | h | h) <;> simp [h]
        · rintro (h | h | h) <;> simp [h]

theorem mem_remove {id other : UInt32} {ids : IdSet} : other ∈ remove id ids ↔ other ∈ ids ∧ other ≠ id := by
  simp [remove]

/-- Adding keeps the set ascending. -/
theorem pairwise_insert {id : UInt32} {ids : IdSet} (ascending : ids.Pairwise (· < ·)) :
    (insert id ids).Pairwise (· < ·) := by
  induction ids with
  | nil => simp [insert]
  | cons head tail ih =>
    have rest := List.pairwise_cons.mp ascending
    simp only [insert]
    split
    · rename_i below
      refine List.pairwise_cons.mpr ⟨?_, ascending⟩
      intro other member
      rcases List.mem_cons.mp member with rfl | inTail
      · exact below
      · exact UInt32.lt_trans below (rest.1 other inTail)
    · rename_i notBelow
      split
      · exact ascending
      · rename_i different
        refine List.pairwise_cons.mpr ⟨?_, ih rest.2⟩
        intro other member
        rcases mem_insert.mp member with rfl | inTail
        · exact UInt32.lt_of_le_of_ne (UInt32.not_lt.mp notBelow) (Ne.symm different)
        · exact rest.1 other inTail

/-- Removing keeps the set ascending. -/
theorem pairwise_remove {id : UInt32} {ids : IdSet} (ascending : ids.Pairwise (· < ·)) :
    (remove id ids).Pairwise (· < ·) := ascending.filter _

end IdSet

/-- Whether zero may be handed out. -/
inductive ZeroRule where
  /-- Zero stands for something else. -/
  | reserved
  /-- Zero is an identifier like the others. -/
  | allocatable
deriving DecidableEq, Inhabited, Repr

/-- Hands out the identifiers of a range. -/
structure IdPool where
  least : UInt32
  greatest : UInt32
  /-- The identifiers in use. -/
  used : IdSet := []
  /-- The identifiers that were given back and are not in use. -/
  recycled : IdSet := []
deriving DecidableEq, Inhabited, Repr

namespace IdPool

/-- A pool up to a greatest identifier, from 0 or 1. -/
def upTo (greatest : UInt32) (zero : ZeroRule) : IdPool where
  least := match zero with
    | .reserved => 1
    | .allocatable => 0
  greatest

/-- The pool of stream identifiers, whose zero stands for status frames. -/
def ofStreams : IdPool := upTo 255 .reserved

/-- A pool of interface identifiers. -/
def ofInterfaces (zero : ZeroRule) : IdPool := upTo 4294967295 zero

/-- Whether an identifier lies in the pool's range. -/
def covers (pool : IdPool) (id : UInt32) : Bool := pool.least ≤ id && id ≤ pool.greatest

/-- Whether an identifier is in use. -/
def inUse (pool : IdPool) (id : UInt32) : Bool := pool.used.contains id

/-- Puts an identifier in use. -/
def occupy (pool : IdPool) (id : UInt32) : IdPool :=
  { pool with used := pool.used.insert id, recycled := pool.recycled.remove id }

/-- Puts an identifier in use; refused when it lies outside the range or is in use. -/
def add (pool : IdPool) (id : UInt32) : IdPool × Bool :=
  if pool.covers id && !pool.inUse id then (pool.occupy id, true) else (pool, false)

/-- Gives an identifier back; refused when it is not in use. -/
def remove (pool : IdPool) (id : UInt32) : IdPool × Bool :=
  if pool.inUse id then
    ({ pool with used := pool.used.remove id, recycled := pool.recycled.insert id }, true)
  else (pool, false)

/-- The identifier to hand out next: the least that was given back, else the first gap of those in use. -/
def next? (pool : IdPool) : Option UInt32 :=
  match pool.recycled with
  | id :: _ => some id
  | [] =>
    let gap := IdSet.firstGap pool.least.toNat pool.used
    if gap ≤ pool.greatest.toNat then some (UInt32.ofNat gap) else none

/-- Hands out an identifier. -/
def allocate (pool : IdPool) : Except LinkError (UInt32 × IdPool) :=
  match pool.next? with
  | some id => .ok (id, pool.occupy id)
  | none => .error .noFreeId

/-- Puts a new identifier in the place of an old one. -/
def replace (pool : IdPool) (old new : UInt32) : Except LinkError IdPool :=
  if old = new then .ok pool
  else if !pool.covers new then .error (.idOutside new pool.least pool.greatest)
  else if pool.inUse new then .error (.idTaken new)
  else .ok ((pool.occupy new).remove old).1

/-- Forgets everything in use and everything given back. -/
def clear (pool : IdPool) : IdPool := { pool with used := [], recycled := [] }

end IdPool

end CaptureProtocol
