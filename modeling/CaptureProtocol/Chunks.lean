/-!
# Chunks of a list

A list is cut from front to back into chunks of one size, the last of which may be shorter.

* `chunks` — the chunks; a size of 0 counts as 1;
* `chunks_nil`, `chunks_cons` — the first chunk and the chunks of the rest;
* `flatten_chunks` — the chunks make up the list;
* `length_le_of_mem_chunks` — no chunk is longer than the size.
-/

namespace CaptureProtocol

variable {α : Type}

/-- The chunks of a list, after those cut off before, latest first. -/
def chunksAfter (done : List (List α)) (size : Nat) (list : List α) : List (List α) :=
  match list with
  | [] => done.reverse
  | head :: tail => chunksAfter ((head :: tail.take (size - 1)) :: done) size (tail.drop (size - 1))
termination_by list.length
decreasing_by simp only [List.length_drop, List.length_cons]; omega

/-- A list in chunks of `size` elements. -/
def chunks (size : Nat) (list : List α) : List (List α) := chunksAfter [] size list

/-- Chunks that were cut off before stand in front. -/
theorem chunksAfter_eq (done : List (List α)) (size : Nat) (list : List α) :
    chunksAfter done size list = done.reverse ++ chunks size list := by
  match list with
  | [] => simp [chunks, chunksAfter]
  | head :: tail =>
    rw [chunks, chunksAfter, chunksAfter, chunksAfter_eq (_ :: done), chunksAfter_eq [_], List.reverse_cons,
      List.append_assoc, List.reverse_singleton]
termination_by list.length
decreasing_by all_goals simp only [List.length_drop, List.length_cons]; omega

@[simp] theorem chunks_nil (size : Nat) : chunks size ([] : List α) = [] := by
  rw [chunks, chunksAfter, List.reverse_nil]

/-- The first chunk and the chunks of the rest. -/
theorem chunks_cons (size : Nat) (head : α) (tail : List α) :
    chunks size (head :: tail) = (head :: tail.take (size - 1)) :: chunks size (tail.drop (size - 1)) := by
  rw [chunks, chunksAfter, chunksAfter_eq, List.reverse_singleton, List.singleton_append]

/-- The chunks make up the list. -/
@[simp] theorem flatten_chunks (size : Nat) (list : List α) : (chunks size list).flatten = list := by
  match list with
  | [] => rw [chunks_nil, List.flatten_nil]
  | head :: tail =>
    rw [chunks_cons, List.flatten_cons, flatten_chunks size (tail.drop (size - 1)), List.cons_append,
      List.take_append_drop]
termination_by list.length
decreasing_by simp only [List.length_drop, List.length_cons]; omega

/-- No chunk is longer than the size. -/
theorem length_le_of_mem_chunks {size : Nat} (hsize : 0 < size) {list chunk : List α}
    (hmem : chunk ∈ chunks size list) : chunk.length ≤ size := by
  match list with
  | [] => rw [chunks_nil] at hmem; cases hmem
  | head :: tail =>
    rw [chunks_cons, List.mem_cons] at hmem
    rcases hmem with rfl | hrest
    · rw [List.length_cons, List.length_take]
      omega
    · exact length_le_of_mem_chunks hsize hrest
termination_by list.length
decreasing_by simp only [List.length_drop, List.length_cons]; omega

end CaptureProtocol
