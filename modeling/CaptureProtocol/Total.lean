/-!
# Totals

* `total` — the sum of a measure over a list;
* `total_nil`, `total_cons`, `total_append` — the total of a list is that of its parts.
-/

namespace CaptureProtocol

/-- The sum of a measure over a list. -/
def total {α : Type} (measure : α → Nat) : List α → Nat
  | [] => 0
  | head :: tail => measure head + total measure tail

section

variable {α : Type} {measure : α → Nat}

@[simp] theorem total_nil : total measure [] = 0 := rfl

@[simp] theorem total_cons (head : α) (tail : List α) :
    total measure (head :: tail) = measure head + total measure tail := rfl

@[simp] theorem total_append (front rest : List α) :
    total measure (front ++ rest) = total measure front + total measure rest := by
  induction front with
  | nil => simp
  | cons head tail ih => rw [List.cons_append, total_cons, total_cons, ih, Nat.add_assoc]

end

end CaptureProtocol
