/-!
# Ranking a list

## Main definitions

* `Ranking.indices`: the places of the members of a list, sorted by the members.
* `Ranking.coincidences`: the pairs of places whose members are equal.
-/

set_option autoImplicit false

namespace SchemaEngine.Ranking

variable {α : Type}

/-- The places of the members, the smallest member first; equal members stay in their order. -/
def indices (order : α → α → Ordering) (xs : List α) : List Nat :=
  (xs.zipIdx.mergeSort fun x y => (order x.1 y.1).isLE).map (·.2)

/-- The pairs of places, the earlier one first, whose members are equal. -/
def coincidences (same : α → α → Bool) (xs : List α) : List (Nat × Nat) :=
  xs.zipIdx.flatMap fun x =>
    (xs.zipIdx.filter fun y => decide (x.2 < y.2) && same x.1 y.1).map fun y => (x.2, y.2)

end SchemaEngine.Ranking
