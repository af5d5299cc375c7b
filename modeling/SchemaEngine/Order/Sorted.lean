/-!
# Sorted lists without repetition

A finite set of values is kept as a list that strictly increases under a given comparison. Two
values that compare as equal are one member of the set, although they may be written differently;
the operations below say which of the two writings stays.

## Main definitions

* `Sorted.lexicographic`: the dictionary order of lists.
* `Sorted.insert`: adds a member, keeping the one already present.
* `Sorted.replace`: adds a member, keeping the new one.
* `Sorted.ofList`: the set of the members of a list; of equal members the last one stays.
* `Sorted.union`: all members of two sets; of equal members the one of the first set stays.
-/

set_option autoImplicit false

namespace SchemaEngine.Sorted

variable {α : Type}

/-- The dictionary order under an order of the members: a proper initial segment comes first. -/
def lexicographic (order : α → α → Ordering) : List α → List α → Ordering
  | [], [] => .eq
  | [], _ :: _ => .lt
  | _ :: _, [] => .gt
  | x :: xs, y :: ys => (order x y).then (lexicographic order xs ys)

/-- Adds `x` to a sorted list; a member equal to `x` stays as it is. -/
def insert (order : α → α → Ordering) (x : α) : List α → List α
  | [] => [x]
  | y :: ys =>
    match order x y with
    | .lt => x :: y :: ys
    | .eq => y :: ys
    | .gt => y :: insert order x ys

/-- Adds `x` to a sorted list; a member equal to `x` gives way to it. -/
def replace (order : α → α → Ordering) (x : α) : List α → List α
  | [] => [x]
  | y :: ys =>
    match order x y with
    | .lt => x :: y :: ys
    | .eq => x :: ys
    | .gt => y :: replace order x ys

/-- The members of a list, sorted; of equal members the last one stays. -/
def ofList (order : α → α → Ordering) (xs : List α) : List α :=
  xs.foldl (fun set x => replace order x set) []

/-- The members of two sorted lists; of equal members the one of the first list stays. -/
def union (order : α → α → Ordering) (xs ys : List α) : List α :=
  ys.foldl (fun set y => insert order y set) xs

/-- Whether a list holds a member that compares as equal to `x`. -/
def contains (order : α → α → Ordering) (x : α) (xs : List α) : Bool :=
  xs.any fun y => (order x y).isEq

end SchemaEngine.Sorted
