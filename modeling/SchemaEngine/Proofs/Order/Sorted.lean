import Mathlib.Data.List.Forall2
import Mathlib.Data.List.Pairwise
import SchemaEngine.Path.FileRef

/-!
# Sorted lists and the orders that sort them

A sorted list without repetition stands for a set up to the equality of its order. Adding a member
keeps the list sorted and adds to the set what compares as equal to the member, and two sorted lists
of one set are equal member by member. The orders of components, paths and files are lawful, and
members that compare as equal are the same path or the same file.

## Main definitions

* `Sorted.Increasing`: a list that strictly increases.

## Main results

* `Sorted.increasing_insert`, `Sorted.increasing_replace`: adding a member.
* `Sorted.contains_insert`: what a list holds then.
* `Sorted.ofList_of_perm`: sorting gives an increasing list back.
* `Sorted.countP_increasing`: an increasing list holds no member twice.
* `Sorted.forall₂_of_contains_iff`: increasing lists of one set are equal member by member.
* `Path.order_eq_iff`, `FileRef.order_eq_iff`: what compares as equal is the same.
-/

set_option autoImplicit false

namespace SchemaEngine

open Std

namespace Sorted

variable {α : Type}

/-! ### The dictionary order -/

theorem lexicographic_eq_compareLex (order : α → α → Ordering) :
    lexicographic order = List.compareLex order := by
  funext xs ys
  induction xs generalizing ys with
  | nil => cases ys <;> rfl
  | cons x xs ih =>
    cases ys with
    | nil => rfl
    | cons y ys => rw [lexicographic, ih, List.compareLex_cons_cons]

instance {order : α → α → Ordering} [TransCmp order] : TransCmp (lexicographic order) :=
  lexicographic_eq_compareLex order ▸ inferInstance

instance {order : α → α → Ordering} [LawfulEqCmp order] : LawfulEqCmp (lexicographic order) :=
  lexicographic_eq_compareLex order ▸ inferInstance

/-! ### Increasing lists -/

variable {order : α → α → Ordering} {x y : α} {xs ys : List α}

/-- Whether a list strictly increases under an order. -/
def Increasing (order : α → α → Ordering) (xs : List α) : Prop :=
  xs.Pairwise fun x y => order x y = .lt

theorem contains_iff : contains order x xs = true ↔ ∃ y ∈ xs, order x y = .eq := by
  simp only [contains, List.any_eq_true, Ordering.isEq_iff_eq_eq]

theorem contains_cons :
    contains order y (x :: xs) = true ↔ order y x = .eq ∨ contains order y xs = true := by
  rw [contains, List.any_cons, Bool.or_eq_true, Ordering.isEq_iff_eq_eq, ← contains]

theorem eq_or_mem_of_mem_insert (h : y ∈ insert order x xs) : y = x ∨ y ∈ xs := by
  induction xs with
  | nil => exact .inl (List.mem_singleton.mp h)
  | cons z zs ih =>
    rw [insert] at h
    split at h
    · exact List.mem_cons.mp h
    · exact .inr h
    · rcases List.mem_cons.mp h with rfl | h
      · exact .inr List.mem_cons_self
      · exact (ih h).imp_right (List.mem_cons_of_mem _)

theorem eq_or_mem_of_mem_replace (h : y ∈ replace order x xs) : y = x ∨ y ∈ xs := by
  induction xs with
  | nil => exact .inl (List.mem_singleton.mp h)
  | cons z zs ih =>
    rw [replace] at h
    split at h
    · exact List.mem_cons.mp h
    · exact (List.mem_cons.mp h).imp_right (List.mem_cons_of_mem _)
    · rcases List.mem_cons.mp h with rfl | h
      · exact .inr List.mem_cons_self
      · exact (ih h).imp_right (List.mem_cons_of_mem _)

theorem perm_replace (h : ∀ y ∈ xs, order x y ≠ .eq) : (replace order x xs).Perm (x :: xs) := by
  induction xs with
  | nil => exact .refl _
  | cons y ys ih =>
    obtain ⟨hy, hys⟩ := List.forall_mem_cons.mp h
    rw [replace]
    split
    case h_1 => exact .refl _
    case h_2 hxy => exact absurd hxy hy
    case h_3 => exact ((ih hys).cons y).trans (.swap x y ys)

/-- Members that are all different are sorted, and none of them gives way to another. -/
theorem perm_ofList (h : xs.Pairwise fun x y => order y x ≠ .eq) : (ofList order xs).Perm xs := by
  suffices hfold : ∀ set, (∀ x ∈ xs, ∀ y ∈ set, order x y ≠ .eq) →
      (xs.foldl (fun set x => replace order x set) set).Perm (xs ++ set) by
    have hall := hfold [] (fun _ _ _ hy => by cases hy)
    rwa [List.append_nil] at hall
  induction xs with
  | nil => exact fun set _ => .refl set
  | cons x xs ih =>
    intro set hset
    obtain ⟨hx, hxs⟩ := List.pairwise_cons.mp h
    obtain ⟨hfirst, hothers⟩ := List.forall_mem_cons.mp hset
    have hadded := perm_replace hfirst
    refine (ih hxs _ fun z hz y hy => ?_).trans
      ((hadded.append_left xs).trans List.perm_middle)
    rcases List.mem_cons.mp (hadded.mem_iff.mp hy) with rfl | hy
    · exact hx z hz
    · exact hothers z hz y hy

variable [TransCmp order]

theorem increasing_insert (h : Increasing order xs) : Increasing order (insert order x xs) := by
  induction xs with
  | nil => exact List.pairwise_singleton _ _
  | cons y ys ih =>
    obtain ⟨hy, hys⟩ := List.pairwise_cons.mp h
    rw [insert]
    split
    case h_1 hxy =>
      refine List.pairwise_cons.mpr ⟨fun z hz => ?_, h⟩
      rcases List.mem_cons.mp hz with rfl | hz
      · exact hxy
      · exact TransCmp.lt_trans hxy (hy z hz)
    case h_2 => exact h
    case h_3 hxy =>
      refine List.pairwise_cons.mpr ⟨fun z hz => ?_, ih hys⟩
      rcases eq_or_mem_of_mem_insert hz with rfl | hz
      · exact OrientedCmp.lt_of_gt hxy
      · exact hy z hz

theorem increasing_replace (h : Increasing order xs) : Increasing order (replace order x xs) := by
  induction xs with
  | nil => exact List.pairwise_singleton _ _
  | cons y ys ih =>
    obtain ⟨hy, hys⟩ := List.pairwise_cons.mp h
    rw [replace]
    split
    case h_1 hxy =>
      refine List.pairwise_cons.mpr ⟨fun z hz => ?_, h⟩
      rcases List.mem_cons.mp hz with rfl | hz
      · exact hxy
      · exact TransCmp.lt_trans hxy (hy z hz)
    case h_2 hxy =>
      exact List.pairwise_cons.mpr ⟨fun z hz => TransCmp.lt_of_eq_of_lt hxy (hy z hz), hys⟩
    case h_3 hxy =>
      refine List.pairwise_cons.mpr ⟨fun z hz => ?_, ih hys⟩
      rcases eq_or_mem_of_mem_replace hz with rfl | hz
      · exact OrientedCmp.lt_of_gt hxy
      · exact hy z hz

theorem increasing_ofList (xs : List α) : Increasing order (ofList order xs) := by
  suffices hfold : ∀ set, Increasing order set →
      Increasing order (xs.foldl (fun set x => replace order x set) set) from hfold [] .nil
  induction xs with
  | nil => exact fun _ hset => hset
  | cons x xs ih => exact fun set hset => ih _ (increasing_replace hset)

/-- Sorting the members of an increasing list gives it back, in whatever order they stand. -/
theorem ofList_of_perm (hperm : xs.Perm ys) (hys : Increasing order ys) : ofList order xs = ys := by
  have hdifferent : ys.Pairwise fun x y => order y x ≠ .eq := hys.imp fun {x y} hlt heq => by
    rw [OrientedCmp.eq_symm heq] at hlt
    cases hlt
  have hsymm : ∀ {x y}, order y x ≠ .eq → order x y ≠ .eq := fun hne heq =>
    hne (OrientedCmp.eq_symm heq)
  have hsorted := (perm_ofList ((hperm.pairwise_iff hsymm).mpr hdifferent)).trans hperm
  refine hsorted.eq_of_pairwise (fun x y _ _ hxy hyx => ?_) (increasing_ofList xs) hys
  exact absurd hyx (OrientedCmp.not_lt_of_lt hxy)

theorem contains_insert :
    contains order y (insert order x xs) = true ↔
      order y x = .eq ∨ contains order y xs = true := by
  induction xs with
  | nil => simp [insert, contains]
  | cons z zs ih =>
    rw [insert]
    split
    case h_1 => exact contains_cons
    case h_2 hxz =>
      -- the member already present stands for the new one
      have hyx : order y x = .eq → order y z = .eq := fun h => TransCmp.eq_trans h hxz
      exact ⟨.inr, fun h => h.elim (contains_cons.mpr ∘ .inl ∘ hyx) id⟩
    case h_3 => rw [contains_cons, contains_cons, ih, or_left_comm]

/-- Whether a set holds a member looks at no writing of it. -/
theorem contains_congr (h : order x y = .eq) : contains order x xs = contains order y xs := by
  have hmember : ∀ z, order x z = order y z := fun _ => TransCmp.congr_left h
  simp only [contains, hmember]

/-- The first member comes before everything that is in the rest. -/
theorem Increasing.lt_of_contains (h : Increasing order (x :: xs))
    (hy : contains order y xs = true) : order x y = .lt := by
  obtain ⟨z, hz, hyz⟩ := contains_iff.mp hy
  exact TransCmp.lt_of_lt_of_eq ((List.pairwise_cons.mp h).1 z hz) (OrientedCmp.eq_symm hyz)

/-- What is in the rest of an increasing list is not its first member. -/
theorem Increasing.contains_tail_iff (h : Increasing order (x :: xs)) :
    contains order y xs = true ↔ contains order y (x :: xs) = true ∧ order y x ≠ .eq := by
  constructor
  · intro hy
    refine ⟨contains_cons.mpr (.inr hy), fun heq => ?_⟩
    have hlt := h.lt_of_contains hy
    rw [OrientedCmp.eq_symm heq] at hlt
    cases hlt
  · rintro ⟨hy, hne⟩
    exact (contains_cons.mp hy).resolve_left hne

/-- An increasing list holds no member twice. -/
theorem countP_increasing (h : Increasing order xs) :
    xs.countP (fun z => (order y z).isEq) = (contains order y xs).toNat := by
  induction xs with
  | nil => rfl
  | cons z zs ih =>
    rw [List.countP_cons, ih (List.pairwise_cons.mp h).2]
    by_cases hyz : order y z = .eq
    case pos =>
      have hrest : contains order y zs = false :=
        Bool.eq_false_iff.mpr fun hy => (h.contains_tail_iff.mp hy).2 hyz
      simp [hyz, hrest, contains_cons.mpr (.inl hyz)]
    case neg =>
      have hrest : contains order y (z :: zs) = contains order y zs :=
        Bool.eq_iff_iff.mpr (contains_cons.trans (or_iff_right hyz))
      simp [hyz, hrest]

/-- The first members of increasing lists of one set are equal. -/
theorem Increasing.head_eq (hxs : Increasing order (x :: xs)) (hys : Increasing order (y :: ys))
    (h : ∀ z, contains order z (x :: xs) = contains order z (y :: ys)) : order x y = .eq := by
  have hx : contains order x (y :: ys) = true :=
    h x ▸ contains_cons.mpr (.inl ReflCmp.compare_self)
  have hy : contains order y (x :: xs) = true :=
    h y ▸ contains_cons.mpr (.inl ReflCmp.compare_self)
  rcases contains_cons.mp hx with hxy | hx
  · exact hxy
  rcases contains_cons.mp hy with hyx | hy
  · exact OrientedCmp.eq_symm hyx
  -- otherwise each of the two would come before the other
  have hxy := hxs.lt_of_contains hy
  exact absurd (hys.lt_of_contains hx) (OrientedCmp.not_lt_of_lt hxy)

/-- Increasing lists of one set are equal member by member. -/
theorem forall₂_of_contains_eq (hxs : Increasing order xs) (hys : Increasing order ys)
    (h : ∀ z, contains order z xs = contains order z ys) :
    List.Forall₂ (order · · = .eq) xs ys := by
  have hself {x : α} {xs : List α} : contains order x (x :: xs) = true :=
    contains_cons.mpr (.inl ReflCmp.compare_self)
  induction xs generalizing ys with
  | nil =>
    cases ys with
    | nil => exact .nil
    | cons y ys => cases (h y).trans hself
  | cons x xs ih =>
    cases ys with
    | nil => cases (h x).symm.trans hself
    | cons y ys =>
      have hxy := hxs.head_eq hys h
      refine .cons hxy (ih (List.pairwise_cons.mp hxs).2 (List.pairwise_cons.mp hys).2 fun z => ?_)
      rw [Bool.eq_iff_iff, hxs.contains_tail_iff, hys.contains_tail_iff, h z,
        TransCmp.congr_right hxy]

end Sorted

/-! ### The orders of paths and files -/

theorem eq_of_lexicographic {α : Type} {order : α → α → Ordering} [LawfulEqCmp order]
    {xs ys : List α} (h : Sorted.lexicographic order xs ys = .eq) : xs = ys :=
  LawfulEqCmp.eq_of_compare h

/-- An order by a part of the members. -/
theorem transCmp_comap {α β : Type} (order : β → β → Ordering) [TransCmp order] (f : α → β) :
    TransCmp fun x y => order (f x) (f y) where
  eq_swap := OrientedCmp.eq_swap
  isLE_trans := TransCmp.isLE_trans

namespace Component

/-- The bytes of a name; nothing for the other components. -/
def nameBytes : Component → List UInt8
  | normal name => name
  | _ => []

theorem order_eq_compareLex :
    order = compareLex (compareOn rank) fun x y =>
      Sorted.lexicographic compare x.nameBytes y.nameBytes := by
  funext x y
  cases x <;> cases y <;> rfl

instance : TransCmp order := by
  have := transCmp_comap (Sorted.lexicographic compare) nameBytes
  rw [order_eq_compareLex]
  infer_instance

instance : LawfulEqCmp order where
  eq_of_compare {x y} h := by
    cases x <;> cases y <;> first
      | rfl
      | cases h
      | exact congrArg normal (eq_of_lexicographic h)

end Component

namespace Path

instance : TransCmp order :=
  transCmp_comap (Sorted.lexicographic Component.order) components

theorem order_eq_iff {p q : Path} : p.order q = .eq ↔ p.same q = true := by
  rw [order, LawfulEqCmp.compare_eq_iff_eq, same, beq_iff_eq]

end Path

namespace FileRef

instance : TransCmp order :=
  have := transCmp_comap Path.order path
  inferInstanceAs (TransCmp (compareLex (fun f g : FileRef => f.path.order g.path)
    (compareOn fun f : FileRef => f.synthetic.toNat)))

theorem order_eq_iff {f g : FileRef} : f.order g = .eq ↔ f.same g = true := by
  have hkind : compare f.synthetic.toNat g.synthetic.toNat = .eq ↔
      (f.synthetic == g.synthetic) = true := by
    cases f.synthetic <;> cases g.synthetic <;> decide
  rw [order, Ordering.then_eq_eq, Path.order_eq_iff, hkind, same, Bool.and_eq_true]

end FileRef

end SchemaEngine
