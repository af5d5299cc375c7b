import SchemaEngine.Proofs.Scope.Visibility

/-!
# The order of scopes

Scopes are kept in sets that are sorted by a recursive order: by kind first, and then by paths, by
members or by base and file types. The order is lawful, and what compares as equal under it is the
same scope. A sorted list of scopes therefore stands for a set of scopes up to sameness.

## Main results

* `Scope.order_swap`, `Scope.order_lt_trans`: the order is antisymmetric and transitive.
* `Scope.order_eq_iff`: what compares as equal is the same scope.
-/

set_option autoImplicit false

namespace SchemaEngine.Scope

open Std

/-! ### Comparing the other way round -/

theorem lexicographic_swap {α : Type} (order : α → α → Ordering) [OrientedCmp order]
    (xs ys : List α) :
    Sorted.lexicographic order xs ys = (Sorted.lexicographic order ys xs).swap := by
  rw [Sorted.lexicographic_eq_compareLex]
  exact OrientedCmp.eq_swap

mutual

theorem order_swap : ∀ s t : Scope, s.order t = (t.order s).swap
  | s, t => by
    by_cases hrank : s.rank = t.rank
    case neg =>
      rw [order_of_rank_ne hrank, order_of_rank_ne (Ne.symm hrank)]
      exact OrientedCmp.eq_swap
    match s, t, hrank with
    | .empty, .empty, _ => rfl
    | .files ps, .files qs, _ => exact lexicographic_swap Path.order ps qs
    | .roots ps, .roots qs, _ => exact lexicographic_swap Path.order ps qs
    | .union ss, .union ts, _ => exact orderMembers_swap ss ts
    | .fileTypes s es, .fileTypes t fs, _ =>
      rw [order, order, Ordering.swap_then, ← order_swap s t, ← lexicographic_swap compare es fs]

theorem orderMembers_swap : ∀ ss ts : List Scope, orderMembers ss ts = (orderMembers ts ss).swap
  | [], [] => rfl
  | [], _ :: _ => rfl
  | _ :: _, [] => rfl
  | s :: ss, t :: ts => by
    rw [orderMembers, orderMembers, Ordering.swap_then, ← order_swap s t, ← orderMembers_swap ss ts]

end

/-! ### Sameness and the order -/

theorem order_self (s : Scope) : s.order s = .eq := by
  have hswap := order_swap s s
  cases h : s.order s with
  | eq => rfl
  | lt => rw [h] at hswap; cases hswap
  | gt => rw [h] at hswap; cases hswap

/-- What compares as equal is the same scope. -/
theorem order_eq_iff {s t : Scope} : s.order t = .eq ↔ s.same t = true := by
  refine ⟨same_of_order_eq, fun h => ?_⟩
  rw [order_congr h (same_refl t), order_self]

theorem order_congr_left {s t : Scope} (h : s.order t = .eq) (u : Scope) : s.order u = t.order u :=
  order_congr (order_eq_iff.mp h) (same_refl u)

theorem order_congr_right {s t : Scope} (h : s.order t = .eq) (u : Scope) :
    u.order s = u.order t :=
  order_congr (same_refl u) (order_eq_iff.mp h)

/-! ### Transitivity -/

theorem rank_le_of_order_lt {s t : Scope} (h : s.order t = .lt) : s.rank ≤ t.rank := by
  by_cases hrank : s.rank = t.rank
  · exact Nat.le_of_eq hrank
  · rw [order_of_rank_ne hrank] at h
    exact Nat.le_of_lt (Nat.compare_eq_lt.mp h)

theorem order_lt_of_rank_lt {s t : Scope} (h : s.rank < t.rank) : s.order t = .lt := by
  rw [order_of_rank_ne (Nat.ne_of_lt h)]
  exact Nat.compare_eq_lt.mpr h

theorem lexicographic_lt_trans {α : Type} (order : α → α → Ordering) [TransCmp order]
    {xs ys zs : List α} (hxy : Sorted.lexicographic order xs ys = .lt)
    (hyz : Sorted.lexicographic order ys zs = .lt) : Sorted.lexicographic order xs zs = .lt :=
  TransCmp.lt_trans hxy hyz

/-- Where scopes are compared before something else, the whole comparison is transitive if both
parts of it are. -/
theorem then_lt_trans {s t u : Scope} {x y z : Ordering}
    (hscopes : s.order t = .lt → t.order u = .lt → s.order u = .lt)
    (hrest : x = .lt → y = .lt → z = .lt)
    (hst : (s.order t).then x = .lt) (htu : (t.order u).then y = .lt) :
    (s.order u).then z = .lt := by
  rw [Ordering.then_eq_lt] at hst htu ⊢
  rcases hst with hst | ⟨hst, hx⟩
  · rcases htu with htu | ⟨htu, -⟩
    · exact .inl (hscopes hst htu)
    · exact .inl (order_congr_right htu s ▸ hst)
  · rw [order_congr_left hst]
    exact htu.imp_right fun ⟨htu, hy⟩ => ⟨htu, hrest hx hy⟩

mutual

theorem order_lt_trans : ∀ {s t u : Scope}, s.order t = .lt → t.order u = .lt → s.order u = .lt
  | s, t, u, hst, htu => by
    have hle := rank_le_of_order_lt hst
    have hle' := rank_le_of_order_lt htu
    by_cases hlt : s.rank < u.rank
    case pos => exact order_lt_of_rank_lt hlt
    -- otherwise all three are of one kind
    have hrank : s.rank = t.rank := by omega
    have hrank' : t.rank = u.rank := by omega
    match s, t, u, hrank, hrank', hst, htu with
    | .empty, .empty, .empty, _, _, hst, _ => exact hst
    | .files _, .files _, .files _, _, _, hst, htu =>
      exact lexicographic_lt_trans Path.order hst htu
    | .roots _, .roots _, .roots _, _, _, hst, htu =>
      exact lexicographic_lt_trans Path.order hst htu
    | .union _, .union _, .union _, _, _, hst, htu => exact orderMembers_lt_trans hst htu
    | .fileTypes _ _, .fileTypes _ _, .fileTypes _ _, _, _, hst, htu =>
      exact then_lt_trans order_lt_trans (lexicographic_lt_trans compare) hst htu

theorem orderMembers_lt_trans : ∀ {ss ts us : List Scope}, orderMembers ss ts = .lt →
    orderMembers ts us = .lt → orderMembers ss us = .lt
  | [], [], _, h, _ => by cases h
  | [], _ :: _, [], _, h => by cases h
  | [], _ :: _, _ :: _, _, _ => rfl
  | _ :: _, [], _, h, _ => by cases h
  | _ :: _, _ :: _, [], _, h => by cases h
  | _ :: _, _ :: _, _ :: _, hst, htu =>
    then_lt_trans order_lt_trans orderMembers_lt_trans hst htu

end

instance : TransCmp order where
  eq_swap {s t} := order_swap s t
  isLE_trans {s t u} hst htu := by
    rcases Ordering.isLE_iff_eq_lt_or_eq_eq.mp hst with hst | hst
    · rcases Ordering.isLE_iff_eq_lt_or_eq_eq.mp htu with htu | htu
      · rw [order_lt_trans hst htu, Ordering.isLE_lt]
      · rw [← order_congr_right htu s, hst, Ordering.isLE_lt]
    · rw [order_congr_left hst u]
      exact htu

end SchemaEngine.Scope
