import Mathlib.Data.List.Forall2
import SchemaEngine.Scope.Cache

/-!
# Scopes under different spellings

A path may be spelled in several ways, and so may a file and a scope. Sameness is an equivalence,
the order of scopes does not tell spellings apart, and a scope that is made from a base under
another spelling is the same scope.

## Main definitions

* `Scope.admitting`: a base with file types, which is empty where there are none.

## Main results

* `Scope.same_refl`, `Scope.same_symm`, `Scope.same_trans`: sameness is an equivalence.
* `Scope.order_congr`: the order of scopes looks at no spelling.
* `ScopeCache.complete_congr`: the scope that is made of a base looks at no spelling.
-/

set_option autoImplicit false

namespace SchemaEngine

/-! ### Sorted lists -/

namespace Sorted

variable {α : Type} {order : α → α → Ordering} {R : α → α → Prop}

/-- An order that does not tell related members apart. -/
def Respects (order : α → α → Ordering) (R : α → α → Prop) : Prop :=
  ∀ ⦃x x' y y' : α⦄, R x x' → R y y' → order x y = order x' y'

theorem forall₂_trans (h : ∀ {x y z}, R x y → R y z → R x z)
    {xs ys zs : List α} (hxy : List.Forall₂ R xs ys) :
    List.Forall₂ R ys zs → List.Forall₂ R xs zs := by
  induction hxy generalizing zs with
  | nil => exact fun hyz => hyz
  | cons hx _ ih =>
    rintro (_ | ⟨hy, hyz⟩)
    exact .cons (h hx hy) (ih hyz)

theorem lexicographic_congr (h : Respects order R) {xs xs' : List α}
    (hxs : List.Forall₂ R xs xs') :
    ∀ {ys ys' : List α}, List.Forall₂ R ys ys' →
      lexicographic order xs ys = lexicographic order xs' ys' := by
  induction hxs with
  | nil =>
    intro ys ys' hys
    cases hys <;> rfl
  | cons hx _ ih =>
    intro ys ys' hys
    cases hys with
    | nil => rfl
    | cons hy hys => rw [lexicographic, lexicographic, h hx hy, ih hys]

theorem insert_forall₂ (h : Respects order R) {x x' : α} (hx : R x x') {ys ys' : List α}
    (hys : List.Forall₂ R ys ys') : List.Forall₂ R (insert order x ys) (insert order x' ys') := by
  induction hys with
  | nil => exact .cons hx .nil
  | cons hy hys ih =>
    rw [insert, insert, h hx hy]
    split
    · exact .cons hx (.cons hy hys)
    · exact .cons hy hys
    · exact .cons hy ih

theorem union_forall₂ (h : Respects order R) {ys ys' : List α} (hys : List.Forall₂ R ys ys') :
    ∀ {xs xs' : List α}, List.Forall₂ R xs xs' →
      List.Forall₂ R (union order xs ys) (union order xs' ys') := by
  induction hys with
  | nil => exact fun hxs => hxs
  | cons hy _ ih => exact fun hxs => ih (insert_forall₂ h hy hxs)

end Sorted

/-! ### Paths and files -/

namespace Path

theorem same_iff {p q : Path} : p.same q = true ↔ p.components = q.components := by
  rw [same, beq_iff_eq]

theorem same_refl (p : Path) : p.same p = true :=
  same_iff.mpr rfl

theorem same_symm {p q : Path} (h : p.same q = true) : q.same p = true :=
  same_iff.mpr (same_iff.mp h).symm

theorem same_trans {p q r : Path} (h : p.same q = true) (h' : q.same r = true) :
    p.same r = true :=
  same_iff.mpr ((same_iff.mp h).trans (same_iff.mp h'))

theorem same_congr_right {p q : Path} (h : p.same q = true) (r : Path) : r.same p = r.same q := by
  rw [same, same, same_iff.mp h]

theorem order_congr {p p' q q' : Path} (hp : p.same p' = true) (hq : q.same q' = true) :
    p.order q = p'.order q' := by
  rw [order, order, same_iff.mp hp, same_iff.mp hq]

theorem order_respects : Sorted.Respects order (same · · = true) :=
  fun _ _ _ _ => order_congr

end Path

namespace FileRef

theorem same_iff {f g : FileRef} :
    f.same g = true ↔ f.path.same g.path = true ∧ f.synthetic = g.synthetic := by
  rw [same, Bool.and_eq_true, beq_iff_eq]

theorem same_refl (f : FileRef) : f.same f = true :=
  same_iff.mpr ⟨f.path.same_refl, rfl⟩

theorem same_symm {f g : FileRef} (h : f.same g = true) : g.same f = true :=
  same_iff.mpr ⟨Path.same_symm (same_iff.mp h).1, (same_iff.mp h).2.symm⟩

theorem same_trans {f g k : FileRef} (h : f.same g = true) (h' : g.same k = true) :
    f.same k = true :=
  same_iff.mpr ⟨Path.same_trans (same_iff.mp h).1 (same_iff.mp h').1,
    (same_iff.mp h).2.trans (same_iff.mp h').2⟩

theorem same_congr_left {f g : FileRef} (h : f.same g = true) (k : FileRef) :
    f.same k = g.same k :=
  Bool.eq_iff_iff.mpr ⟨same_trans (same_symm h), same_trans h⟩

theorem same_congr_right {f g : FileRef} (h : f.same g = true) (k : FileRef) :
    k.same f = k.same g :=
  Bool.eq_iff_iff.mpr ⟨fun hk => same_trans hk h, fun hk => same_trans hk (same_symm h)⟩

end FileRef

/-! ### Scopes -/

namespace Scope

theorem sameAll_iff {α : Type} {same : α → α → Bool} :
    ∀ {xs ys : List α}, sameAll same xs ys = true ↔ List.Forall₂ (same · · = true) xs ys
  | [], [] => by simp [sameAll]
  | [], _ :: _ => by simp [sameAll]
  | _ :: _, [] => by simp [sameAll]
  | x :: xs, y :: ys => by
    rw [sameAll, Bool.and_eq_true, sameAll_iff, List.forall₂_cons]

theorem sameMembers_iff :
    ∀ {ss ts : List Scope}, sameMembers ss ts = true ↔ List.Forall₂ (same · · = true) ss ts
  | [], [] => by simp [sameMembers]
  | [], _ :: _ => by simp [sameMembers]
  | _ :: _, [] => by simp [sameMembers]
  | s :: ss, t :: ts => by
    rw [sameMembers, Bool.and_eq_true, sameMembers_iff, List.forall₂_cons]

mutual

theorem same_refl : ∀ s : Scope, s.same s = true
  | .empty => rfl
  | .files ps => sameAll_iff.mpr (List.forall₂_same.mpr fun p _ => p.same_refl)
  | .roots ps => sameAll_iff.mpr (List.forall₂_same.mpr fun p _ => p.same_refl)
  | .union ss => sameMembers_refl ss
  | .fileTypes s es => by rw [same, same_refl s, beq_self_eq_true, Bool.and_self]

theorem sameMembers_refl : ∀ ss : List Scope, sameMembers ss ss = true
  | [] => rfl
  | s :: ss => by rw [sameMembers, same_refl s, sameMembers_refl ss, Bool.and_self]

end

/-! Only a scope of the same kind can be the same scope. -/

theorem same_empty {t : Scope} (h : empty.same t = true) : t = .empty := by
  cases t <;> first | rfl | cases h

theorem same_files {ps : List Path} {t : Scope} (h : (files ps).same t = true) :
    ∃ qs, t = .files qs ∧ List.Forall₂ (Path.same · · = true) ps qs := by
  cases t <;> first | cases h | exact ⟨_, rfl, sameAll_iff.mp h⟩

theorem same_roots {ps : List Path} {t : Scope} (h : (roots ps).same t = true) :
    ∃ qs, t = .roots qs ∧ List.Forall₂ (Path.same · · = true) ps qs := by
  cases t <;> first | cases h | exact ⟨_, rfl, sameAll_iff.mp h⟩

theorem same_union {ss : List Scope} {t : Scope} (h : (union ss).same t = true) :
    ∃ ts, t = .union ts ∧ sameMembers ss ts = true := by
  cases t <;> first | cases h | exact ⟨_, rfl, h⟩

theorem same_fileTypes {s : Scope} {es : List String} {t : Scope}
    (h : (fileTypes s es).same t = true) : ∃ u, t = .fileTypes u es ∧ s.same u = true := by
  cases t with
  | fileTypes u fs =>
    rw [same, Bool.and_eq_true, beq_iff_eq] at h
    exact ⟨u, by rw [h.2], h.1⟩
  | _ => cases h

mutual

theorem same_symm : ∀ {s t : Scope}, s.same t = true → t.same s = true
  | .empty, t, h => by
    obtain rfl := same_empty h
    rfl
  | .files ps, t, h => by
    obtain ⟨qs, rfl, hps⟩ := same_files h
    exact sameAll_iff.mpr (hps.flip.imp fun _ _ => Path.same_symm)
  | .roots ps, t, h => by
    obtain ⟨qs, rfl, hps⟩ := same_roots h
    exact sameAll_iff.mpr (hps.flip.imp fun _ _ => Path.same_symm)
  | .union ss, t, h => by
    obtain ⟨ts, rfl, hss⟩ := same_union h
    exact sameMembers_symm hss
  | .fileTypes s es, t, h => by
    obtain ⟨u, rfl, hs⟩ := same_fileTypes h
    rw [same, same_symm hs, beq_self_eq_true, Bool.and_self]

theorem sameMembers_symm : ∀ {ss ts : List Scope},
    sameMembers ss ts = true → sameMembers ts ss = true
  | [], [], _ => rfl
  | [], _ :: _, h => by cases h
  | _ :: _, [], h => by cases h
  | s :: ss, t :: ts, h => by
    rw [sameMembers, Bool.and_eq_true] at h ⊢
    exact ⟨same_symm h.1, sameMembers_symm h.2⟩

end

mutual

theorem same_trans : ∀ {s t u : Scope}, s.same t = true → t.same u = true → s.same u = true
  | .empty, t, u, h, h' => by
    obtain rfl := same_empty h
    exact h'
  | .files ps, t, u, h, h' => by
    obtain ⟨qs, rfl, hps⟩ := same_files h
    obtain ⟨rs, rfl, hqs⟩ := same_files h'
    exact sameAll_iff.mpr
      (Sorted.forall₂_trans (R := (Path.same · · = true)) Path.same_trans hps hqs)
  | .roots ps, t, u, h, h' => by
    obtain ⟨qs, rfl, hps⟩ := same_roots h
    obtain ⟨rs, rfl, hqs⟩ := same_roots h'
    exact sameAll_iff.mpr
      (Sorted.forall₂_trans (R := (Path.same · · = true)) Path.same_trans hps hqs)
  | .union ss, t, u, h, h' => by
    obtain ⟨ts, rfl, hss⟩ := same_union h
    obtain ⟨us, rfl, hts⟩ := same_union h'
    exact sameMembers_trans hss hts
  | .fileTypes s es, t, u, h, h' => by
    obtain ⟨t, rfl, hs⟩ := same_fileTypes h
    obtain ⟨u, rfl, ht⟩ := same_fileTypes h'
    rw [same, same_trans hs ht, beq_self_eq_true, Bool.and_self]

theorem sameMembers_trans : ∀ {ss ts us : List Scope},
    sameMembers ss ts = true → sameMembers ts us = true → sameMembers ss us = true
  | [], [], _, _, h' => h'
  | [], _ :: _, _, h, _ => by cases h
  | _ :: _, [], _, h, _ => by cases h
  | _ :: _, _ :: _, [], _, h' => by cases h'
  | s :: ss, t :: ts, u :: us, h, h' => by
    rw [sameMembers, Bool.and_eq_true] at h h' ⊢
    exact ⟨same_trans h.1 h'.1, sameMembers_trans h.2 h'.2⟩

end

theorem rank_congr {s t : Scope} (h : s.same t = true) : s.rank = t.rank := by
  cases s <;> cases t <;> first | rfl | cases h

theorem order_of_rank_ne {s t : Scope} (h : s.rank ≠ t.rank) :
    s.order t = compare s.rank t.rank := by
  cases s <;> cases t <;> first | exact absurd rfl h | rfl

/-- Paths in lists are compared without regard to their spelling. -/
theorem lexicographic_path_congr {ps ps' qs qs' : List Path}
    (hps : List.Forall₂ (Path.same · · = true) ps ps')
    (hqs : List.Forall₂ (Path.same · · = true) qs qs') :
    Sorted.lexicographic Path.order ps qs = Sorted.lexicographic Path.order ps' qs' :=
  Sorted.lexicographic_congr Path.order_respects hps hqs

mutual

/-- The order of scopes looks at no spelling. -/
theorem order_congr : ∀ {s s' t t' : Scope}, s.same s' = true → t.same t' = true →
    s.order t = s'.order t'
  | s, s', t, t', hs, ht => by
    by_cases hrank : s.rank = t.rank
    case neg =>
      have hrank' : s'.rank ≠ t'.rank := rank_congr hs ▸ rank_congr ht ▸ hrank
      rw [order_of_rank_ne hrank, order_of_rank_ne hrank', rank_congr hs, rank_congr ht]
    match s, t, hs, ht with
    | .empty, .empty, hs, ht =>
      obtain rfl := same_empty hs
      obtain rfl := same_empty ht
      rfl
    | .files ps, .files qs, hs, ht =>
      obtain ⟨ps', rfl, hps⟩ := same_files hs
      obtain ⟨qs', rfl, hqs⟩ := same_files ht
      exact lexicographic_path_congr hps hqs
    | .roots ps, .roots qs, hs, ht =>
      obtain ⟨ps', rfl, hps⟩ := same_roots hs
      obtain ⟨qs', rfl, hqs⟩ := same_roots ht
      exact lexicographic_path_congr hps hqs
    | .union ss, .union ts, hs, ht =>
      obtain ⟨ss', rfl, hss⟩ := same_union hs
      obtain ⟨ts', rfl, hts⟩ := same_union ht
      exact orderMembers_congr hss hts
    | .fileTypes s es, .fileTypes t fs, hs, ht =>
      obtain ⟨s', rfl, hbase⟩ := same_fileTypes hs
      obtain ⟨t', rfl, hbase'⟩ := same_fileTypes ht
      simp only [order, order_congr hbase hbase']

theorem orderMembers_congr : ∀ {ss ss' ts ts' : List Scope},
    sameMembers ss ss' = true → sameMembers ts ts' = true →
      orderMembers ss ts = orderMembers ss' ts'
  | [], [], [], [], _, _ => rfl
  | [], [], _ :: _, _ :: _, _, _ => rfl
  | _ :: _, _ :: _, [], [], _, _ => rfl
  | s :: ss, s' :: ss', t :: ts, t' :: ts', hs, ht => by
    rw [sameMembers, Bool.and_eq_true] at hs ht
    rw [orderMembers, orderMembers, order_congr hs.1 ht.1, orderMembers_congr hs.2 ht.2]

end

/-! ### Scopes that are made from scopes -/

theorem members_congr {s t : Scope} (h : s.same t = true) :
    List.Forall₂ (same · · = true) s.members t.members := by
  cases s with
  | empty =>
    obtain rfl := same_empty h
    exact .nil
  | files ps =>
    obtain ⟨qs, rfl, -⟩ := same_files h
    exact .cons h .nil
  | roots ps =>
    obtain ⟨qs, rfl, -⟩ := same_roots h
    exact .cons h .nil
  | union ss =>
    obtain ⟨ts, rfl, hss⟩ := same_union h
    exact sameMembers_iff.mp hss
  | fileTypes s es =>
    obtain ⟨u, rfl, -⟩ := same_fileTypes h
    exact .cons h .nil

theorem ofMembers_congr {ss ts : List Scope} (h : List.Forall₂ (same · · = true) ss ts) :
    (ofMembers ss).same (ofMembers ts) = true := by
  cases h with
  | nil => rfl
  | cons hs hss =>
    cases hss with
    | nil => exact hs
    | cons ht hss => exact sameMembers_iff.mpr (.cons hs (.cons ht hss))

theorem merge_congr {s s' t t' : Scope} (hs : s.same s' = true) (ht : t.same t' = true) :
    (s.merge t).same (s'.merge t') = true := by
  have hrespects : Sorted.Respects order (same · · = true) := fun _ _ _ _ => order_congr
  exact ofMembers_congr <| Sorted.union_forall₂ hrespects (members_congr ht) <|
    Sorted.union_forall₂ hrespects (members_congr hs) .nil

/-- A base with file types; it is empty where there are none. -/
def admitting (base : Scope) : List String → Scope
  | [] => .empty
  | e :: es => .fileTypes base (e :: es)

theorem admitting_congr {s t : Scope} (h : s.same t = true) (es : List String) :
    (admitting s es).same (admitting t es) = true := by
  cases es with
  | nil => rfl
  | cons e es => rw [admitting, admitting, same, h, beq_self_eq_true, Bool.and_self]

theorem restrict_congr {s t : Scope} (h : s.same t = true) (types : List String) :
    (s.restrict types).same (t.restrict types) = true := by
  cases s with
  | empty =>
    obtain rfl := same_empty h
    rfl
  | files ps =>
    obtain ⟨qs, rfl, -⟩ := same_files h
    exact admitting_congr h _
  | roots ps =>
    obtain ⟨qs, rfl, -⟩ := same_roots h
    exact admitting_congr h _
  | union ss =>
    obtain ⟨ts, rfl, -⟩ := same_union h
    exact admitting_congr h _
  | fileTypes s es =>
    obtain ⟨u, rfl, hbase⟩ := same_fileTypes h
    exact admitting_congr hbase _

theorem ofFile_congr {p q : Path} (h : p.same q = true) : (ofFile p).same (ofFile q) = true :=
  sameAll_iff.mpr (.cons h .nil)

end Scope

/-- The scope that is made of a base looks at no spelling. -/
theorem ScopeCache.complete_congr (cache : ScopeCache) {s t : Scope} (h : s.same t = true)
    (libraries : List (List Path)) :
    (cache.complete s libraries).same (cache.complete t libraries) = true :=
  Scope.restrict_congr
    (Scope.merge_congr (Scope.merge_congr h (Scope.same_refl _)) (Scope.same_refl _)) _

end SchemaEngine
