import SchemaEngine.Proofs.Scope.Unions

/-!
# Which scope comes first

The order of scopes and the order of files say which of two values comes first, and nothing but the
values decides. A scope comes before another one if its kind does, or within a kind if its fields
do, where sets are sequences that are decided at the first difference; a file comes before another
one if its path does by component, or at one path if it is a file and the other one a buffer. Both
orders are total orders whose equality is sameness. A set of members is therefore one sequence, up
to spellings: it is strictly sorted and holds no member twice, in whatever way it was filled.

## Main definitions

* `Sorted.Lawful`: a total order whose equality is sameness.
* `Sorted.FirstDifference`: a sequence comes before another one.
* `Scope.Precedes`, `FileRef.Precedes`: what the two orders decide by.

## Main results

* `Scope.order_eq_lt_iff`, `FileRef.order_eq_lt_iff`: the orders say what comes first.
* `Sorted.Lawful.pairwise_not_same`: a set holds no member twice.
* `Sorted.Lawful.forall₂_of_same_members`: sets that hold the same members are one sequence.
* `Path.lawful_order`, `FileRef.lawful_order`, `Scope.lawful_order`: the orders are lawful.
* `orders_lawful`: all of it.
-/

set_option autoImplicit false

namespace SchemaEngine

open Std

namespace Sorted

variable {α : Type}

/-! ### Lawful orders -/

/-- A total order whose equality is sameness. -/
structure Lawful (order : α → α → Ordering) (same : α → α → Bool) : Prop where
  refl : ∀ x, order x x = .eq
  swap : ∀ x y, order x y = (order y x).swap
  antisymm : ∀ x y, (order x y).isLE = true → (order y x).isLE = true → same x y = true
  trans : ∀ x y z, (order x y).isLE = true → (order y z).isLE = true → (order x z).isLE = true
  lt_trans : ∀ x y z, order x y = .lt → order y z = .lt → order x z = .lt
  total : ∀ x y, (order x y).isLE = true ∨ (order y x).isLE = true
  eq_iff : ∀ x y, order x y = .eq ↔ same x y = true

variable {order : α → α → Ordering} {same : α → α → Bool} {xs ys : List α}

theorem lawful_of_eq_iff [TransCmp order] (h : ∀ x y, order x y = .eq ↔ same x y = true) :
    Lawful order same where
  refl _ := ReflCmp.compare_self
  swap _ _ := OrientedCmp.eq_swap
  antisymm x y hxy hyx := (h x y).mp (OrientedCmp.isLE_antisymm hxy hyx)
  trans _ _ _ := TransCmp.isLE_trans
  lt_trans _ _ _ := TransCmp.lt_trans
  total x y := by
    have hswap : order y x = (order x y).swap := OrientedCmp.eq_swap
    rw [hswap]
    cases order x y <;> decide
  eq_iff := h

namespace Lawful

theorem transCmp (h : Lawful order same) : TransCmp order where
  eq_swap {x y} := h.swap x y
  isLE_trans {x y z} := h.trans x y z

/-- A set holds no member twice, whatever its spelling. -/
theorem pairwise_not_same (h : Lawful order same) (hxs : Increasing order xs) :
    xs.Pairwise fun x y => same x y = false :=
  hxs.imp fun {x y} hlt => Bool.eq_false_iff.mpr fun hsame => by
    rw [(h.eq_iff x y).mpr hsame] at hlt
    cases hlt

theorem contains_iff (h : Lawful order same) {x : α} :
    contains order x xs = true ↔ ∃ y ∈ xs, same x y = true := by
  simp only [Sorted.contains_iff, h.eq_iff]

/-- What holds every member of a set, in some spelling, holds what the set holds. -/
theorem contains_of_same_members (h : Lawful order same)
    (hmembers : ∀ x ∈ xs, ∃ y ∈ ys, same x y = true) {z : α} (hz : contains order z xs = true) :
    contains order z ys = true := by
  have := h.transCmp
  obtain ⟨x, hx, hzx⟩ := Sorted.contains_iff.mp hz
  obtain ⟨y, hy, hxy⟩ := hmembers x hx
  exact Sorted.contains_iff.mpr ⟨y, hy, TransCmp.eq_trans hzx ((h.eq_iff x y).mpr hxy)⟩

theorem contains_eq_of_same_members (h : Lawful order same)
    (hxy : ∀ x ∈ xs, ∃ y ∈ ys, same x y = true) (hyx : ∀ y ∈ ys, ∃ x ∈ xs, same y x = true)
    (z : α) : contains order z xs = contains order z ys :=
  Bool.eq_iff_iff.mpr ⟨h.contains_of_same_members hxy, h.contains_of_same_members hyx⟩

theorem forall₂_same_of_contains_eq (h : Lawful order same) (hxs : Increasing order xs)
    (hys : Increasing order ys) (hcontains : ∀ z, contains order z xs = contains order z ys) :
    List.Forall₂ (same · · = true) xs ys :=
  have := h.transCmp
  (forall₂_of_contains_eq hxs hys hcontains).imp fun x y => (h.eq_iff x y).mp

/-- Sets that hold the same members are one sequence. -/
theorem forall₂_of_same_members (h : Lawful order same) (hxs : Increasing order xs)
    (hys : Increasing order ys) (hxy : ∀ x ∈ xs, ∃ y ∈ ys, same x y = true)
    (hyx : ∀ y ∈ ys, ∃ x ∈ xs, same y x = true) : List.Forall₂ (same · · = true) xs ys :=
  h.forall₂_same_of_contains_eq hxs hys (h.contains_eq_of_same_members hxy hyx)

/-- A set to which members are added holds what it held and what was added, and nothing else. -/
theorem exists_mem_union_iff (h : Lawful order same) {x : α} :
    (∃ y ∈ union order xs ys, same x y = true) ↔ ∃ y ∈ xs ++ ys, same x y = true := by
  have := h.transCmp
  rw [← h.contains_iff, contains_union, h.contains_iff, h.contains_iff]
  simp only [List.mem_append, or_and_right, exists_or]

/-- Members that are added in different orders and spellings make one sequence. -/
theorem forall₂_union (h : Lawful order same) (hxy : ∀ x ∈ xs, ∃ y ∈ ys, same x y = true)
    (hyx : ∀ y ∈ ys, ∃ x ∈ xs, same y x = true) :
    List.Forall₂ (same · · = true) (union order [] xs) (union order [] ys) := by
  have := h.transCmp
  have hadded (z : α) (xs : List α) : contains order z (union order [] xs) = contains order z xs :=
    Bool.eq_iff_iff.mpr (contains_union.trans (or_iff_right Bool.false_ne_true))
  exact h.forall₂_same_of_contains_eq (increasing_union xs .nil) (increasing_union ys .nil)
    fun z => by rw [hadded, hadded, h.contains_eq_of_same_members hxy hyx]

/-- So do members that are sorted. -/
theorem forall₂_ofList (h : Lawful order same) (hxy : ∀ x ∈ xs, ∃ y ∈ ys, same x y = true)
    (hyx : ∀ y ∈ ys, ∃ x ∈ xs, same y x = true) :
    List.Forall₂ (same · · = true) (ofList order xs) (ofList order ys) := by
  have := h.transCmp
  have hsorted (z : α) (xs : List α) : contains order z (ofList order xs) = contains order z xs :=
    any_ofList (fun _ _ hequal => by rw [TransCmp.congr_right hequal]) xs
  exact h.forall₂_same_of_contains_eq (increasing_ofList xs) (increasing_ofList ys)
    fun z => by rw [hsorted, hsorted, h.contains_eq_of_same_members hxy hyx]

end Lawful

end Sorted

/-! ### Sequences -/

namespace Sorted

variable {α : Type} {before same : α → α → Prop}

/-- A sequence comes before another one: it ends first, or its member comes first where the two of
them differ for the first time. -/
inductive FirstDifference (before same : α → α → Prop) : List α → List α → Prop where
  | ends (y : α) (ys : List α) : FirstDifference before same [] (y :: ys)
  | differ {x y : α} (xs ys : List α) (h : before x y) :
    FirstDifference before same (x :: xs) (y :: ys)
  | agree {x y : α} {xs ys : List α} (h : same x y) (rest : FirstDifference before same xs ys) :
    FirstDifference before same (x :: xs) (y :: ys)

theorem firstDifference_cons {x y : α} {xs ys : List α} :
    FirstDifference before same (x :: xs) (y :: ys) ↔
      before x y ∨ same x y ∧ FirstDifference before same xs ys := by
  constructor
  · intro h
    cases h with
    | differ _ _ h => exact .inl h
    | agree h rest => exact .inr ⟨h, rest⟩
  · rintro (h | ⟨h, rest⟩)
    · exact .differ xs ys h
    · exact .agree h rest

/-- The dictionary order decides at the first difference. -/
theorem lexicographic_eq_lt_iff {order : α → α → Ordering}
    (hbefore : ∀ x y, order x y = .lt ↔ before x y) (hsame : ∀ x y, order x y = .eq ↔ same x y) :
    ∀ {xs ys : List α},
      lexicographic order xs ys = .lt ↔ FirstDifference before same xs ys
  | [], [] => iff_of_false nofun nofun
  | [], y :: ys => iff_of_true rfl (.ends y ys)
  | _ :: _, [] => iff_of_false nofun nofun
  | x :: xs, y :: ys => by
    rw [lexicographic, Ordering.then_eq_lt, hbefore, hsame,
      lexicographic_eq_lt_iff hbefore hsame, firstDifference_cons]

end Sorted

/-! ### Paths and files -/

/-- Paths come in the order of their components. -/
theorem Path.order_eq_lt_iff {p q : Path} :
    p.order q = .lt ↔
      Sorted.FirstDifference (Component.order · · = .lt) (· = ·) p.components q.components :=
  Sorted.lexicographic_eq_lt_iff (fun _ _ => Iff.rfl) fun _ _ => LawfulEqCmp.compare_eq_iff_eq

/-- The order of paths is lawful. -/
theorem Path.lawful_order : Sorted.Lawful order same :=
  Sorted.lawful_of_eq_iff fun _ _ => order_eq_iff

namespace FileRef

/-- The order of files is lawful. -/
theorem lawful_order : Sorted.Lawful order same :=
  Sorted.lawful_of_eq_iff fun _ _ => order_eq_iff

/-- A file comes before another one: its path does, or at one path it is a file and the other one a
buffer. -/
def Precedes (f g : FileRef) : Prop :=
  Sorted.FirstDifference (Component.order · · = .lt) (· = ·) f.path.components g.path.components ∨
    f.path.same g.path = true ∧ f.synthetic = false ∧ g.synthetic = true

theorem order_eq_lt_iff {f g : FileRef} : f.order g = .lt ↔ f.Precedes g := by
  have hkind : compare f.synthetic.toNat g.synthetic.toNat = .lt ↔
      f.synthetic = false ∧ g.synthetic = true := by
    cases f.synthetic <;> cases g.synthetic <;> decide
  rw [order, Ordering.then_eq_lt, Path.order_eq_lt_iff, Path.order_eq_iff, hkind, Precedes]

end FileRef

/-! ### Scopes -/

namespace Scope

/-- A scope comes before another one: its kind does, or within a kind its fields do, one after the
other. -/
inductive Precedes : Scope → Scope → Prop where
  | kind {s t : Scope} (h : s.rank < t.rank) : Precedes s t
  | files {ps qs : List Path}
    (h : Sorted.FirstDifference (Path.order · · = .lt) (Path.same · · = true) ps qs) :
    Precedes (.files ps) (.files qs)
  | roots {ps qs : List Path}
    (h : Sorted.FirstDifference (Path.order · · = .lt) (Path.same · · = true) ps qs) :
    Precedes (.roots ps) (.roots qs)
  | union {ss ts : List Scope} (h : Sorted.FirstDifference Precedes (same · · = true) ss ts) :
    Precedes (.union ss) (.union ts)
  | base {s t : Scope} (es fs : List String) (h : Precedes s t) :
    Precedes (.fileTypes s es) (.fileTypes t fs)
  | extensions {s t : Scope} {es fs : List String} (hbase : s.same t = true)
    (h : Sorted.FirstDifference (compare · · = .lt) (· = ·) es fs) :
    Precedes (.fileTypes s es) (.fileTypes t fs)

theorem lexicographic_path_eq_lt_iff {ps qs : List Path} :
    Sorted.lexicographic Path.order ps qs = .lt ↔
      Sorted.FirstDifference (Path.order · · = .lt) (Path.same · · = true) ps qs :=
  Sorted.lexicographic_eq_lt_iff (fun _ _ => Iff.rfl) fun _ _ => Path.order_eq_iff

theorem lexicographic_string_eq_lt_iff {es fs : List String} :
    Sorted.lexicographic compare es fs = .lt ↔
      Sorted.FirstDifference (compare · · = .lt) (· = ·) es fs :=
  Sorted.lexicographic_eq_lt_iff (fun _ _ => Iff.rfl) fun _ _ => LawfulEqCmp.compare_eq_iff_eq

mutual

/-- The order of scopes says which of two scopes comes first. -/
theorem order_eq_lt_iff : ∀ {s t : Scope}, s.order t = .lt ↔ s.Precedes t
  | s, t => by
    by_cases hrank : s.rank = t.rank
    case neg =>
      rw [order_of_rank_ne hrank, Nat.compare_eq_lt]
      refine ⟨.kind, fun h => ?_⟩
      -- all other ways to come first stay within a kind
      cases h with
      | kind h => exact h
      | files _ | roots _ | union _ | base _ _ _ | extensions _ _ => exact absurd rfl hrank
    case pos =>
      have hkind : ¬ s.rank < t.rank := Nat.not_lt_of_le (Nat.le_of_eq hrank.symm)
      match s, t, hrank, hkind with
      | .empty, .empty, _, hkind =>
        refine iff_of_false nofun ?_
        rintro ⟨h⟩
        exact hkind h
      | .files ps, .files qs, _, hkind =>
        rw [order, lexicographic_path_eq_lt_iff]
        refine ⟨.files, ?_⟩
        rintro (h | h)
        · exact absurd h hkind
        · exact h
      | .roots ps, .roots qs, _, hkind =>
        rw [order, lexicographic_path_eq_lt_iff]
        refine ⟨.roots, ?_⟩
        rintro (h | _ | h)
        · exact absurd h hkind
        · exact h
      | .union ss, .union ts, _, hkind =>
        rw [order, orderMembers_eq_lt_iff]
        refine ⟨.union, ?_⟩
        rintro (h | _ | _ | h)
        · exact absurd h hkind
        · exact h
      | .fileTypes s es, .fileTypes t fs, _, hkind =>
        rw [order, Ordering.then_eq_lt, order_eq_lt_iff, order_eq_iff,
          lexicographic_string_eq_lt_iff]
        constructor
        · rintro (h | ⟨hsame, h⟩)
          · exact .base es fs h
          · exact .extensions hsame h
        · intro h
          cases h with
          | kind h => exact absurd h hkind
          | base _ _ h => exact .inl h
          | extensions hsame h => exact .inr ⟨hsame, h⟩

/-- So does the order of the members of two unions, as sequences. -/
theorem orderMembers_eq_lt_iff : ∀ {ss ts : List Scope},
    orderMembers ss ts = .lt ↔ Sorted.FirstDifference Precedes (same · · = true) ss ts
  | [], [] => iff_of_false nofun nofun
  | [], t :: ts => iff_of_true rfl (.ends t ts)
  | _ :: _, [] => iff_of_false nofun nofun
  | s :: ss, t :: ts => by
    rw [orderMembers, Ordering.then_eq_lt, order_eq_lt_iff, order_eq_iff, orderMembers_eq_lt_iff,
      Sorted.firstDifference_cons]

end

/-- The order of scopes is lawful. -/
theorem lawful_order : Sorted.Lawful order same :=
  Sorted.lawful_of_eq_iff fun _ _ => order_eq_iff

end Scope

/-- The orders of scopes and of files are lawful on all values: total orders whose equality is
sameness, which decide by the kind of a scope and then by its fields, and by the path of a file and
then by whether it is a buffer. So the members of a union are strictly sorted and hold nothing
twice, after any scopes were added to them in any order and in every union that constructors and
operations make; and where two such sets hold the same members, they are one sequence. -/
theorem orders_lawful :
    Sorted.Lawful Scope.order Scope.same ∧ (∀ s t : Scope, s.order t = .lt ↔ s.Precedes t) ∧
      Sorted.Lawful FileRef.order FileRef.same ∧
      (∀ f g : FileRef, f.order g = .lt ↔ f.Precedes g) ∧
      (∀ set additions : List Scope, Sorted.Increasing Scope.order set →
        let filled := Sorted.union Scope.order set additions
        Sorted.Increasing Scope.order filled ∧
          (filled.Pairwise fun s t => s.same t = false) ∧
          ∀ s : Scope,
            (∃ t ∈ filled, s.same t = true) ↔ ∃ t ∈ set ++ additions, s.same t = true) ∧
      (∀ members : List Scope, (Scope.union members).Constructed →
        Sorted.Increasing Scope.order members ∧ members.Pairwise fun s t => s.same t = false) ∧
      (∀ ss ts : List Scope, Sorted.Increasing Scope.order ss → Sorted.Increasing Scope.order ts →
        (∀ s ∈ ss, ∃ t ∈ ts, s.same t = true) → (∀ t ∈ ts, ∃ s ∈ ss, t.same s = true) →
          Scope.sameMembers ss ts = true) ∧
      ∀ additions additions' : List Scope,
        (∀ s ∈ additions, ∃ t ∈ additions', s.same t = true) →
        (∀ t ∈ additions', ∃ s ∈ additions, t.same s = true) →
          (Scope.union (Sorted.union Scope.order [] additions)).same
            (Scope.union (Sorted.union Scope.order [] additions')) = true := by
  have hlawful := Scope.lawful_order
  refine ⟨hlawful, fun _ _ => Scope.order_eq_lt_iff,
    FileRef.lawful_order, fun _ _ => FileRef.order_eq_lt_iff,
    fun set additions hset => ?filled, fun members hmembers => ?constructed,
    fun ss ts hss hts hst hts' => ?sequence, fun additions additions' hadded hadded' => ?added⟩
  case filled =>
    have hincreasing := Sorted.increasing_union additions hset
    exact ⟨hincreasing, hlawful.pairwise_not_same hincreasing, fun _ =>
      hlawful.exists_mem_union_iff⟩
  case constructed =>
    have hincreasing : Sorted.Increasing Scope.order members := hmembers.isFlat.increasing
    exact ⟨hincreasing, hlawful.pairwise_not_same hincreasing⟩
  case sequence =>
    exact Scope.sameMembers_iff.mpr (hlawful.forall₂_of_same_members hss hts hst hts')
  case added => exact Scope.sameMembers_iff.mpr (hlawful.forall₂_union hadded hadded')

section Example

/-- A restriction, a file, and a directory in two spellings. -/
def someParts : List Scope :=
  [projectPart, .ofRoots [⟨[47, 112]⟩], libraryPart, .ofRoots [⟨[47, 112, 47]⟩]]

/-- The same parts in another order, each of them once. -/
def orderedParts : List Scope :=
  [.ofFile ⟨[47, 108]⟩, .ofRoots [⟨[47, 112]⟩], projectPart]

/-- Parts that are added in any order are three members, from files to restrictions. -/
theorem orders_lawful_some_parts :
    (Scope.union (Sorted.union Scope.order [] someParts)).same (.union orderedParts) = true ∧
      (Sorted.union Scope.order [] someParts).length = 3 ∧
      ((Sorted.union Scope.order [] someParts).Pairwise fun s t => s.same t = false) ∧
      libraryPart.Precedes projectPart ∧
      FileRef.Precedes ⟨⟨[47, 108]⟩, false⟩ ⟨⟨[47, 108, 47, 46]⟩, true⟩ := by
  obtain ⟨-, hscopes, -, hfiles, hfilled, -, -, hadded⟩ := orders_lawful
  refine ⟨hadded someParts orderedParts (by decide) (by decide), by decide,
    (hfilled [] someParts .nil).2.1, (hscopes _ _).mp (by decide), (hfiles _ _).mp (by decide)⟩

end Example

end SchemaEngine
