import SchemaEngine.Proofs.Schema.Publication
import SchemaEngine.Proofs.Scope.Ordering

/-!
# Unions in any order

Constructors and operations make flat scopes only: what a flat scope brings into a union is a sorted
list of members that are neither empty nor unions, and the scope is the union of that list. A union
of flat scopes is therefore determined by which members its parts bring, whatever the order and the
bracketing in which the parts were combined, however often a part occurs and wherever the empty
scope stands among them. Equal constructions have one key among the schemas that are kept.

## Main definitions

* `Scope.Constructed`: the scopes that constructors and operations make.
* `Scope.IsFlat`: the canonical form of unions.
* `Combination`: an order and a bracketing in which scopes are combined.

## Main results

* `Scope.Constructed.isFlat`: constructed scopes are flat.
* `Scope.IsFlat.same_of_members`: a flat scope is determined by its members.
* `Combination.contains_members`: the members of a combination are those of its parts.
* `unions_order_independent`: combinations of the same parts are the same scope, and one key.
-/

set_option autoImplicit false

namespace SchemaEngine

/-! ### Unions of sorted lists -/

namespace Sorted

open Std

variable {α : Type} {order : α → α → Ordering} {x : α} {xs ys : List α}

theorem mem_or_mem_of_mem_union (h : x ∈ union order xs ys) : x ∈ xs ∨ x ∈ ys := by
  induction ys generalizing xs with
  | nil => exact .inl h
  | cons y ys ih =>
    rcases ih h with hinserted | hys
    · rcases eq_or_mem_of_mem_insert hinserted with rfl | hxs
      · exact .inr List.mem_cons_self
      · exact .inl hxs
    · exact .inr (List.mem_cons_of_mem _ hys)

variable [TransCmp order]

theorem increasing_union (ys : List α) (h : Increasing order xs) :
    Increasing order (union order xs ys) := by
  induction ys generalizing xs with
  | nil => exact h
  | cons y ys ih => exact ih (increasing_insert h)

theorem contains_union :
    contains order x (union order xs ys) = true ↔
      contains order x xs = true ∨ contains order x ys = true := by
  induction ys generalizing xs with
  | nil => exact (or_iff_left Bool.false_ne_true).symm
  | cons y ys ih =>
    have hinserted := @ih (insert order y xs)
    rw [contains_insert] at hinserted
    rw [contains_cons, ← or_assoc, or_comm (b := order x y = .eq)]
    exact hinserted

end Sorted

/-! ### Flat scopes -/

namespace Scope

/-- The scopes that constructors and operations make. -/
inductive Constructed : Scope → Prop where
  | empty : Constructed .empty
  | ofFile (path : Path) : Constructed (.ofFile path)
  | ofFiles (paths : List Path) : Constructed (.ofFiles paths)
  | ofRoots (directories : List Path) : Constructed (.ofRoots directories)
  | merge {s t : Scope} (hs : s.Constructed) (ht : t.Constructed) : Constructed (s.merge t)
  | restrict {s : Scope} (hs : s.Constructed) (types : List String) :
    Constructed (s.restrict types)

/-- A scope that is its own only member: it is neither empty nor a union. -/
def IsAtom (s : Scope) : Prop :=
  s.members = [s]

/-- The canonical form of unions. -/
structure IsFlat (s : Scope) : Prop where
  increasing : Sorted.Increasing order s.members
  atoms : ∀ member ∈ s.members, member.IsAtom
  whole : ofMembers s.members = s

/-- Members that are no unions themselves are the members of their union. -/
theorem members_ofMembers {ss : List Scope} (h : ∀ member ∈ ss, member.IsAtom) :
    (ofMembers ss).members = ss :=
  match ss with
  | [] => rfl
  | [_] => h _ List.mem_cons_self
  | _ :: _ :: _ => rfl

theorem isEmpty_iff {s : Scope} : s.isEmpty = true ↔ s = .empty := by
  cases s <;> simp [isEmpty]

theorem IsAtom.isFlat {s : Scope} (h : s.IsAtom) : s.IsFlat where
  increasing := h ▸ List.pairwise_singleton _ _
  atoms member hmember := by
    rw [h] at hmember
    rwa [List.mem_singleton.mp hmember]
  whole := by rw [h]; rfl

theorem isFlat_empty : empty.IsFlat :=
  ⟨.nil, fun _ h => absurd h List.not_mem_nil, rfl⟩

theorem isFlat_ofMembers {ss : List Scope} (hincreasing : Sorted.Increasing order ss)
    (hatoms : ∀ member ∈ ss, member.IsAtom) : (ofMembers ss).IsFlat where
  increasing := (members_ofMembers hatoms).symm ▸ hincreasing
  atoms := (members_ofMembers hatoms).symm ▸ hatoms
  whole := by rw [members_ofMembers hatoms]

theorem isFlat_ofFiles (paths : List Path) : (ofFiles paths).IsFlat := by
  unfold ofFiles
  split
  · exact isFlat_empty
  · exact IsAtom.isFlat rfl

theorem isFlat_ofRoots (directories : List Path) : (ofRoots directories).IsFlat := by
  unfold ofRoots
  split
  · exact isFlat_empty
  · exact IsAtom.isFlat rfl

theorem isFlat_admitting (base : Scope) (extensions : List String) :
    (admitting base extensions).IsFlat := by
  cases extensions with
  | nil => exact isFlat_empty
  | cons e es => exact IsAtom.isFlat rfl

/-- A restriction is empty or no union, whatever is restricted. -/
theorem isFlat_restrict (s : Scope) (types : List String) : (s.restrict types).IsFlat := by
  cases s with
  | empty => exact isFlat_empty
  | fileTypes base existing => exact isFlat_admitting base _
  | _ => exact isFlat_admitting _ _

theorem IsFlat.isAtom_of_mem_union {s t member : Scope} (hs : s.IsFlat) (ht : t.IsFlat)
    (h : member ∈ Sorted.union order (Sorted.union order [] s.members) t.members) :
    member.IsAtom := by
  rcases Sorted.mem_or_mem_of_mem_union h with h | h
  · rcases Sorted.mem_or_mem_of_mem_union h with h | h
    · cases h
    · exact hs.atoms member h
  · exact ht.atoms member h

theorem IsFlat.merge {s t : Scope} (hs : s.IsFlat) (ht : t.IsFlat) : (s.merge t).IsFlat :=
  isFlat_ofMembers (Sorted.increasing_union _ (Sorted.increasing_union _ .nil))
    fun _ => hs.isAtom_of_mem_union ht

/-- A union of flat scopes has the members of both, and no others. -/
theorem IsFlat.contains_members_merge {s t : Scope} (hs : s.IsFlat) (ht : t.IsFlat)
    (x : Scope) :
    Sorted.contains order x (s.merge t).members = true ↔
      Sorted.contains order x s.members = true ∨ Sorted.contains order x t.members = true := by
  have hmembers : (s.merge t).members =
      Sorted.union order (Sorted.union order [] s.members) t.members :=
    members_ofMembers fun _ => hs.isAtom_of_mem_union ht
  rw [hmembers, Sorted.contains_union, Sorted.contains_union]
  exact or_congr_left (or_iff_right Bool.false_ne_true)

theorem Constructed.isFlat {s : Scope} (h : s.Constructed) : s.IsFlat := by
  induction h with
  | empty => exact isFlat_empty
  | ofFile path => exact isFlat_ofFiles [path]
  | ofFiles paths => exact isFlat_ofFiles paths
  | ofRoots directories => exact isFlat_ofRoots directories
  | merge _ _ hs ht => exact hs.merge ht
  | restrict _ types _ => exact isFlat_restrict _ types

/-- A flat scope is determined by its members. -/
theorem IsFlat.same_of_members {s t : Scope} (hs : s.IsFlat) (ht : t.IsFlat)
    (h : ∀ x, Sorted.contains order x s.members = Sorted.contains order x t.members) :
    s.same t = true := by
  have hmembers := Sorted.forall₂_of_contains_eq hs.increasing ht.increasing h
  rw [← hs.whole, ← ht.whole]
  exact ofMembers_congr (hmembers.imp fun _ _ => order_eq_iff.mp)

/-- The same scopes have the same members. -/
theorem contains_members_congr {s t : Scope} (h : s.same t = true) (x : Scope) :
    Sorted.contains order x s.members = Sorted.contains order x t.members :=
  Sorted.any_congr (fun _ _ hmember => by rw [order_congr (same_refl x) hmember]) (members_congr h)

end Scope

/-! ### Combinations -/

/-- An order and a bracketing in which scopes are combined. -/
inductive Combination where
  | part (scope : Scope)
  | join (first second : Combination)

namespace Combination

/-- The scopes that are combined, from left to right. -/
def parts : Combination → List Scope
  | part s => [s]
  | join a b => a.parts ++ b.parts

/-- The scope that they are combined to. -/
def scope : Combination → Scope
  | part s => s
  | join a b => a.scope.merge b.scope

/-- Every part is empty, or it is a part of the other combination too. -/
def Within (a b : Combination) : Prop :=
  ∀ s ∈ a.parts, s.isEmpty = true ∨ ∃ t ∈ b.parts, s.same t = true

instance (a b : Combination) : Decidable (a.Within b) :=
  inferInstanceAs (Decidable (∀ s ∈ a.parts, _ ∨ ∃ t ∈ b.parts, _))

variable {a b : Combination}

theorem isFlat (h : ∀ s ∈ a.parts, s.Constructed) : a.scope.IsFlat := by
  induction a with
  | part s => exact (h s List.mem_cons_self).isFlat
  | join a b iha ihb =>
    obtain ⟨ha, hb⟩ := List.forall_mem_append.mp h
    exact (iha ha).merge (ihb hb)

/-- The members of a combination are those of its parts. -/
theorem contains_members (h : ∀ s ∈ a.parts, s.Constructed) (x : Scope) :
    Sorted.contains Scope.order x a.scope.members = true ↔
      ∃ s ∈ a.parts, Sorted.contains Scope.order x s.members = true := by
  induction a with
  | part s => simp [scope, parts]
  | join a b iha ihb =>
    obtain ⟨ha, hb⟩ := List.forall_mem_append.mp h
    rw [scope, (isFlat ha).contains_members_merge (isFlat hb), iha ha, ihb hb, parts]
    simp only [List.mem_append, or_and_right, exists_or]

/-- A combination whose parts are all in another one brings no further members. -/
theorem Within.contains_members (hab : a.Within b) (ha : ∀ s ∈ a.parts, s.Constructed)
    (hb : ∀ s ∈ b.parts, s.Constructed) {x : Scope}
    (h : Sorted.contains Scope.order x a.scope.members = true) :
    Sorted.contains Scope.order x b.scope.members = true := by
  obtain ⟨s, hs, hx⟩ := (Combination.contains_members ha x).mp h
  rcases hab s hs with hempty | ⟨t, ht, hsame⟩
  · rw [Scope.isEmpty_iff.mp hempty] at hx
    cases hx
  · exact (Combination.contains_members hb x).mpr
      ⟨t, ht, Scope.contains_members_congr hsame x ▸ hx⟩

/-- Combinations of the same parts are the same scope. -/
theorem same_of_within (ha : ∀ s ∈ a.parts, s.Constructed) (hb : ∀ s ∈ b.parts, s.Constructed)
    (hab : a.Within b) (hba : b.Within a) : a.scope.same b.scope = true :=
  (isFlat ha).same_of_members (isFlat hb) fun _ =>
    Bool.eq_iff_iff.mpr ⟨hab.contains_members ha hb, hba.contains_members hb ha⟩

/-- The order in which parts are combined, and how often each of them, does not matter. -/
theorem same_of_mem_iff (ha : ∀ s ∈ a.parts, s.Constructed)
    (h : ∀ s, s ∈ a.parts ↔ s ∈ b.parts) : a.scope.same b.scope = true :=
  same_of_within ha (fun s hs => ha s ((h s).mpr hs))
    (fun s hs => .inr ⟨s, (h s).mp hs, s.same_refl⟩)
    (fun s hs => .inr ⟨s, (h s).mpr hs, s.same_refl⟩)

end Combination

/-! ### The laws of unions -/

namespace Scope.Constructed

open Combination

variable {s t u : Scope}

theorem merge_comm (hs : s.Constructed) (ht : t.Constructed) :
    (s.merge t).same (t.merge s) = true :=
  same_of_mem_iff (a := .join (.part s) (.part t)) (b := .join (.part t) (.part s))
    (by simp [parts, hs, ht]) (by simp [parts, or_comm])

theorem merge_assoc (hs : s.Constructed) (ht : t.Constructed) (hu : u.Constructed) :
    ((s.merge t).merge u).same (s.merge (t.merge u)) = true :=
  same_of_mem_iff (a := .join (.join (.part s) (.part t)) (.part u))
    (b := .join (.part s) (.join (.part t) (.part u)))
    (by simp [parts, hs, ht, hu]) (by simp [parts])

theorem merge_self (hs : s.Constructed) : (s.merge s).same s = true :=
  same_of_mem_iff (a := .join (.part s) (.part s)) (b := .part s)
    (by simp [parts, hs]) (by simp [parts])

theorem merge_empty (hs : s.Constructed) : (s.merge .empty).same s = true := by
  refine same_of_within (a := .join (.part s) (.part .empty)) (b := .part s)
    (by simp [parts, hs, empty]) (by simp [parts, hs]) ?_ ?_
  · rintro part hpart
    rcases List.mem_pair.mp hpart with rfl | rfl
    · exact .inr ⟨part, List.mem_cons_self, part.same_refl⟩
    · exact .inl rfl
  · exact fun part hpart => .inr ⟨part, List.mem_append_left _ hpart, part.same_refl⟩

theorem empty_merge (hs : s.Constructed) : (Scope.empty.merge s).same s = true :=
  same_trans (merge_comm .empty hs) hs.merge_empty

end Scope.Constructed

/-- However constructed scopes are combined, in any order and bracketing, with parts repeated and
the empty scope anywhere among them: combinations of the same parts are the same scope, and a map of
schemas holds the same for them. In particular unions are commutative, associative and idempotent,
and the empty scope is their unit. -/
theorem unions_order_independent :
    (∀ a b : Combination, (∀ s ∈ a.parts, s.Constructed) → (∀ s ∈ b.parts, s.Constructed) →
      a.Within b → b.Within a →
        a.scope.same b.scope = true ∧
          ∀ (cache : SchemaCache) (map : Nat),
            cache.lookup? map a.scope = cache.lookup? map b.scope) ∧
      ∀ s t u : Scope, s.Constructed → t.Constructed → u.Constructed →
        (s.merge t).same (t.merge s) = true ∧
          ((s.merge t).merge u).same (s.merge (t.merge u)) = true ∧
          (s.merge s).same s = true ∧
          (s.merge .empty).same s = true ∧ (Scope.empty.merge s).same s = true := by
  constructor
  · intro a b ha hb hab hba
    have hsame := Combination.same_of_within ha hb hab hba
    exact ⟨hsame, fun _ _ => SchemaCache.lookup?_congr hsame⟩
  · intro s t u hs ht hu
    exact ⟨hs.merge_comm ht, hs.merge_assoc ht hu, hs.merge_self, hs.merge_empty, hs.empty_merge⟩

/-- Without canonical form a union with itself is another scope: the inner union stays in it. -/
example :
    let nested : Scope := .union [.union [.files [⟨[97]⟩], .files [⟨[98]⟩]]]
    (nested.merge nested).same nested = false := by
  decide

section Example

/-- The GraphQL files below `/p`. -/
def projectPart : Scope :=
  (Scope.ofRoots [⟨[47, 112]⟩]).restrict ["GraphQL"]

/-- The file `/l`, which is spelled with a dot at the end. -/
def libraryPart : Scope :=
  .ofFile ⟨[47, 108, 47, 46]⟩

/-- The project, nothing, the file `/l` and the project again, from the left. -/
def leftCombination : Combination :=
  .join (.join (.join (.part projectPart) (.part .empty)) (.part libraryPart)) (.part projectPart)

/-- The file `/l` and a union of the project and nothing. -/
def rightCombination : Combination :=
  .join (.part (.ofFile ⟨[47, 108]⟩)) (.join (.part projectPart) (.part .empty))

/-- Two combinations of the project and one file, which is spelled in two ways, are one union of two
members. -/
theorem unions_order_independent_spellings :
    leftCombination.scope.same rightCombination.scope = true ∧
      leftCombination.scope.members.length = 2 ∧
      (∀ (cache : SchemaCache) (map : Nat),
        cache.lookup? map leftCombination.scope = cache.lookup? map rightCombination.scope) ∧
      (projectPart.merge libraryPart).same (libraryPart.merge projectPart) = true := by
  have hproject : projectPart.Constructed := .restrict (.ofRoots _) _
  have hlibrary : libraryPart.Constructed := .ofFile _
  have hleft : ∀ s ∈ leftCombination.parts, s.Constructed := by
    simp [leftCombination, Combination.parts, hproject, hlibrary, Scope.Constructed.empty]
  have hright : ∀ s ∈ rightCombination.parts, s.Constructed := by
    simp [rightCombination, Combination.parts, hproject, Scope.Constructed.empty,
      Scope.Constructed.ofFile]
  obtain ⟨hsame, hlookup⟩ := unions_order_independent.1 _ _ hleft hright (by decide) (by decide)
  exact ⟨hsame, by decide, hlookup,
    (unions_order_independent.2 _ _ .empty hproject hlibrary .empty).1⟩

end Example

end SchemaEngine
