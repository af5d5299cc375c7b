import SchemaEngine.Proofs.Scope.Visibility

/-!
# Chains of restrictions

A restriction of a restriction is not kept as it was asked for: the file types that both admit are
kept instead, and a restriction to none of them becomes the empty scope. What a scope contains can
still be read off the way in which it was put together, whatever the scopes were that it was begun
with: unions are disjunctions, restrictions are conjunctions, and a chain of restrictions admits the
file types that all of its lists have in common.

## Main definitions

* `Scope.restrictAll`: one restriction after another.
* `Scope.commonTypes`: the file types that several lists have in common.
* `Recipe`: how a scope is put together, with `Recipe.scope` and `Recipe.Admits`.

## Main results

* `Path.hasType_commonTypes`: a path has a common file type if it has one of each list.
* `Scope.contains_restrictAll`: what a chain of restrictions contains.
* `Recipe.contains_scope`: a scope contains what its recipe admits.
* `operations_contain`: all of it, for scopes of any shape.
-/

set_option autoImplicit false

namespace SchemaEngine

namespace Scope

/-- The scope with one restriction after another. -/
def restrictAll (s : Scope) (chain : List (List String)) : Scope :=
  chain.foldl restrict s

/-- The file types of a list that all further lists admit, in capitals or not. -/
def commonTypes (types : List String) (further : List (List String)) : List String :=
  types.filter fun e => further.all fun others => (others.map lowercase).contains (lowercase e)

end Scope

namespace Path

theorem hasType_iff {types : List String} {p : Path} :
    p.HasType types ↔ ∃ e, Scope.fileType p = some e ∧ e ∈ types.map Scope.lowercase := by
  rw [← Scope.fileType_mem_iff]
  simp only [Scope.mem_normalizeTypes]

/-- A path has one extension, so it has a common file type if it has one of each list. -/
theorem hasType_commonTypes {types : List String} {further : List (List String)} {p : Path} :
    p.HasType (Scope.commonTypes types further) ↔ ∀ list ∈ types :: further, p.HasType list := by
  simp only [hasType_iff, List.forall_mem_cons]
  constructor
  · rintro ⟨e, he, hmem⟩
    obtain ⟨raw, hraw, rfl⟩ := List.mem_map.mp hmem
    obtain ⟨htypes, hfurther⟩ := List.mem_filter.mp hraw
    refine ⟨⟨_, he, List.mem_map_of_mem htypes⟩, fun list hlist => ⟨_, he, ?_⟩⟩
    exact List.contains_iff_mem.mp (List.all_eq_true.mp hfurther list hlist)
  · rintro ⟨⟨e, he, hmem⟩, hfurther⟩
    obtain ⟨raw, hraw, rfl⟩ := List.mem_map.mp hmem
    refine ⟨_, he, List.mem_map_of_mem (List.mem_filter.mpr ⟨hraw, ?_⟩)⟩
    refine List.all_eq_true.mpr fun list hlist => ?_
    obtain ⟨e, he', hmem'⟩ := hfurther list hlist
    obtain rfl := Option.some.inj (he.symm.trans he')
    exact List.contains_iff_mem.mpr hmem'

end Path

/-- A chain of restrictions contains what every one of them admits. -/
theorem Scope.contains_restrictAll (s : Scope) (chain : List (List String)) (p : Path) :
    (s.restrictAll chain).contains p = true ↔
      s.contains p = true ∧ ∀ types ∈ chain, p.HasType types := by
  induction chain generalizing s with
  | nil => exact (and_iff_left fun _ h => absurd h List.not_mem_nil).symm
  | cons types chain ih =>
    rw [restrictAll, List.foldl_cons, ← restrictAll, ih, contains_restrict, List.forall_mem_cons,
      and_comm (b := s.contains p = true), and_assoc]

/-- How a scope is put together from scopes of any shape. -/
inductive Recipe where
  | given (scope : Scope)
  | union (first second : Recipe)
  | restrict (base : Recipe) (types : List String)

namespace Recipe

/-- The scope that is put together. -/
def scope : Recipe → Scope
  | given s => s
  | union a b => a.scope.merge b.scope
  | restrict a types => a.scope.restrict types

/-- What a recipe admits, by the words it is made of. -/
def Admits (p : Path) : Recipe → Prop
  | given s => s.contains p = true
  | union a b => a.Admits p ∨ b.Admits p
  | restrict a types => a.Admits p ∧ p.HasType types

/-- A scope contains what its recipe admits. -/
theorem contains_scope (recipe : Recipe) (p : Path) :
    recipe.scope.contains p = true ↔ recipe.Admits p := by
  induction recipe with
  | given s => exact Iff.rfl
  | union a b iha ihb => rw [scope, Scope.contains_merge, Bool.or_eq_true, iha, ihb, Admits]
  | restrict a types ih => rw [scope, Scope.contains_restrict, ih, Admits, and_comm]

end Recipe

/-- Operations on scopes mean what they say, for scopes of any shape: a union contains what one of
its parts contains, and a restriction what has one of its file types besides. So whatever unions and
restrictions a scope was put together from, a chain of restrictions on it admits what all the lists
of the chain admit, and no more; that is what one restriction to their common file types admits. -/
theorem operations_contain (p : Path) :
    (∀ a b : Scope, (a.merge b).contains p = true ↔ a.contains p = true ∨ b.contains p = true) ∧
      (∀ (a : Scope) (types : List String),
        (a.restrict types).contains p = true ↔ a.contains p = true ∧ p.HasType types) ∧
      (∀ (recipe : Recipe) (chain : List (List String)),
        (recipe.scope.restrictAll chain).contains p = true ↔
          recipe.Admits p ∧ ∀ types ∈ chain, p.HasType types) ∧
      ∀ (a : Scope) (types : List String) (further : List (List String)),
        (a.restrictAll (types :: further)).contains p =
          (a.restrict (Scope.commonTypes types further)).contains p := by
  refine ⟨fun a b => ?union, fun a types => ?restriction, fun recipe chain => ?chain,
    fun a types further => ?common⟩
  case union => rw [Scope.contains_merge, Bool.or_eq_true]
  case restriction => rw [Scope.contains_restrict, and_comm]
  case chain => rw [Scope.contains_restrictAll, Recipe.contains_scope]
  case common =>
    rw [Bool.eq_iff_iff, Scope.contains_restrictAll, Scope.contains_restrict,
      Path.hasType_commonTypes, and_comm]

/-- The types of a restriction that no operation made stay as they are written, so one in capitals
admits no path, alone or restricted further. -/
example :
    let capitals : Scope := .fileTypes (.roots [⟨[47]⟩]) ["GQL"]
    capitals.contains ⟨[47, 97, 46, 103, 113, 108]⟩ = false ∧
      (capitals.restrict ["gql"]).same .empty = true := by
  decide

end SchemaEngine
