import SchemaEngine.Proofs.Scope.Canonical
import SchemaEngine.Proofs.Scope.Restrictions

/-!
# Restrictions as intersections

What is left of a chain of restrictions is decided by the file types that all of its lists have in
common, in capitals or not: neither the order of the lists nor repetitions, nor the spelling of a
list, nor in how many steps they are applied makes a difference. This holds of the scope as a value
and not only of what it contains, whatever its shape, so that a configuration and the engine may
restrict in either order and meet at one key of the schemas that are kept.

## Main definitions

* `Scope.intersect`: the file types that two lists have in common, in lower case.
* `Scope.applied`: the lists that a chain of restrictions applies, the stored one among them.

## Main results

* `Scope.restrict_restrict`: two restrictions are one by the common file types.
* `Scope.restrictAll_eq_restrict`: so is a chain of them.
* `Scope.restrictAll_eq_empty_iff`: when nothing is left.
* `ScopeCache.complete_restrict`: a configured restriction is restricted once more.
* `restrictions_intersect`: all of it.
-/

set_option autoImplicit false

namespace SchemaEngine

open Std

/-- Increasing lists with the same members are equal. -/
theorem Sorted.eq_of_mem_iff {α : Type} {order : α → α → Ordering} [TransCmp order]
    [LawfulEqCmp order] {xs ys : List α} (hxs : Increasing order xs) (hys : Increasing order ys)
    (h : ∀ x, x ∈ xs ↔ x ∈ ys) : xs = ys := by
  have hcontains : ∀ z, contains order z xs = contains order z ys := fun z => by
    rw [Bool.eq_iff_iff]
    simp only [contains_iff, LawfulEqCmp.compare_eq_iff_eq, exists_eq_right', h]
  have hmembers := forall₂_of_contains_eq hxs hys hcontains
  rw [← List.forall₂_eq_eq_eq]
  exact hmembers.imp fun _ _ => LawfulEqCmp.eq_of_compare

namespace Scope

variable {s t : Scope} {types others meet : List String}

/-! ### Lists of file types -/

/-- The file types that two lists have in common, in lower case. -/
def intersect (types others : List String) : List String :=
  (types.map lowercase).filter (others.map lowercase).contains

theorem lowercase_lowercase (text : String) : lowercase (lowercase text) = lowercase text := by
  have hletter : ∀ letter ∈ (lowercase text).toList, letter.toLower = letter :=
    fun letter hletter => toLower_of_not_isUpper (isLowercase_lowercase text letter hletter)
  rw [lowercase, List.map_congr_left hletter, List.map_id', String.ofList_toList]

/-- To be in lower case once more changes nothing. -/
theorem mem_map_intersect {e : String} :
    e ∈ (intersect types others).map lowercase ↔
      e ∈ types.map lowercase ∧ e ∈ others.map lowercase := by
  rw [intersect, List.filter_map, List.map_map]
  simp only [List.mem_map, List.mem_filter, Function.comp_apply, lowercase_lowercase,
    List.contains_iff_mem]
  constructor
  · rintro ⟨raw, ⟨hraw, hother⟩, rfl⟩
    exact ⟨⟨raw, hraw, rfl⟩, hother⟩
  · rintro ⟨⟨raw, hraw, rfl⟩, hother⟩
    exact ⟨raw, ⟨hraw, hother⟩, rfl⟩

theorem mem_map_commonTypes {further : List (List String)} {e : String} :
    e ∈ (commonTypes types further).map lowercase ↔
      ∀ list ∈ types :: further, e ∈ list.map lowercase := by
  rw [List.forall_mem_cons, commonTypes]
  simp only [List.mem_map, List.mem_filter, List.all_eq_true, List.contains_iff_mem]
  constructor
  · rintro ⟨raw, ⟨hraw, hfurther⟩, rfl⟩
    exact ⟨⟨raw, hraw, rfl⟩, hfurther⟩
  · rintro ⟨⟨raw, hraw, rfl⟩, hfurther⟩
    exact ⟨raw, ⟨hraw, hfurther⟩, rfl⟩

/-- Only the set of the file types counts, in lower case. -/
theorem normalizeTypes_congr (h : ∀ e, e ∈ types.map lowercase ↔ e ∈ others.map lowercase) :
    normalizeTypes types = normalizeTypes others :=
  Sorted.eq_of_mem_iff (Sorted.increasing_ofList _) (Sorted.increasing_ofList _) fun e => by
    rw [mem_normalizeTypes, mem_normalizeTypes, h]

/-- Normalized file types that are also on another list are those in common, normalized. -/
theorem filter_normalizeTypes
    (h : ∀ e, e ∈ meet.map lowercase ↔ e ∈ types.map lowercase ∧ e ∈ others.map lowercase) :
    (normalizeTypes types).filter (normalizeTypes others).contains = normalizeTypes meet := by
  have hincreasing : Sorted.Increasing compare (normalizeTypes types) := Sorted.increasing_ofList _
  refine Sorted.eq_of_mem_iff (hincreasing.filter _) (Sorted.increasing_ofList _) fun e => ?_
  rw [List.mem_filter, List.contains_iff_mem, mem_normalizeTypes, mem_normalizeTypes,
    mem_normalizeTypes, h]

/-- The file types of any list that are on two lists are those in common. -/
theorem filter_filter_normalizeTypes (existing : List String)
    (h : ∀ e, e ∈ meet.map lowercase ↔ e ∈ types.map lowercase ∧ e ∈ others.map lowercase) :
    (existing.filter (normalizeTypes types).contains).filter (normalizeTypes others).contains =
      existing.filter (normalizeTypes meet).contains := by
  rw [List.filter_filter]
  refine List.filter_congr fun e _ => ?_
  rw [Bool.eq_iff_iff, Bool.and_eq_true, List.contains_iff_mem, List.contains_iff_mem,
    List.contains_iff_mem, mem_normalizeTypes, mem_normalizeTypes, mem_normalizeTypes, h, and_comm]

/-! ### One restriction and two -/

theorem restrict_fileTypes (base : Scope) (existing types : List String) :
    (fileTypes base existing).restrict types =
      admitting base (existing.filter (normalizeTypes types).contains) :=
  rfl

theorem restrict_admitting (base : Scope) (existing types : List String) :
    (admitting base existing).restrict types =
      admitting base (existing.filter (normalizeTypes types).contains) := by
  cases existing with
  | nil => rfl
  | cons e es => exact restrict_fileTypes base (e :: es) types

/-- Restrictions to the same file types are equal. -/
theorem restrict_congr_types (s : Scope)
    (h : ∀ e, e ∈ types.map lowercase ↔ e ∈ others.map lowercase) :
    s.restrict types = s.restrict others := by
  simp only [restrict, normalizeTypes_congr h]

/-- Two restrictions are one restriction to the file types in common. -/
theorem restrict_restrict (s : Scope)
    (h : ∀ e, e ∈ meet.map lowercase ↔ e ∈ types.map lowercase ∧ e ∈ others.map lowercase) :
    (s.restrict types).restrict others = s.restrict meet := by
  cases s with
  | empty => rfl
  | fileTypes base existing =>
    rw [restrict_fileTypes, restrict_admitting, filter_filter_normalizeTypes existing h,
      restrict_fileTypes]
  | files _ | roots _ | union _ =>
    refine (restrict_admitting _ (normalizeTypes types) others).trans ?_
    rw [filter_normalizeTypes h]
    rfl

theorem restrict_comm (s : Scope) (types others : List String) :
    (s.restrict types).restrict others = (s.restrict others).restrict types := by
  rw [restrict_restrict s fun _ => mem_map_intersect,
    restrict_restrict s fun _ => mem_map_intersect.trans and_comm]

/-! ### Chains -/

/-- The list of file types that a restriction stores; the other scopes store none. -/
def storedTypes : Scope → List (List String)
  | fileTypes _ existing => [existing]
  | _ => []

/-- The lists that a chain of restrictions applies to a scope: the stored one, and those of the
chain in lower case. -/
def applied (s : Scope) (chain : List (List String)) : List (List String) :=
  s.storedTypes ++ chain.map fun types => types.map lowercase

/-- A chain of restrictions is one restriction to what all of its lists have in common. -/
theorem restrictAll_eq_restrict {further : List (List String)} (s : Scope)
    (h : ∀ e, e ∈ meet.map lowercase ↔ ∀ list ∈ types :: further, e ∈ list.map lowercase) :
    s.restrictAll (types :: further) = s.restrict meet := by
  induction further generalizing types with
  | nil =>
    refine restrict_congr_types s fun e => ?_
    rw [h, List.forall_mem_singleton]
  | cons others further ih =>
    -- the first two restrictions of the chain are one
    have hstep : s.restrictAll (types :: others :: further) =
        s.restrictAll (intersect types others :: further) :=
      congrArg (restrictAll · further) (restrict_restrict s fun _ => mem_map_intersect)
    rw [hstep]
    refine ih fun e => ?_
    rw [h, List.forall_mem_cons, List.forall_mem_cons, List.forall_mem_cons, mem_map_intersect,
      and_assoc]

/-- Chains of restrictions whose lists have the same file types in common leave the same. -/
theorem restrictAll_congr {further further' : List (List String)} {types' : List String}
    (s : Scope) (h : ∀ e, (∀ list ∈ types :: further, e ∈ list.map lowercase) ↔
      ∀ list ∈ types' :: further', e ∈ list.map lowercase) :
    s.restrictAll (types :: further) = s.restrictAll (types' :: further') := by
  rw [restrictAll_eq_restrict s fun _ => mem_map_commonTypes,
    restrictAll_eq_restrict s fun e => mem_map_commonTypes.trans (h e)]

theorem admitting_eq_empty_iff {base : Scope} {extensions : List String} :
    admitting base extensions = .empty ↔ ¬ ∃ e, e ∈ extensions := by
  cases extensions with
  | nil => simp [admitting]
  | cons e es => simp [admitting]

/-- A restriction leaves nothing of the empty scope, and nothing where the lists that are applied
have no file type in common. -/
theorem restrict_eq_empty_iff :
    s.restrict types = .empty ↔ s = .empty ∨ ¬ ∃ e, ∀ list ∈ s.applied [types], e ∈ list := by
  cases s with
  | empty => exact iff_of_true rfl (.inl rfl)
  | fileTypes base existing =>
    rw [restrict_fileTypes, admitting_eq_empty_iff]
    simp [applied, storedTypes, mem_normalizeTypes]
  | files _ | roots _ | union _ =>
    refine admitting_eq_empty_iff.trans ?_
    simp only [applied, storedTypes, mem_normalizeTypes, List.map_cons, List.map_nil,
      List.nil_append, List.forall_mem_singleton, reduceCtorEq, false_or]

/-- The same holds of a chain of restrictions. -/
theorem restrictAll_eq_empty_iff {further : List (List String)} :
    s.restrictAll (types :: further) = .empty ↔
      s = .empty ∨ ¬ ∃ e, ∀ list ∈ s.applied (types :: further), e ∈ list := by
  have hlists : ∀ e, (∀ list ∈ s.applied [commonTypes types further], e ∈ list) ↔
      ∀ list ∈ s.applied (types :: further), e ∈ list := fun e => by
    simp only [applied, List.forall_mem_append, List.map_cons, List.map_nil,
      List.forall_mem_singleton, mem_map_commonTypes, List.forall_mem_cons, List.forall_mem_map]
  rw [restrictAll_eq_restrict s fun _ => mem_map_commonTypes, restrict_eq_empty_iff]
  simp only [hlists]

/-! ### Configuration and engine -/

theorem admitting_merge_empty (base : Scope) (extensions : List String) :
    (admitting base extensions).merge .empty = admitting base extensions := by
  cases extensions with
  | nil => rfl
  | cons e es => rfl

/-- A union of a restriction and nothing is the restriction as it stands. -/
theorem restrict_merge_empty (s : Scope) (types : List String) :
    (s.restrict types).merge .empty = s.restrict types := by
  cases s with
  | empty => rfl
  | fileTypes base existing => exact admitting_merge_empty base _
  | files _ | roots _ | union _ => exact admitting_merge_empty _ (normalizeTypes types)

end Scope

/-- Where no library and no meta scope comes to it, a configured scope with file types of its own is
restricted once more. -/
theorem ScopeCache.complete_restrict {cache : ScopeCache} {libraries : List (List Path)} (s : Scope)
    (types : List String) (hmeta : cache.options.metaScope = .empty)
    (hlibraries : libraries.flatten = []) :
    cache.complete (s.restrict types) libraries =
      (s.restrict types).restrict cache.options.fileTypes := by
  have hnone : Scope.ofRoots [] = .empty := rfl
  rw [complete, hmeta, hlibraries, hnone, Scope.restrict_merge_empty, Scope.restrict_merge_empty]

/-- Restrictions intersect, whatever the shape of the scope; what they leave is equal as a value.

* Two of them commute, and they are one restriction to the file types that their lists have in
  common in lower case. So repeating one changes nothing, and of a list only the set of its file
  types counts, in lower case.
* Chains whose lists have the same file types in common leave the same.
* Nothing is left just where nothing was restricted or no file type is on all the lists that are
  applied, the stored one among them.
* Scopes that are the same stay the same, whichever of two restrictions comes first, and have one
  entry among the schemas that are kept.
* So a configuration and the engine may restrict in either order. -/
theorem restrictions_intersect (s : Scope) :
    (∀ types others : List String,
        (s.restrict types).restrict others = (s.restrict others).restrict types ∧
        (s.restrict types).restrict others = s.restrict (Scope.intersect types others) ∧
        (s.restrict types).restrict types = s.restrict types ∧
        ((∀ e, e ∈ types.map Scope.lowercase ↔ e ∈ others.map Scope.lowercase) →
          s.restrict types = s.restrict others)) ∧
      (∀ (types types' : List String) (further further' : List (List String)),
        (∀ e, (∀ list ∈ types :: further, e ∈ list.map Scope.lowercase) ↔
          ∀ list ∈ types' :: further', e ∈ list.map Scope.lowercase) →
        s.restrictAll (types :: further) = s.restrictAll (types' :: further')) ∧
      (∀ (types : List String) (further : List (List String)),
        s.restrictAll (types :: further) = .empty ↔
          s = .empty ∨ ¬ ∃ e, ∀ list ∈ s.applied (types :: further), e ∈ list) ∧
      (∀ (t : Scope) (types others : List String), s.same t = true →
        ((s.restrict types).restrict others).same ((t.restrict others).restrict types) = true ∧
        ∀ (cache : SchemaCache) (map : Nat),
          cache.lookup? map ((s.restrict types).restrict others) =
            cache.lookup? map ((t.restrict others).restrict types)) ∧
      ∀ (types : List String) (cache : ScopeCache) (libraries : List (List Path)),
        cache.options.metaScope = .empty → libraries.flatten = [] →
          cache.complete (s.restrict types) libraries =
            (s.restrict cache.options.fileTypes).restrict types := by
  refine ⟨fun types others => ⟨s.restrict_comm types others, ?once, ?again, ?spelling⟩,
    fun types types' further further' => s.restrictAll_congr,
    fun types further => Scope.restrictAll_eq_empty_iff, fun t types others hsame => ?key,
    fun types cache libraries hmeta hlibraries => ?engine⟩
  case once => exact s.restrict_restrict fun _ => Scope.mem_map_intersect
  case again => exact s.restrict_restrict fun _ => and_self_iff.symm
  case spelling => exact s.restrict_congr_types
  case key =>
    have hkept : ((s.restrict types).restrict others).same
        ((t.restrict others).restrict types) = true := by
      rw [s.restrict_comm]
      exact Scope.restrict_congr (Scope.restrict_congr hsame others) types
    exact ⟨hkept, fun _ _ => SchemaCache.lookup?_congr hkept⟩
  case engine => rw [ScopeCache.complete_restrict s types hmeta hlibraries, s.restrict_comm]

section Example

/-- The GraphQL files below `/p`. -/
def graphqlFiles : Scope :=
  .fileTypes (.roots [⟨[47, 112]⟩]) ["gql", "graphql"]

/-- The same files, with a slash at the end of the directory. -/
def graphqlFilesSlash : Scope :=
  .fileTypes (.roots [⟨[47, 112, 47]⟩]) ["gql", "graphql"]

/-- A configuration admits `GQL` and texts. The engine leaves `gql` of both, in either order and for
either spelling of the directory, and a further list of texts leaves nothing. -/
theorem restrictions_intersect_two_spellings :
    graphqlFiles.restrict ["GQL", "txt"] = graphqlFiles.restrict ["txt", "gql", "GQL"] ∧
      graphqlFiles.restrictAll [["GQL", "txt"], ["gql"]] = graphqlFiles.restrictAll [["Gql"]] ∧
      graphqlFiles.restrictAll [["GQL", "txt"], ["TXT"]] = .empty ∧
      ((graphqlFiles.restrict ["GQL", "txt"]).restrict defaultFileTypes).same
        ((graphqlFilesSlash.restrict defaultFileTypes).restrict ["GQL", "txt"]) = true ∧
      ({ root := ⟨[47]⟩ } : ScopeCache).complete (graphqlFiles.restrict ["GQL", "txt"]) [] =
        .fileTypes (.roots [⟨[47, 112]⟩]) ["gql"] := by
  obtain ⟨htwo, hchains, hempty, hsame, hengine⟩ := restrictions_intersect graphqlFiles
  have hgql : Scope.lowercase "GQL" = "gql" ∧ Scope.lowercase "Gql" = "gql" ∧
      Scope.lowercase "gql" = "gql" := by decide
  have htxt : Scope.lowercase "TXT" = "txt" ∧ Scope.lowercase "txt" = "txt" := by decide
  refine ⟨(htwo _ _).2.2.2 fun e => ?set, hchains _ _ _ _ fun e => ?chains,
    (hempty _ _).mpr (.inr ?nothing), (hsame _ _ _ (by decide)).1, ?engine⟩
  case set => simp [hgql, htxt, or_comm]
  case chains =>
    rw [List.forall_mem_cons, List.forall_mem_singleton, List.forall_mem_singleton]
    simp only [List.map_cons, List.map_nil, hgql, htxt]
    exact and_iff_right_of_imp fun h => List.mem_singleton.mp h ▸ List.mem_cons_self
  case nothing =>
    rintro ⟨e, he⟩
    -- the stored list and the last one
    have hstored : e ∈ ["gql", "graphql"] :=
      he _ (List.mem_append_left _ (List.mem_singleton_self _))
    have hlast : e ∈ ["TXT"].map Scope.lowercase := he _ (by simp [Scope.applied])
    rw [List.map_singleton, htxt.1, List.mem_singleton] at hlast
    exact absurd (hlast ▸ hstored) (by decide)
  case engine =>
    rw [hengine _ _ _ rfl rfl]
    rfl

end Example

end SchemaEngine
