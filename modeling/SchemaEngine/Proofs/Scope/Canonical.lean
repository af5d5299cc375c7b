import SchemaEngine.Proofs.Scope.Unions

/-!
# The canonical form of scopes

Scopes are compared as values, so a scope must have one form however it was constructed. Sets are
sorted and hold nothing twice, empty parts are left out, a union of one member is that member, a
union in a union is resolved, and a restriction of a restriction is one restriction. All operations
keep this form, and so it is the form of every scope that is computed for a file from a project
configuration, from libraries and from the meta scope, and of every scope that is held meanwhile.

## Main definitions

* `Scope.Canonical`: the canonical form, all the way down.
* `Scope.IsPart`: what a union is made of.
* `Collaborators.ConstructsScopes`: project configurations give constructed scopes.
* `ScopeCache.Built`: every scope that is held was constructed.

## Main results

* `Scope.Canonical.merge`, `Scope.Canonical.restrict`: the operations keep the form.
* `Scope.Constructed.canonical`: constructed scopes have it.
* `ScopeState.Journey.built`: what is held after a run was constructed.
* `constructed_canonical`: all of it.
-/

set_option autoImplicit false

namespace SchemaEngine

namespace Scope

/-! ### The form -/

/-- A text without the letters A to Z. -/
def IsLowercase (text : String) : Prop :=
  ∀ letter ∈ text.toList, letter.isUpper = false

/-- The canonical form. It holds of the members of a union and of the base of a restriction as
well. -/
inductive Canonical : Scope → Prop where
  | empty : Canonical .empty
  | files {paths : List Path} (nonempty : paths ≠ [])
      (increasing : Sorted.Increasing Path.order paths) : Canonical (.files paths)
  | roots {directories : List Path} (nonempty : directories ≠ [])
      (increasing : Sorted.Increasing Path.order directories) : Canonical (.roots directories)
  | union {members : List Scope} (several : 2 ≤ members.length)
      (increasing : Sorted.Increasing order members)
      (canonical : ∀ member ∈ members, member.Canonical)
      (notEmpty : ∀ member ∈ members, member ≠ .empty)
      (notUnion : ∀ member ∈ members, ∀ inner, member ≠ .union inner) : Canonical (.union members)
  | fileTypes {base : Scope} {extensions : List String} (canonical : base.Canonical)
      (notEmpty : base ≠ .empty) (notRestricted : ∀ inner types, base ≠ .fileTypes inner types)
      (nonempty : extensions ≠ []) (increasing : Sorted.Increasing compare extensions)
      (lowercase : ∀ e ∈ extensions, IsLowercase e) : Canonical (.fileTypes base extensions)

/-- What a union is made of: a canonical scope that is neither empty nor a union. -/
structure IsPart (s : Scope) : Prop where
  canonical : s.Canonical
  notEmpty : s ≠ .empty
  notUnion : ∀ inner, s ≠ .union inner

variable {s t : Scope}

/-- A canonical scope brings such parts into a union. -/
theorem Canonical.isPart (h : s.Canonical) {member : Scope} (hmember : member ∈ s.members) :
    member.IsPart := by
  cases s with
  | empty => cases hmember
  | union members =>
    cases h with
    | union several increasing canonical notEmpty notUnion =>
      exact ⟨canonical member hmember, notEmpty member hmember, notUnion member hmember⟩
  | files _ | roots _ | fileTypes _ _ =>
    obtain rfl := List.mem_singleton.mp hmember
    exact ⟨h, nofun, nofun⟩

/-! ### The operations -/

/-- A sorted list of paths makes a canonical scope, which is the empty one if there are none. -/
theorem canonical_sorted {kind : List Path → Scope}
    (hkind : ∀ {paths : List Path}, paths ≠ [] → Sorted.Increasing Path.order paths →
      (kind paths).Canonical) {paths : List Path} (h : Sorted.Increasing Path.order paths) :
    (match paths with | [] => empty | p :: ps => kind (p :: ps)).Canonical :=
  match paths, h with
  | [], _ => .empty
  | p :: ps, h => hkind (List.cons_ne_nil p ps) h

theorem canonical_ofFiles (paths : List Path) : (ofFiles paths).Canonical :=
  canonical_sorted .files (Sorted.increasing_ofList paths)

theorem canonical_ofRoots (directories : List Path) : (ofRoots directories).Canonical :=
  canonical_sorted .roots (Sorted.increasing_ofList directories)

/-- Parts in their order make a canonical scope: none of them the empty one, and one itself. -/
theorem canonical_ofMembers {members : List Scope}
    (hincreasing : Sorted.Increasing order members) (hparts : ∀ member ∈ members, member.IsPart) :
    (ofMembers members).Canonical :=
  match members with
  | [] => .empty
  | [s] => (hparts s List.mem_cons_self).canonical
  | _ :: _ :: _ =>
    .union (Nat.le_add_left 2 _) hincreasing
      (fun member hmember => (hparts member hmember).canonical)
      (fun member hmember => (hparts member hmember).notEmpty)
      fun member hmember => (hparts member hmember).notUnion

/-- A union of canonical scopes is canonical. -/
theorem Canonical.merge (hs : s.Canonical) (ht : t.Canonical) : (s.merge t).Canonical := by
  refine canonical_ofMembers
    (Sorted.increasing_union _ (Sorted.increasing_union _ .nil)) fun member hmember => ?_
  rcases Sorted.mem_or_mem_of_mem_union hmember with hfirst | hsecond
  · rcases Sorted.mem_or_mem_of_mem_union hfirst with hnone | hfirst
    · cases hnone
    · exact hs.isPart hfirst
  · exact ht.isPart hsecond

theorem isUpper_iff {letter : Char} :
    letter.isUpper = true ↔ 'A'.val ≤ letter.val ∧ letter.val ≤ 'Z'.val :=
  decide_eq_true_iff

theorem val_toLower (letter : Char) :
    letter.toLower.val =
      if 'A'.val ≤ letter.val ∧ letter.val ≤ 'Z'.val then letter.val + ('a'.val - 'A'.val)
      else letter.val :=
  apply_dite Char.val _ _ _

theorem isUpper_toLower (letter : Char) : letter.toLower.isUpper = false := by
  rw [Bool.eq_false_iff, ne_eq, isUpper_iff, val_toLower]
  split
  case isTrue hupper => grind
  case isFalse hother => exact hother

theorem toLower_of_not_isUpper {letter : Char} (h : letter.isUpper = false) :
    letter.toLower = letter :=
  dif_neg fun hupper => Bool.eq_false_iff.mp h (isUpper_iff.mpr hupper)

theorem isLowercase_lowercase (text : String) : IsLowercase (lowercase text) := by
  intro letter hletter
  rw [lowercase, String.toList_ofList] at hletter
  obtain ⟨original, -, rfl⟩ := List.mem_map.mp hletter
  exact isUpper_toLower original

theorem isLowercase_of_mem_normalizeTypes {types : List String} {e : String}
    (h : e ∈ normalizeTypes types) : IsLowercase e := by
  obtain ⟨original, -, rfl⟩ := List.mem_map.mp ((mem_normalizeTypes types e).mp h)
  exact isLowercase_lowercase original

/-- A base with file types is canonical, or empty where there are none. -/
theorem canonical_admitting {base : Scope} {extensions : List String} (hbase : base.Canonical)
    (hempty : base ≠ .empty) (hrestricted : ∀ inner types, base ≠ .fileTypes inner types)
    (hincreasing : Sorted.Increasing compare extensions)
    (hlowercase : ∀ e ∈ extensions, IsLowercase e) :
    (admitting base extensions).Canonical := by
  cases extensions with
  | nil => exact .empty
  | cons e es =>
    exact .fileTypes hbase hempty hrestricted (List.cons_ne_nil e es) hincreasing hlowercase

/-- A restriction of a canonical scope is canonical. -/
theorem Canonical.restrict (h : s.Canonical) (types : List String) :
    (s.restrict types).Canonical := by
  cases s with
  | empty => exact .empty
  | fileTypes base existing =>
    cases h with
    | fileTypes canonical notEmpty notRestricted nonempty increasing lowercase =>
      -- the old base stays, with those of its file types that are admitted
      exact canonical_admitting canonical notEmpty notRestricted (increasing.filter _)
        fun e he => lowercase e (List.mem_filter.mp he).1
  | files _ | roots _ | union _ =>
    exact canonical_admitting h nofun nofun (Sorted.increasing_ofList _)
      fun _ => isLowercase_of_mem_normalizeTypes

/-- However a scope was constructed, it is canonical. -/
theorem Constructed.canonical (h : s.Constructed) : s.Canonical := by
  induction h with
  | empty => exact .empty
  | ofFile path => exact canonical_ofFiles [path]
  | ofFiles paths => exact canonical_ofFiles paths
  | ofRoots directories => exact canonical_ofRoots directories
  | merge _ _ hs ht => exact hs.merge ht
  | restrict _ types hs => exact hs.restrict types

end Scope

/-! ### What a cache holds -/

variable {H : Type} {c : Collaborators H} {file : FileRef} {flavor : Flavor}

/-- The scopes that project configurations give were constructed. -/
def Collaborators.ConstructsScopes (c : Collaborators H) : Prop :=
  ∀ file site flavor scope,
    ((c.resolver.projectConfig file site).1.bind fun config => config.scopeOf flavor) = some scope →
      scope.Constructed

namespace ScopeCache

variable {cache : ScopeCache}

/-- Every scope that is held was constructed. -/
structure Built (cache : ScopeCache) : Prop where
  metaScope : cache.options.metaScope.Constructed
  project : ∀ memo, cache.global.slot = some memo → memo.value.Constructed
  perFile : ∀ entry ∈ cache.perFile, ∀ memo, entry.cell.slot = some memo → memo.value.Constructed

/-- What is made of a constructed base was constructed. -/
theorem Built.complete (h : cache.Built) {base : Scope} (hbase : base.Constructed)
    (libraries : List (List Path)) : (cache.complete base libraries).Constructed :=
  .restrict (.merge (.merge hbase (.ofRoots _)) h.metaScope) _

theorem built_new {root : Path} {options : ScopeOptions} (h : options.metaScope.Constructed) :
    ({ root := root, options := options } : ScopeCache).Built where
  metaScope := h
  project := nofun
  perFile := nofun

theorem Built.of_perFile_subset (h : cache.Built) {kept : List FileScope}
    (hkept : kept ⊆ cache.perFile) : ({ cache with perFile := kept } : ScopeCache).Built :=
  ⟨h.metaScope, h.project, fun entry hentry => h.perFile entry (hkept hentry)⟩

theorem Built.ensure (h : cache.Built) : (cache.ensure file flavor).Built := by
  unfold ScopeCache.ensure
  split
  · exact h
  split
  · exact h
  refine ⟨h.metaScope, h.project, fun entry hentry => ?_⟩
  rcases List.mem_append.mp hentry with hold | hnew
  · exact h.perFile entry hold
  · obtain rfl := List.mem_singleton.mp hnew
    exact nofun

theorem Built.setCell (h : cache.Built) {cell : Cell Dependency Scope}
    (hcell : ∀ memo, cell.slot = some memo → memo.value.Constructed) :
    (cache.setCell file flavor cell).Built := by
  refine ⟨h.metaScope, h.project, fun entry hentry => ?_⟩
  obtain ⟨old, hold, rfl⟩ := List.mem_map.mp hentry
  split
  · exact hcell
  · exact h.perFile old hold

/-- What the cell of a file holds was constructed. -/
theorem Built.of_cell (h : cache.Built) {memo : Memo Dependency Scope}
    (hmemo : ((cache.cell? file flavor).getD (newCell file)).slot = some memo) :
    memo.value.Constructed := by
  unfold cell? at hmemo
  cases hfind : cache.perFile.find? fun entry => entry.isFor file flavor with
  | none =>
    rw [hfind] at hmemo
    cases hmemo
  | some entry =>
    rw [hfind] at hmemo
    exact h.perFile entry (List.mem_of_find?_eq_some hfind) memo hmemo

end ScopeCache

/-! ### What a call computes -/

namespace ScopeState

variable {s : ScopeState H}

theorem constructed_create (h : s.cache.Built) {base : Option Scope}
    (hbase : ∀ scope, base = some scope → scope.Constructed) :
    (create c base s).1.Constructed ∧ (create c base s).2.cache.Built := by
  refine ⟨h.complete ?_ _, h⟩
  cases base with
  | none => exact .ofRoots [s.cache.root]
  | some scope => exact hbase scope rfl

theorem constructed_globalScope (h : s.cache.Built) :
    (globalScope c s).1.Constructed ∧ (globalScope c s).2.cache.Built := by
  cases hpeek : s.cache.global.peek (c.stamp s.site) with
  | some scope =>
    have hget : globalScope c s = (scope, s) := Place.get_of_fresh (globalPlace c) _ s hpeek
    obtain ⟨memo, hmemo, -, rfl⟩ := Cell.slot_of_peek hpeek
    rw [hget]
    exact ⟨h.project memo hmemo, h⟩
  | none =>
    have hget := Place.get_of_stale (globalPlace c) (create c none) s hpeek
    have hcreated : (create c none s).1.Constructed :=
      (constructed_create h fun _ hnone => by cases hnone).1
    rw [globalScope, hget]
    refine ⟨hcreated, h.metaScope, fun memo hmemo => ?_, h.perFile⟩
    obtain rfl := Option.some.inj hmemo
    exact hcreated

/-- The scope of a file is constructed, whichever way it is computed. -/
theorem constructed_compute (hc : c.ConstructsScopes) (h : s.cache.Built) (file : FileRef)
    (flavor : Flavor) :
    (compute c file flavor s).1.Constructed ∧ (compute c file flavor s).2.cache.Built := by
  have hgiven := hc file s.site flavor
  rcases hresolve : c.resolver.projectConfig file s.site with ⟨config, site⟩
  rw [hresolve] at hgiven
  cases hbase : config.bind fun config => config.scopeOf flavor with
  | some base =>
    rw [(compute_configured hresolve hbase).2]
    exact constructed_create (s := { s with site := site.note (.configuredScope file flavor) }) h
      fun scope hscope => hgiven scope (hbase.trans hscope)
  | none =>
    rcases hany : c.resolver.hasConfigFiles site with ⟨hasConfigFiles, asked⟩
    cases hasConfigFiles with
    | true =>
      rw [(compute_alone hresolve hbase hany).2]
      exact constructed_create (s := { s with site := asked.note (.loneFileScope file flavor) }) h
        fun scope hscope => Option.some.inj hscope ▸ .ofFile file.path
    | false =>
      rw [(compute_project hresolve hbase hany).2]
      exact constructed_globalScope (s := { s with site := asked }) h

/-- The scope that a call returns was constructed, whether it was held or is computed. -/
theorem constructed_scopeFor (hc : c.ConstructsScopes) (h : s.cache.Built) (file : Option FileRef)
    (flavor : Flavor) :
    (scopeFor c file flavor s).1.Constructed ∧ (scopeFor c file flavor s).2.cache.Built := by
  cases file with
  | none => exact ⟨.empty, h⟩
  | some file =>
    let ensured : ScopeState H := { s with cache := s.cache.ensure file flavor }
    have hensured : ensured.cache.Built := h.ensure
    cases hpeek : ((filePlace c file flavor).cell ensured).peek (c.stamp s.site) with
    | some scope =>
      obtain ⟨memo, hmemo, -, rfl⟩ := Cell.slot_of_peek hpeek
      rw [scopeFor_of_fresh hpeek]
      exact ⟨hensured.of_cell hmemo, hensured⟩
    | none =>
      obtain ⟨entry, hfilled⟩ := scopeFor_of_stale hpeek
      obtain ⟨hscope, hbuilt⟩ := constructed_compute hc hensured file flavor
      rw [hfilled]
      refine ⟨hscope, hbuilt.setCell fun memo hmemo => ?_⟩
      obtain rfl := Option.some.inj hmemo
      exact hscope

/-- Whatever is asked for, dropped or moved, every scope that is held was constructed. -/
theorem Journey.built (hc : c.ConstructsScopes) {root : Path} {options : ScopeOptions}
    (hmeta : options.metaScope.Constructed) {moments : List (Site H)}
    (h : Journey c root options moments s) : s.cache.Built := by
  induction h with
  | here site => exact ScopeCache.built_new hmeta
  | scopeFor file flavor _ ih => exact (constructed_scopeFor hc ih file flavor).2
  | globalScope _ ih => exact (constructed_globalScope ih).2
  | forget file _ ih => exact ih.of_perFile_subset List.filter_sublist.subset
  | evict kept _ hkept ih => exact ih.of_perFile_subset hkept.subset
  | move site _ ih => exact ih

end ScopeState

open ScopeState in
/-- Every constructed scope is canonical. Where project configurations and the meta scope are
constructed, so is every scope that is computed for a file or for the whole project, every one that
is returned and every one that is held, after every run and whatever moves in the middle of it. -/
theorem constructed_canonical :
    (∀ s : Scope, s.Constructed → s.Canonical) ∧
      ∀ {H : Type} {c : Collaborators H} {root : Path} {options : ScopeOptions}
        {moments : List (Site H)} {s : ScopeState H},
        c.ConstructsScopes → options.metaScope.Constructed → Journey c root options moments s →
          (∀ file flavor, (compute c file flavor s).1.Canonical) ∧
          (∀ file flavor, (scopeFor c file flavor s).1.Canonical) ∧
          (globalScope c s).1.Canonical ∧
          (∀ memo, s.cache.global.slot = some memo → memo.value.Canonical) ∧
          ∀ entry ∈ s.cache.perFile, ∀ memo, entry.cell.slot = some memo →
            memo.value.Canonical := by
  refine ⟨fun s => Scope.Constructed.canonical, fun hc hmeta hs => ?_⟩
  have hbuilt := hs.built hc hmeta
  exact ⟨fun file flavor => (constructed_compute hc hbuilt file flavor).1.canonical,
    fun file flavor => (constructed_scopeFor hc hbuilt file flavor).1.canonical,
    (constructed_globalScope hbuilt).1.canonical,
    fun memo hmemo => (hbuilt.project memo hmemo).canonical,
    fun entry hentry memo hmemo => (hbuilt.perFile entry hentry memo hmemo).canonical⟩

section Example

open ScopeState

/-- A union of the GraphQL files below `/p` and the file `/l`. -/
def mixedScope : Scope :=
  ((Scope.ofRoots [⟨[47, 112]⟩]).restrict ["GQL"]).merge (.ofFile ⟨[47, 108]⟩)

/-- The configuration gives every file this scope, and a library leaves. -/
def mixedCollaborators : Collaborators Stamp :=
  { plainCollaborators leavingLibrary with
    resolver :=
      { (plainCollaborators leavingLibrary).resolver with
        projectConfig := fun _ site => (some { scope := some mixedScope }, site) } }

/-- What is returned before the library leaves is a restriction of a flat union, in which a
restriction stands, and what is returned afterwards is canonical too. -/
theorem constructed_canonical_mixed_scope :
    let first := scopeFor mixedCollaborators (some plainFile) .resolve beforeLeaving
    first.1.same (.fileTypes
        (.union [.files [⟨[47, 108]⟩], .roots [⟨[47, 98]⟩],
          .fileTypes (.roots [⟨[47, 112]⟩]) ["gql"]])
        ["gql", "graphql", "graphqls"]) = true ∧
      first.1.Canonical ∧
      (scopeFor mixedCollaborators (some plainFile) .resolve first.2).1.Canonical := by
  intro first
  have hgiven : mixedCollaborators.ConstructsScopes := by
    intro file site flavor scope hscope
    cases flavor with
    | resolve => exact Option.some.inj hscope ▸ .merge (.restrict (.ofRoots _) _) (.ofFile _)
    | schema => cases hscope
  have hstart : Journey mixedCollaborators ⟨[47]⟩ {} [] beforeLeaving := .here _
  have hcanonical {moments : List (Site Stamp)} {s : ScopeState Stamp}
      (hs : Journey mixedCollaborators ⟨[47]⟩ {} moments s) :=
    (constructed_canonical.2 hgiven .empty hs).2.1 (some plainFile) .resolve
  exact ⟨by decide, hcanonical hstart, hcanonical (.scopeFor (some plainFile) .resolve hstart)⟩

end Example

end SchemaEngine
