import SchemaEngine.Proofs.Host.Minutes
import SchemaEngine.Proofs.Scope.Retention
import SchemaEngine.Proofs.Scope.Visibility

/-!
# What a call for a scope asks for

A call for a scope is served from a cell or computes the scope. Only a computation makes requests,
and which ones it makes is decided by the answers of the resolver: the configuration is always asked
for, whether there is any configuration file only if it gives no scope, and the libraries unless the
scope of the whole project is taken and held. With collaborators that take minutes a call does what
it does without them, and the minutes are these requests.

## Main definitions

* `ScopeState.requests`, `ScopeState.projectRequests`: the requests of a call, by its minutes.
* `ScopeState.computeRequests`: the requests of a computation, by the answers of the resolver.

## Main results

* `ScopeState.scopeFor_minuted`, `ScopeState.globalScope_minuted`: a call with minutes.
* `ScopeState.requests_eq`, `ScopeState.projectRequests_eq`: which requests calls make.
-/

set_option autoImplicit false

namespace SchemaEngine

namespace ScopeState

variable {H : Type} {c : Collaborators H} {file : FileRef} {flavor : Flavor} {s : ScopeState H}

/-- Scopes at a site with minutes. -/
def minuted (requests : List Request) (s : ScopeState H) : ScopeState (Minuted H) :=
  ⟨s.cache, s.site.minuted requests⟩

/-- A place of the state, and the same place of the state with minutes. -/
structure SamePlace (place : Place (ScopeState H) Dependency Scope)
    (place' : Place (ScopeState (Minuted H)) Dependency Scope) : Prop where
  cell : ∀ requests s, place'.cell (s.minuted requests) = place.cell s
  put : ∀ requests cell s,
    place'.put cell (s.minuted requests) = (place.put cell s).minuted requests
  read : ∀ requests s, place'.read (s.minuted requests) = place.read s
  note : ∀ requests label stamps s,
    place'.note label stamps (s.minuted requests) = (place.note label stamps s).minuted requests

/-- A cell makes the requests of its producer if it is stale, and none if it is fresh. -/
theorem SamePlace.get {place : Place (ScopeState H) Dependency Scope}
    {place' : Place (ScopeState (Minuted H)) Dependency Scope} (h : SamePlace place place')
    {produce : ScopeState H → Scope × ScopeState H}
    {produce' : ScopeState (Minuted H) → Scope × ScopeState (Minuted H)}
    (requests : List Request) (s : ScopeState H) {asked : List Request}
    (hproduce : produce' (s.minuted requests) =
      ((produce s).1, (produce s).2.minuted (requests ++ asked))) :
    place'.get produce' (s.minuted requests) =
      ((place.get produce s).1, (place.get produce s).2.minuted
        (requests ++ if (place.cell s).isFresh (place.read s) then [] else asked)) := by
  rw [Cell.isFresh_eq_isSome_peek]
  cases hpeek : (place.cell s).peek (place.read s) with
  | some scope =>
    have hpeek' : (place'.cell (s.minuted requests)).peek (place'.read (s.minuted requests)) =
        some scope := by
      rw [h.cell, h.read, hpeek]
    rw [Place.get_of_fresh place produce s hpeek, Place.get_of_fresh place' produce' _ hpeek']
    simp
  | none =>
    have hpeek' : (place'.cell (s.minuted requests)).peek (place'.read (s.minuted requests)) =
        none := by
      rw [h.cell, h.read, hpeek]
    rw [Place.get_of_stale place produce s hpeek, Place.get_of_stale place' produce' _ hpeek']
    simp only [hproduce, h.cell, h.read, h.note, h.put]
    simp

theorem samePlace_global (c : Collaborators H) :
    SamePlace (globalPlace c) (globalPlace c.minuted) where
  cell _ _ := rfl
  put _ _ _ := rfl
  read requests s := c.stamp_minuted requests s.site
  note _ _ _ _ := rfl

theorem samePlace_file (c : Collaborators H) (file : FileRef) (flavor : Flavor) :
    SamePlace (filePlace c file flavor) (filePlace c.minuted file flavor) where
  cell _ _ := rfl
  put _ _ _ := rfl
  read requests s := c.stamp_minuted requests s.site
  note _ _ _ _ := rfl

theorem create_minuted (c : Collaborators H) (base : Option Scope) (requests : List Request)
    (s : ScopeState H) :
    create c.minuted base (s.minuted requests) =
      ((create c base s).1, (create c base s).2.minuted (requests ++ [.libraries])) :=
  rfl

/-! ### The scope of the whole project -/

/-- The requests that a call for the scope of the whole project makes. -/
def projectRequests (c : Collaborators H) (s : ScopeState H) : List Request :=
  (globalScope c.minuted (s.minuted [])).2.site.host.requests

theorem globalScope_minuted_eq (c : Collaborators H) (requests : List Request)
    (s : ScopeState H) :
    globalScope c.minuted (s.minuted requests) =
      ((globalScope c s).1, (globalScope c s).2.minuted
        (requests ++ if s.cache.global.isFresh (c.stamp s.site) then [] else [.libraries])) :=
  (samePlace_global c).get requests s rfl

/-- The libraries are asked for if the scope of the whole project is not held. -/
theorem projectRequests_eq (c : Collaborators H) (s : ScopeState H) :
    projectRequests c s =
      if s.cache.global.isFresh (c.stamp s.site) then [] else [.libraries] := by
  rw [projectRequests, globalScope_minuted_eq]
  rfl

theorem globalScope_minuted (c : Collaborators H) (requests : List Request) (s : ScopeState H) :
    globalScope c.minuted (s.minuted requests) =
      ((globalScope c s).1, (globalScope c s).2.minuted (requests ++ projectRequests c s)) := by
  rw [globalScope_minuted_eq, projectRequests_eq]

/-! ### The scope of a file -/

/-- The requests that the computation of the scope of a file makes. -/
def computeRequests (c : Collaborators H) (file : FileRef) (flavor : Flavor) (s : ScopeState H) :
    List Request :=
  .projectConfig file ::
    match baseOf c file flavor s.site with
    | .configured _ => [.libraries]
    | .alone => [.hasConfigFiles, .libraries]
    | .project =>
      .hasConfigFiles :: projectRequests c { s with site := librarySite c file flavor s.site }

/-- The libraries are not asked for just if the scope of the whole project is taken and held. -/
theorem computeRequests_eq (c : Collaborators H) (file : FileRef) (flavor : Flavor)
    (s : ScopeState H) :
    computeRequests c file flavor s =
      .projectConfig file ::
        match baseOf c file flavor s.site with
        | .configured _ => [.libraries]
        | .alone => [.hasConfigFiles, .libraries]
        | .project =>
          .hasConfigFiles ::
            if s.cache.global.isFresh (c.stamp (librarySite c file flavor s.site)) then []
            else [.libraries] := by
  rw [computeRequests, projectRequests_eq]

theorem compute_minuted (c : Collaborators H) (file : FileRef) (flavor : Flavor)
    (requests : List Request) (s : ScopeState H) :
    compute c.minuted file flavor (s.minuted requests) =
      ((compute c file flavor s).1, (compute c file flavor s).2.minuted
        (requests ++ computeRequests c file flavor s)) := by
  rcases hresolve : c.resolver.projectConfig file s.site with ⟨config, site⟩
  have hresolve' : c.minuted.resolver.projectConfig file (s.minuted requests).site =
      (config, site.minuted (requests ++ [.projectConfig file])) := by
    refine (Collaborators.minute_minuted _ _ requests s.site).trans ?_
    rw [hresolve]
  cases hbase : config.bind fun config => config.scopeOf flavor with
  | some base =>
    rw [(compute_configured hresolve hbase).2, (compute_configured hresolve' hbase).2]
    have hrequests : computeRequests c file flavor s =
        [.projectConfig file] ++ [.libraries] := by
      simp only [computeRequests, baseOf, hresolve, hbase, ScopeBase.ofAnswers]
      rfl
    rw [hrequests, ← List.append_assoc]
    exact create_minuted c _ _ { s with site := site.note (.configuredScope file flavor) }
  | none =>
    rcases hany : c.resolver.hasConfigFiles site with ⟨hasConfigFiles, asked⟩
    have hany' : c.minuted.resolver.hasConfigFiles
        (site.minuted (requests ++ [.projectConfig file])) =
          (hasConfigFiles,
            asked.minuted (requests ++ [.projectConfig file] ++ [.hasConfigFiles])) := by
      refine (Collaborators.minute_minuted _ _ _ site).trans ?_
      rw [hany]
    cases hasConfigFiles with
    | true =>
      rw [(compute_alone hresolve hbase hany).2, (compute_alone hresolve' hbase hany').2]
      have hrequests : computeRequests c file flavor s =
          [.projectConfig file] ++ ([.hasConfigFiles] ++ [.libraries]) := by
        simp only [computeRequests, baseOf, hresolve, hbase, hany, ScopeBase.ofAnswers]
        rfl
      rw [hrequests, ← List.append_assoc, ← List.append_assoc]
      exact create_minuted c _ _ { s with site := asked.note (.loneFileScope file flavor) }
    | false =>
      rw [(compute_project hresolve hbase hany).2, (compute_project hresolve' hbase hany').2]
      have hrequests : computeRequests c file flavor s = [.projectConfig file] ++
          ([.hasConfigFiles] ++ projectRequests c { s with site := asked }) := by
        simp only [computeRequests, baseOf, librarySite, hresolve, hbase, hany,
          ScopeBase.ofAnswers]
        rfl
      rw [hrequests, ← List.append_assoc, ← List.append_assoc]
      exact globalScope_minuted c _ { s with site := asked }

/-- The cell of a file, and a new one where there is none. -/
def cellOf (s : ScopeState H) (file : FileRef) (flavor : Flavor) : Cell Dependency Scope :=
  (s.cache.cell? file flavor).getD (ScopeCache.newCell file)

/-- A cell that is made for a call is a new one. -/
theorem cell_ensured (s : ScopeState H) (file : FileRef) (flavor : Flavor) :
    (filePlace c file flavor).cell { s with cache := s.cache.ensure file flavor } =
      s.cellOf file flavor := by
  simp only [filePlace, cellOf]
  cases hcell : s.cache.cell? file flavor with
  | some cell => rw [ScopeCache.cell?_ensure hcell]
  | none =>
    by_cases hroom : s.cache.options.capacity = 0
    case pos => simp only [ScopeCache.ensure, hcell, hroom, ↓reduceIte, Option.getD_none]
    case neg => rw [ScopeCache.cell?_ensure_new hroom hcell]; rfl

theorem global_ensure (cache : ScopeCache) (file : FileRef) (flavor : Flavor) :
    (cache.ensure file flavor).global = cache.global := by
  unfold ScopeCache.ensure
  split
  · rfl
  · split <;> rfl

/-- The computation of the scope of a file does not look at the cells of files. -/
theorem computeRequests_ensure (s : ScopeState H) (file : FileRef) (flavor : Flavor) :
    computeRequests c file flavor { s with cache := s.cache.ensure file flavor } =
      computeRequests c file flavor s := by
  rw [computeRequests_eq, computeRequests_eq, global_ensure]

/-- The requests that a call for a scope makes. -/
def requests (c : Collaborators H) (file : Option FileRef) (flavor : Flavor) (s : ScopeState H) :
    List Request :=
  (scopeFor c.minuted file flavor (s.minuted [])).2.site.host.requests

theorem scopeFor_minuted_eq (c : Collaborators H) (file : FileRef) (flavor : Flavor)
    (requests : List Request) (s : ScopeState H) :
    scopeFor c.minuted (some file) flavor (s.minuted requests) =
      ((scopeFor c (some file) flavor s).1, (scopeFor c (some file) flavor s).2.minuted
        (requests ++ if (s.cellOf file flavor).isFresh (c.stamp s.site) then []
          else computeRequests c file flavor s)) := by
  let ensured : ScopeState H := { s with cache := s.cache.ensure file flavor }
  have hget := (samePlace_file c file flavor).get requests ensured
    (compute_minuted c file flavor requests ensured)
  rw [cell_ensured, computeRequests_ensure] at hget
  exact hget

/-- A scope is computed if the cell of the file is not fresh. -/
theorem requests_eq (c : Collaborators H) (file : FileRef) (flavor : Flavor) (s : ScopeState H) :
    requests c (some file) flavor s =
      if (s.cellOf file flavor).isFresh (c.stamp s.site) then []
      else computeRequests c file flavor s := by
  rw [requests, scopeFor_minuted_eq]
  rfl

/-- A call makes no request exactly if the cell of the file is fresh. -/
theorem requests_eq_nil_iff :
    requests c (some file) flavor s = [] ↔
      (s.cellOf file flavor).isFresh (c.stamp s.site) = true := by
  rw [requests_eq]
  split
  case isTrue hfresh => exact iff_of_true rfl hfresh
  case isFalse hstale => exact iff_of_false (List.cons_ne_nil _ _) hstale

end ScopeState

end SchemaEngine
