import SchemaEngine.Proofs.Scope.Questions

/-!
# Scopes while no stamp moves

Collaborators that only look move no stamp; then a call for a scope moves none, and every moment
that it lives through has the stamps with which it began.

## Main definitions

* `Collaborators.Still`: answering moves no stamp.

## Main results

* `ScopeState.scopeFor_still`: a call for a scope moves no stamp.
-/

set_option autoImplicit false

namespace SchemaEngine

variable {H : Type} {c : Collaborators H}

/-- Answering the questions that scopes are made of moves no stamp. -/
structure Collaborators.Still (c : Collaborators H) : Prop where
  config : ∀ file site, c.stamp (c.resolver.projectConfig file site).2 = c.stamp site
  hasConfigFiles : ∀ site, c.stamp (c.resolver.hasConfigFiles site).2 = c.stamp site
  libraries : ∀ site, c.stamp (c.libraries site).2 = c.stamp site

namespace ScopeState

/-- A call that ends at a site moves no stamp: neither there nor at its visits. -/
def StillCall (c : Collaborators H) (start finish : Site H) (visits : List (Site H)) : Prop :=
  c.stamp finish = c.stamp start ∧ ∀ visit ∈ visits, c.stamp visit = c.stamp start

/-- A call for a scope moves no stamp. -/
theorem scopeFor_still (hc : c.Still) (file : Option FileRef) (flavor : Flavor)
    (s : ScopeState H) :
    StillCall c s.site (scopeFor c file flavor s).2.site (scopeVisits c file flavor s) := by
  refine (questioned_scopeFor s file flavor).keeps (fun _ _ hnoted => hnoted.stamp_eq c) ?_
  intro site visit hasks
  cases hasks with
  | config file site => exact hc.config file site
  | hasConfigFiles site => exact hc.hasConfigFiles site
  | libraries site => exact hc.libraries site

end ScopeState

end SchemaEngine
