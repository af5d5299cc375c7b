import SchemaEngine.Proofs.Scope.Transparency

/-!
# The questions of a call for a scope

A call for a scope asks questions, one after the other, and between them it only makes notes in the
journal. The moments that it lives through are therefore the ends of its questions, and it ends with
the stamps of the last one. What no question changes stays, a stamp for example; and if the stamps
at the end are those of the beginning, and none of them returns to a value that it left, they never
moved.

## Main definitions

* `Collaborators.Asks`: a question leads from one site to another.
* `Site.Noted`: only the journal differs.
* `Questioned`: visits as the ends of questions, and the site after the last one.
* `Collaborators.KeepsFiles`: no question moves the stamp of a file.

## Main results

* `ScopeState.questioned_scopeFor`: a call for a scope asks questions.
* `Questioned.keeps`: what no question changes stays.
* `Questioned.still_of_finish`: stamps that are the same at the end were the same throughout.
-/

set_option autoImplicit false

namespace SchemaEngine

variable {H : Type} {c : Collaborators H}

/-- One of the questions that scopes are made of leads from one site to another. -/
inductive Collaborators.Asks (c : Collaborators H) : Site H → Site H → Prop where
  | config (file : FileRef) (site : Site H) : Asks c site (c.resolver.projectConfig file site).2
  | hasConfigFiles (site : Site H) : Asks c site (c.resolver.hasConfigFiles site).2
  | libraries (site : Site H) : Asks c site (c.libraries site).2

/-- One site was made of another one by making notes in the journal. -/
def Site.Noted (later earlier : Site H) : Prop :=
  later.generation = earlier.generation ∧ later.host = earlier.host

namespace Site.Noted

variable {later middle earlier : Site H}

theorem refl (site : Site H) : site.Noted site :=
  ⟨rfl, rfl⟩

theorem note (entry : Entry) (site : Site H) : (site.note entry).Noted site :=
  ⟨rfl, rfl⟩

theorem trans (h : later.Noted middle) (h' : middle.Noted earlier) : later.Noted earlier :=
  ⟨h.1.trans h'.1, h.2.trans h'.2⟩

theorem stamp_eq (h : later.Noted earlier) (c : Collaborators H) :
    c.stamp later = c.stamp earlier := by
  funext d
  cases d <;> simp only [Collaborators.stamp, h.1, h.2]

end Site.Noted

/-- The visits of a call, the latest one first, are the ends of questions; from one question to the
next, and after the last one, notes are made. -/
inductive Questioned (c : Collaborators H) (start : Site H) : List (Site H) → Site H → Prop where
  | rest {finish : Site H} (hnoted : finish.Noted start) : Questioned c start [] finish
  | ask {visits : List (Site H)} {site visit finish : Site H} :
      Questioned c start visits site → c.Asks site visit →
        finish.Noted visit → Questioned c start (visit :: visits) finish

namespace Questioned

variable {start middle later finish : Site H} {visits before : List (Site H)}

theorem noted (h : Questioned c start visits middle) (hnoted : finish.Noted middle) :
    Questioned c start visits finish := by
  cases h with
  | rest hstart => exact .rest (hnoted.trans hstart)
  | ask hbefore hasks hmiddle => exact .ask hbefore hasks (hnoted.trans hmiddle)

/-- What was asked before is told with it. -/
theorem append (h : Questioned c later visits finish) (hbefore : Questioned c start before middle)
    (hlater : later.Noted middle) : Questioned c start (visits ++ before) finish := by
  induction h with
  | rest hnoted => exact hbefore.noted (hnoted.trans hlater)
  | ask _ hasks hnoted ih => exact .ask ih hasks hnoted

/-- The call ends with the stamps of its last visit. -/
theorem stamp_finish (h : Questioned c start visits finish) :
    c.stamp finish = c.stamp (visits.headD start) := by
  cases h with
  | rest hnoted => exact hnoted.stamp_eq c
  | ask _ _ hnoted => exact hnoted.stamp_eq c

/-- What neither notes nor questions change stays. -/
theorem keeps {α : Type} {f : Site H → α} (h : Questioned c start visits finish)
    (hnotes : ∀ site noted, noted.Noted site → f noted = f site)
    (hasks : ∀ site visit, c.Asks site visit → f visit = f site) :
    f finish = f start ∧ ∀ visit ∈ visits, f visit = f start := by
  induction h with
  | rest hnoted => exact ⟨hnotes _ _ hnoted, fun _ hvisit => by cases hvisit⟩
  | ask _ hask hnoted ih =>
    have hvisit := (hasks _ _ hask).trans ih.1
    refine ⟨(hnotes _ _ hnoted).trans hvisit, fun other hother => ?_⟩
    rcases List.mem_cons.mp hother with rfl | hold
    · exact hvisit
    · exact ih.2 other hold

/-- A stamp that is the same at the end was the same throughout, if it never returns to a value that
it left. -/
theorem still_of_finish (h : Questioned c start visits finish) {past : List (Site H)}
    (hreturn : NeverReturns c.stamp (visits ++ start :: past)) {d : Dependency}
    (hfinish : c.stamp finish d = c.stamp start d) :
    ∀ visit ∈ visits, c.stamp visit d = c.stamp start d := by
  rw [h.stamp_finish] at hfinish
  intro visit hvisit
  cases visits with
  | nil => cases hvisit
  | cons last earlier =>
    rcases List.mem_cons.mp hvisit with rfl | hearlier
    · exact hfinish
    · have hsub : [visit, start].Sublist (earlier ++ start :: past) :=
        (List.singleton_sublist.mpr hearlier).append (List.singleton_sublist.mpr (.head past))
      exact hreturn last visit start (hsub.cons_cons last) d hfinish

end Questioned

/-- No question for a scope moves the stamp of a file. -/
def Collaborators.KeepsFiles (c : Collaborators H) : Prop :=
  ∀ site visit, c.Asks site visit → ∀ file, c.stamp visit (.file file) = c.stamp site (.file file)

namespace ScopeState

variable {file : FileRef} {flavor : Flavor} (s : ScopeState H)

theorem questioned_create (base : Option Scope) :
    Questioned c s.site (createVisits c s) (create c base s).2.site :=
  .ask (.rest (.refl _)) (.libraries s.site) (.refl _)

theorem questioned_globalScope :
    Questioned c s.site (projectVisits c s) (globalScope c s).2.site := by
  unfold globalScope projectVisits
  cases hpeek : s.cache.global.peek (c.stamp s.site) with
  | some scope =>
    rw [Place.get_of_fresh (globalPlace c) _ s hpeek]
    exact .rest (.refl _)
  | none =>
    rw [Place.get_of_stale (globalPlace c) _ s hpeek]
    exact (questioned_create s none).noted (.note _ _)

theorem questioned_compute :
    Questioned c s.site (computeVisits c file flavor s) (compute c file flavor s).2.site := by
  have hconfig : Questioned c s.site [(c.resolver.projectConfig file s.site).2]
      (c.resolver.projectConfig file s.site).2 :=
    .ask (.rest (.refl _)) (.config file s.site) (.refl _)
  rcases hresolve : c.resolver.projectConfig file s.site with ⟨config, site⟩
  rw [hresolve] at hconfig
  cases hbase : config.bind fun config => config.scopeOf flavor with
  | some base =>
    obtain ⟨hvisits, hcompute⟩ := compute_configured (s := s) hresolve hbase
    rw [hvisits, hcompute]
    exact (questioned_create _ _).append hconfig (.note _ _)
  | none =>
    have hasked : Questioned c s.site [(c.resolver.hasConfigFiles site).2, site]
        (c.resolver.hasConfigFiles site).2 := .ask hconfig (.hasConfigFiles site) (.refl _)
    rcases hany : c.resolver.hasConfigFiles site with ⟨hasConfigFiles, asked⟩
    rw [hany] at hasked
    cases hasConfigFiles with
    | true =>
      obtain ⟨hvisits, hcompute⟩ := compute_alone (s := s) hresolve hbase hany
      rw [hvisits, hcompute]
      exact (questioned_create _ _).append hasked (.note _ _)
    | false =>
      obtain ⟨hvisits, hcompute⟩ := compute_project (s := s) hresolve hbase hany
      rw [hvisits, hcompute]
      exact (questioned_globalScope { s with site := asked }).append hasked (.refl _)

/-- A call for a scope asks questions, and makes notes. -/
theorem questioned_scopeFor (file : Option FileRef) (flavor : Flavor) :
    Questioned c s.site (scopeVisits c file flavor s) (scopeFor c file flavor s).2.site := by
  cases file with
  | none => exact .rest (.refl _)
  | some file =>
    let ensured : ScopeState H := { s with cache := s.cache.ensure file flavor }
    cases hpeek : ((filePlace c file flavor).cell ensured).peek (c.stamp s.site) with
    | some scope =>
      rw [scopeFor_of_fresh hpeek, scopeVisits_of_fresh hpeek]
      exact .rest (.refl _)
    | none =>
      obtain ⟨entry, hfilled⟩ := scopeFor_of_stale hpeek
      rw [hfilled, scopeVisits_of_stale hpeek]
      exact (questioned_compute ensured).noted (.note _ _)

/-- The scope of a file is right if the stamps of the project are the same at the end of the call,
provided that no question moves the stamp of a file. -/
theorem scopeFor_same_of_finish {a : ScopeAnswers} {blank : ScopeCache} {past : List (Site H)}
    (ha : a.Of c) (hfiles : c.KeepsFiles) (hs : s.cache.Sound c a blank past)
    (file : Option FileRef) (flavor : Flavor)
    (hreturn : NeverReturns c.stamp (scopeVisits c file flavor s ++ s.site :: past))
    (hfinish : Agree c.stamp projectSources (scopeFor c file flavor s).2.site s.site) :
    (scopeFor c file flavor s).1.same (a.scopeFor blank c file flavor s.site) = true := by
  have hquestions := questioned_scopeFor (c := c) s file flavor
  refine (scopeFor_spec ha hs file flavor hreturn).1 fun f _ visit hvisit d hd => ?_
  rcases List.mem_cons.mp hd with rfl | hproject
  · exact (hquestions.keeps (f := fun site => c.stamp site (.file f))
      (fun _ _ hnoted => congrFun (hnoted.stamp_eq c) (.file f))
      fun site visit hasks => hfiles site visit hasks f).2 visit hvisit
  · exact hquestions.still_of_finish hreturn (hfinish d hproject) visit hvisit

end ScopeState

end SchemaEngine
