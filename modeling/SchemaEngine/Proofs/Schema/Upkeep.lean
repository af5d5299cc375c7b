import SchemaEngine.Proofs.Schema.Depth
import SchemaEngine.Proofs.Scope.Questions

/-!
# What the evaluation of a call keeps

A relation that leads from a state to what any part of an evaluation makes of it leads through the
whole evaluation, with all calls that are asked for in it. Two such relations tell how many builds
an evaluation has begun: the number of the last build only grows, and it grows by as much as any
count of how often definitions are collected.

## Main definitions

* `Collaborators.Upholds`: a relation leads through the parts of every evaluation.
* `Collaborators.Tallies`: a count of how often definitions are collected.

## Main results

* `SchemaState.upheld_build`, `SchemaState.upheld_schemaFor`: it leads through builds and calls.
* `SchemaState.lastBuildId_lt_of_misses`: a call that finds nothing begins a build.
* `SchemaState.upholdsCalls_tallied`: as many builds begin as definitions are collected.
-/

set_option autoImplicit false

namespace SchemaEngine

variable {H R : Type}

/-- Whatever a turn is told, a relation leads on from the state in which it is told. -/
def Turn.Upholds (rel : SchemaState H → SchemaState H → Prop) : BuildTurn H R → Prop
  | .done _ _ => True
  | .ask _ _ resume => ∀ s answer,
      rel s (s.withSite (resume s.site answer).state) ∧ (resume s.site answer).Upholds rel

/-- A relation leads through the parts of every evaluation, after a build was begun. -/
structure Collaborators.Upholds (c : Collaborators H)
    (rel : SchemaState H → SchemaState H → Prop) : Prop where
  refl : ∀ s, rel s s
  trans : ∀ {s t u}, rel s t → rel t u → rel s u
  note : ∀ entry s, rel s (s.note entry)
  registry : ∀ context site, (c.registryInfo context site).Upholds rel
  checking : ∀ schema s, rel s (s.withSite (c.validate schema s.site).state)
  validation : ∀ schema site, (c.validate schema site).Upholds rel
  publish : ∀ map scope info s,
    rel s { s with schemas := (s.schemas.publish map scope info).2 }

/-- A relation leads to the beginning of every build, too. -/
structure Collaborators.UpholdsCalls (c : Collaborators H)
    (rel : SchemaState H → SchemaState H → Prop) : Prop extends c.Upholds rel where
  resolve : ∀ context s, rel s (s.resolveScope c context).2
  enter : ∀ s, rel s (s.currentMap c).2
  begin : ∀ context s, rel s (s.numbered.withSite (c.registryInfo context s.site).state)

namespace SchemaState

variable {c : Collaborators H} {rel : SchemaState H → SchemaState H → Prop} {nested : Nested H}
  {context : Option FileRef} {scope : Scope} {first s t : SchemaState H}

/-! ### Turns, builds and calls -/

/-- A relation leads through a turn if it leads through the calls that are asked for in it. -/
theorem upheld_run? (htrans : ∀ {s t u}, rel s t → rel t u → rel s u)
    (hnested : ∀ context s answer t, nested context s = some (answer, t) → rel s t)
    {turn : BuildTurn H R} (hturn : turn.Upholds rel) {result : Except BuildError R} :
    ∀ s : SchemaState H, rel first (s.withSite turn.state) →
      turn.run? (answering nested) (s.schemas, s.scopes.cache) =
        some (result, t.site, t.schemas, t.scopes.cache) → rel first t := by
  induction turn with
  | done state told =>
    intro s hfirst hrun
    simp only [Turn.run?, Option.some.injEq, Prod.mk.injEq] at hrun
    obtain ⟨-, hsite, hschemas, hcache⟩ := hrun
    have ht : t = s.withSite state := eq_of_parts hschemas.symm hcache.symm hsite.symm
    exact ht ▸ hfirst
  | ask state question resume ih =>
    intro s hfirst hrun
    simp only [Turn.run?, answering] at hrun
    cases hanswer : nested question (s.withSite state) with
    | none =>
      have hnone : nested question ⟨s.schemas, ⟨s.scopes.cache, state⟩⟩ = none := hanswer
      simp only [hnone] at hrun
      cases hrun
    | some told =>
      obtain ⟨answer, s'⟩ := told
      have htold : nested question ⟨s.schemas, ⟨s.scopes.cache, state⟩⟩ = some (answer, s') :=
        hanswer
      simp only [htold] at hrun
      obtain ⟨hresumed, hrest⟩ := hturn s' answer
      exact ih s'.site answer hrest s'
        (htrans (htrans hfirst (hnested question _ answer s' hanswer)) hresumed) hrun

theorem upheld_runStep (htrans : ∀ {s t u}, rel s t → rel t u → rel s u)
    (hnested : ∀ context s answer t, nested context s = some (answer, t) → rel s t)
    {step : Site H → BuildTurn H R} (hturn : (step s.site).Upholds rel)
    {result : Except BuildError R} (hstep : runStep nested step s = some (result, t))
    (hfirst : rel first (s.withSite (step s.site).state)) : rel first t :=
  upheld_run? htrans hnested hturn s hfirst (run?_of_runStep hstep)

theorem upheld_assemble (hc : c.Upholds rel)
    (hnested : ∀ context s answer t, nested context s = some (answer, t) → rel s t)
    {registry : Registry} {result : Except BuildError (Schema × List SchemaError)}
    (h : assemble c nested registry s = some (result, t)) (hfirst : rel first s) :
    rel first t := by
  unfold assemble at h
  split at h
  · cases h
    exact hfirst
  · rename_i schema hschema
    have hchecked := hc.trans hfirst (hc.checking schema s)
    split at h <;> cases h
    all_goals
      rename_i hstep
      exact upheld_runStep hc.trans hnested (hc.validation schema s.site) hstep hchecked

/-- A relation leads from the beginning of a build through the build. -/
theorem upheld_build (hc : c.Upholds rel)
    (hnested : ∀ context s answer t, nested context s = some (answer, t) → rel s t)
    {result : Except Cancelled SchemaInfo} (h : build c nested context scope s = some (result, t))
    (hfirst : rel first (s.numbered.withSite (c.registryInfo context s.site).state)) :
    rel first t := by
  have hcollected : ∀ outcome u,
      runStep nested (c.registryInfo context) s.numbered = some (outcome, u) → rel first u :=
    fun outcome u hstep =>
      upheld_runStep hc.trans hnested (hc.registry context s.numbered.site) hstep hfirst
  simp only [build] at h
  split at h
  · cases h
  · rename_i hstep
    cases h
    exact hcollected _ _ hstep
  · rename_i hstep
    cases h
    exact hc.trans (hcollected _ _ hstep) (hc.note _ _)
  · rename_i registry u hstep
    have hu := hcollected _ _ hstep
    split at h <;> cases h
    all_goals
      rename_i hassemble
      have hassembled := upheld_assemble hc hnested hassemble hu
    · exact hassembled
    · exact hc.trans (hc.trans hassembled (hc.note _ _)) (hc.note _ _)
    · exact hc.trans hassembled (hc.note _ _)

/-- A relation leads through a call, with all calls that are asked for in it. -/
theorem upheld_schemaFor (hc : c.UpholdsCalls rel) {depth : Nat} :
    ∀ context s result t, schemaFor c depth context s = some (result, t) → rel s t := by
  induction depth with
  | zero => exact fun _ _ _ _ h => by cases h
  | succ depth ih =>
    intro context s result t h
    have hentered := hc.trans (hc.resolve context s) (hc.enter (s.resolveScope c context).2)
    simp only [schemaFor] at h
    split at h
    · cases h
      exact hentered
    · have hbuilt : ∀ outcome u,
          build c (schemaFor c depth) context (s.resolveScope c context).1
            ((s.resolveScope c context).2.currentMap c).2 = some (outcome, u) → rel s u :=
        fun outcome u hbuild =>
          upheld_build hc.toUpholds ih hbuild (hc.trans hentered (hc.begin context _))
      split at h
      · cases h
      · rename_i hbuild
        cases h
        exact hbuilt _ _ hbuild
      · rename_i hbuild
        cases h
        exact hc.trans (hbuilt _ _ hbuild) (hc.publish _ _ _ _)

/-! ### A call that finds nothing -/

/-- The state in which a call has resolved its scope and entered the current map. -/
def opened (c : Collaborators H) (context : Option FileRef) (s : SchemaState H) : SchemaState H :=
  ((s.resolveScope c context).2.currentMap c).2

/-- The current map holds nothing for the scope of a call. -/
def Misses (c : Collaborators H) (context : Option FileRef) (s : SchemaState H) : Prop :=
  (s.opened c context).schemas.lookup? ((s.resolveScope c context).2.currentMap c).1
    (s.resolveScope c context).1 = none

/-- A map that is begun is empty. -/
theorem misses_of_stale (hstale : (s.resolveScope c context).2.freshMap c = none) :
    s.Misses c context := by
  have hmap : (s.resolveScope c context).2.currentMap c = _ :=
    Place.get_of_stale (mapPlace c) startMap _ hstale
  simp only [Misses, opened, hmap, SchemaCache.lookup?, SchemaCache.entries]
  simp [startMap, mapPlace, note, withSite, SchemaCache.find?]

/-- A call that finds nothing begins a build, and whatever leads through builds leads from there to
its end. -/
theorem upheld_of_misses (hc : c.Upholds rel) {depth : Nat}
    (hnested : ∀ context s answer t, schemaFor c (depth - 1) context s = some (answer, t) → rel s t)
    (hmiss : s.Misses c context) {result : Except Cancelled SchemaInfo}
    (h : schemaFor c depth context s = some (result, t)) :
    rel ((s.opened c context).numbered.withSite
      (c.registryInfo context (s.opened c context).site).state) t := by
  cases depth with
  | zero => cases h
  | succ depth =>
    have hnone : ((s.resolveScope c context).2.currentMap c).2.schemas.lookup?
        ((s.resolveScope c context).2.currentMap c).1 (s.resolveScope c context).1 = none := hmiss
    have hbuilt : ∀ outcome u,
        build c (schemaFor c depth) context (s.resolveScope c context).1 (s.opened c context) =
            some (outcome, u) →
          rel ((s.opened c context).numbered.withSite
            (c.registryInfo context (s.opened c context).site).state) u :=
      fun outcome u hbuild => upheld_build hc hnested hbuild (hc.refl _)
    simp only [schemaFor, hnone] at h
    split at h
    · cases h
    · rename_i hbuild
      cases h
      exact hbuilt _ _ hbuild
    · rename_i hbuild
      cases h
      exact hc.trans (hbuilt _ _ hbuild) (hc.publish _ _ _ _)

/-! ### The number of the last build -/

/-- Whatever holds wherever the site alone changes leads through every turn. -/
theorem upholds_turn (hsite : ∀ (s : SchemaState H) site, rel s (s.withSite site))
    (turn : BuildTurn H R) : turn.Upholds rel := by
  induction turn with
  | done => trivial
  | ask state question resume ih => exact fun s answer => ⟨hsite s _, ih s.site answer⟩

/-- The number of the last build never goes back. -/
theorem upholdsCalls_lastBuildId :
    c.UpholdsCalls fun s t => s.schemas.lastBuildId ≤ t.schemas.lastBuildId where
  refl _ := Nat.le_refl _
  trans := Nat.le_trans
  note _ _ := Nat.le_refl _
  registry _ _ := upholds_turn (fun _ _ => Nat.le_refl _) _
  checking _ _ := Nat.le_refl _
  validation _ _ := upholds_turn (fun _ _ => Nat.le_refl _) _
  publish map scope info s :=
    Nat.le_of_eq (SchemaCache.publish_same map scope info s.schemas).2.1.symm
  resolve _ _ := Nat.le_refl _
  enter s := Nat.le_of_eq (currentMap_same s).1.symm
  begin _ _ := Nat.le_succ _

/-- A call that finds nothing raises the number of the last build. -/
theorem lastBuildId_lt_of_misses (hmiss : s.Misses c context) {depth : Nat}
    {result : Except Cancelled SchemaInfo} (h : schemaFor c depth context s = some (result, t)) :
    s.schemas.lastBuildId < t.schemas.lastBuildId := by
  have hcalls := upholdsCalls_lastBuildId (c := c)
  have hbegun := upheld_of_misses hcalls.toUpholds
    (fun context s result t => upheld_schemaFor hcalls context s result t) hmiss h
  have hopened : (s.opened c context).schemas.lastBuildId = s.schemas.lastBuildId :=
    (currentMap_same _).1
  calc s.schemas.lastBuildId < (s.opened c context).schemas.lastBuildId + 1 :=
        Nat.lt_succ_of_le (Nat.le_of_eq hopened.symm)
    _ ≤ t.schemas.lastBuildId := hbegun

/-- While nobody asks for a schema in a build, no other build begins. -/
theorem upholds_lastBuildId_eq :
    c.Upholds fun s t => t.schemas.lastBuildId = s.schemas.lastBuildId where
  refl _ := rfl
  trans h h' := h'.trans h
  note _ _ := rfl
  registry _ _ := upholds_turn (fun _ _ => rfl) _
  checking _ _ := rfl
  validation _ _ := upholds_turn (fun _ _ => rfl) _
  publish map scope info s := (SchemaCache.publish_same map scope info s.schemas).2.1

/-- A call that finds nothing begins one build if nobody asks for a schema in a build. -/
theorem lastBuildId_of_misses (hc : c.Descends fun _ => 0) (hmiss : s.Misses c context)
    {depth : Nat} {result : Except Cancelled SchemaInfo}
    (h : schemaFor c depth context s = some (result, t)) :
    t.schemas.lastBuildId = s.schemas.lastBuildId + 1 := by
  -- No calls nest, so the call is answered at the first depth already, and in the same way.
  obtain ⟨result', t', hanswer⟩ := schemaFor_answers hc context s
  have hfirst := hanswer 1 Nat.one_pos
  have hsame := (schemaFor_extends c (Nat.le_max_left depth 1) context s _ h).symm.trans
    (schemaFor_extends c (Nat.le_max_right depth 1) context s _ hfirst)
  cases hsame
  have hbegun := upheld_of_misses upholds_lastBuildId_eq (fun _ _ _ _ h => by cases h) hmiss hfirst
  have hopened : (s.opened c context).schemas.lastBuildId = s.schemas.lastBuildId :=
    (currentMap_same _).1
  exact hbegun.trans (congrArg (· + 1) hopened)

end SchemaState

/-! ### A count of collections -/

/-- A count is the same whenever a turn goes on as when it was interrupted. -/
def Turn.KeepsCount {σ Q A : Type} (count : σ → Nat) : Turn σ Q A R → Prop
  | .done _ _ => True
  | .ask _ _ resume => ∀ state answer,
      count (resume state answer).state = count state ∧ (resume state answer).KeepsCount count

/-- A count of the host goes up by one when definitions begin to be collected, and no other work of
the collaborators changes it. -/
structure Collaborators.Tallies (c : Collaborators H) (tally : H → Nat) : Prop where
  config : ∀ file site, tally (c.resolver.projectConfig file site).2.host = tally site.host
  hasConfigFiles : ∀ site, tally (c.resolver.hasConfigFiles site).2.host = tally site.host
  libraries : ∀ site, tally (c.libraries site).2.host = tally site.host
  registry : ∀ context site,
    tally (c.registryInfo context site).state.host = tally site.host + 1
  collecting : ∀ context site, (c.registryInfo context site).KeepsCount fun site => tally site.host
  validate : ∀ schema site, tally (c.validate schema site).state.host = tally site.host
  checking : ∀ schema site, (c.validate schema site).KeepsCount fun site => tally site.host

/-- A call for a scope leaves a count of collections alone, like the questions in it. -/
theorem ScopeState.tally_scopeFor {c : Collaborators H} {tally : H → Nat} (hc : c.Tallies tally)
    (file : Option FileRef) (flavor : Flavor) (s : ScopeState H) :
    tally (scopeFor c file flavor s).2.site.host = tally s.site.host := by
  refine ((questioned_scopeFor s file flavor).keeps (f := fun site => tally site.host)
    (fun _ _ hnoted => congrArg tally hnoted.2) ?_).1
  intro site visit hasks
  cases hasks with
  | config file site => exact hc.config file site
  | hasConfigFiles site => exact hc.hasConfigFiles site
  | libraries site => exact hc.libraries site

namespace SchemaState

variable {c : Collaborators H} {tally : H → Nat}

/-- As many builds have begun from one state to another as definitions were collected. -/
def Tallied (tally : H → Nat) (s t : SchemaState H) : Prop :=
  tally t.site.host + s.schemas.lastBuildId = tally s.site.host + t.schemas.lastBuildId

theorem tallied_of_same {s t : SchemaState H} (htally : tally t.site.host = tally s.site.host)
    (hlast : t.schemas.lastBuildId = s.schemas.lastBuildId) : Tallied tally s t := by
  rw [Tallied, htally, hlast]

theorem upholds_tallied_turn {turn : BuildTurn H R}
    (h : turn.KeepsCount fun site => tally site.host) : turn.Upholds (Tallied tally) := by
  induction turn with
  | done => trivial
  | ask state question resume ih =>
    intro s answer
    obtain ⟨hcount, hrest⟩ := h s.site answer
    exact ⟨tallied_of_same hcount rfl, ih s.site answer hrest⟩

/-- Every evaluation begins as many builds as definitions are collected in it. -/
theorem upholdsCalls_tallied (hc : c.Tallies tally) : c.UpholdsCalls (Tallied tally) where
  refl _ := rfl
  trans h h' := by
    unfold Tallied at h h' ⊢
    omega
  note _ _ := rfl
  registry context site := upholds_tallied_turn (hc.collecting context site)
  checking schema s := tallied_of_same (hc.validate schema s.site) rfl
  validation schema site := upholds_tallied_turn (hc.checking schema site)
  publish map scope info s :=
    tallied_of_same rfl (SchemaCache.publish_same map scope info s.schemas).2.1
  resolve context s :=
    tallied_of_same (ScopeState.tally_scopeFor hc context .resolve s.scopes) rfl
  enter s := tallied_of_same (congrArg tally (currentMap_same s).2.2) (currentMap_same s).1
  begin context s := by
    have hraised := hc.registry context s.site
    change tally (c.registryInfo context s.site).state.host + s.schemas.lastBuildId =
      tally s.site.host + (s.schemas.lastBuildId + 1)
    omega

end SchemaState

end SchemaEngine
