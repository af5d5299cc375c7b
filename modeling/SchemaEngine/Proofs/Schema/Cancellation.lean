import SchemaEngine.Proofs.Schema.Standing

/-!
# Builds that are cancelled

A call ends with an error if and only if whoever collects definitions or checks the schema reports
to its own build that it was called off; every other failure is told in the schema. A cancelled
build has taken a number and perhaps begun an empty map, and that is all: it publishes nothing, and
what calls nested in it have published stays.

## Main definitions

* `SchemaState.Reports`: a failure that is reported to a build.
* `Dialogue.BuildsAgain`: a call builds under a number that is new, and its schema is held.

## Main results

* `SchemaState.build_cancelled_iff`, `SchemaState.build_of_reports`: what becomes of a failure.
* `Dialogue.Told.held?_iff_of_cancelled`: what is held after a call that was cancelled.
* `Dialogue.buildsAgain_of_held?_eq_none`: where nothing is held for its scope a call builds again.
* `cancelled_build_leaves_nothing`: all of it.
-/

set_option autoImplicit false

namespace SchemaEngine

/-! ### What is reported to a build -/

namespace SchemaState

variable {H : Type} {c : Collaborators H} {nested : Nested H} {context : Option FileRef}
  {s : SchemaState H} {depth : Nat}

/-- A failure that is reported to a build: by whoever collects the definitions, by the schema that
they should make, or by whoever checks that. -/
inductive Reports (c : Collaborators H) (nested : Nested H) (context : Option FileRef)
    (s : SchemaState H) : BuildError → Prop
  | collecting (e : BuildError) (after : SchemaState H) :
      runStep nested (c.registryInfo context) s.numbered = some (.error e, after) →
        Reports c nested context s e
  | assembling (registry : RegistryInfo) (collected : SchemaState H) (problem : RootProblem) :
      runStep nested (c.registryInfo context) s.numbered = some (.ok registry, collected) →
      Schema.ofRegistry registry.registry = .error problem →
        Reports c nested context s (.internal problem.message)
  | checking (registry : RegistryInfo) (collected : SchemaState H) (schema : Schema)
      (e : BuildError) (after : SchemaState H) :
      runStep nested (c.registryInfo context) s.numbered = some (.ok registry, collected) →
      Schema.ofRegistry registry.registry = .ok schema →
      runStep nested (c.validate schema) collected = some (.error e, after) →
        Reports c nested context s e

/-- A build is cancelled if and only if that is reported to it. -/
theorem build_cancelled_iff (scope : Scope) :
    (∃ after, build c nested context scope s = some (.error .mk, after)) ↔
      Reports c nested context s .cancelled := by
  constructor
  · rintro ⟨after, hbuild⟩
    simp only [build] at hbuild
    split at hbuild
    · cases hbuild
    · rename_i hcollect
      exact .collecting _ _ hcollect
    · cases hbuild
    rename_i registry collected hcollect
    split at hbuild
    · cases hbuild
    · rename_i hassemble
      unfold assemble at hassemble
      split at hassemble
      · cases hassemble
      rename_i schema hschema
      split at hassemble <;> cases hassemble
      rename_i hcheck
      exact .checking registry collected schema _ _ hcollect hschema hcheck
    · cases hbuild
    · cases hbuild
  · intro hreports
    cases hreports with
    | collecting e after hcollect =>
      refine ⟨after, ?_⟩
      simp only [numbered] at hcollect
      simp only [build, hcollect]
    | checking registry collected schema e after hcollect hschema hcheck =>
      refine ⟨after, ?_⟩
      simp only [numbered] at hcollect
      simp only [build, hcollect, assemble, hschema, hcheck]

/-- Any other failure that is reported to a build is told in its schema. -/
theorem build_of_reports (scope : Scope) {message : String}
    (h : Reports c nested context s (.internal message)) :
    ∃ info after, build c nested context scope s = some (.ok info, after) ∧
      info.errors = [.ofBuildError (.internal message)] := by
  cases h with
  | collecting e after hcollect =>
    simp only [numbered] at hcollect
    simp only [build, hcollect]
    exact ⟨_, _, rfl, rfl⟩
  | assembling registry collected problem hcollect hproblem =>
    simp only [numbered] at hcollect
    simp only [build, hcollect, assemble, hproblem]
    exact ⟨_, _, rfl, rfl⟩
  | checking registry collected schema e after hcollect hschema hcheck =>
    simp only [numbered] at hcollect
    simp only [build, hcollect, assemble, hschema, hcheck]
    exact ⟨_, _, rfl, rfl⟩

/-- A call that finds nothing ends with an error if and only if its build is cancelled. -/
theorem schemaFor_cancelled_iff (hmiss : s.Misses c context) :
    (∃ after, schemaFor c (depth + 1) context s = some (.error .mk, after)) ↔
      (s.opened c context).Reports c (schemaFor c depth) context .cancelled := by
  have hnone : ((s.resolveScope c context).2.currentMap c).2.schemas.lookup?
      ((s.resolveScope c context).2.currentMap c).1 (s.resolveScope c context).1 = none := hmiss
  rw [← build_cancelled_iff (s.resolveScope c context).1]
  unfold opened
  constructor
  · rintro ⟨after, hcall⟩
    simp only [schemaFor, hnone] at hcall
    split at hcall
    · cases hcall
    · rename_i hbuild
      exact ⟨_, hbuild⟩
    · cases hcall
  · rintro ⟨after, hbuild⟩
    refine ⟨after, ?_⟩
    simp only [schemaFor, hnone, hbuild]

/-- After any other failure a call that finds nothing ends with a schema. -/
theorem schemaFor_of_reports (hmiss : s.Misses c context) {message : String}
    (h : (s.opened c context).Reports c (schemaFor c depth) context (.internal message)) :
    ∃ info after, schemaFor c (depth + 1) context s = some (.ok info, after) := by
  have hnone : ((s.resolveScope c context).2.currentMap c).2.schemas.lookup?
      ((s.resolveScope c context).2.currentMap c).1 (s.resolveScope c context).1 = none := hmiss
  obtain ⟨info, after, hbuild, -⟩ := build_of_reports (s.resolveScope c context).1 h
  unfold opened at hbuild
  simp only [schemaFor, hnone, hbuild]
  exact ⟨_, _, rfl⟩

end SchemaState

/-! ### A call that is cancelled -/

namespace Dialogue

variable {H : Type} {c : Collaborators H} {t u w : Dialogue H} {context : Option FileRef}
  {s : SchemaState H} {scope : Scope} {info : SchemaInfo}

/-- A call that is cancelled has found nothing and begun a build. -/
theorem Told.begun_of_cancelled (h : Told c t context (.error .mk) s u) :
    t.state.Misses c context ∧ Steady c (t.begun c context) u := by
  obtain ⟨v, henters, hsteady⟩ := h.enters
  cases henters with
  | hit info hfound =>
    -- A call that finds a schema has ended with it.
    have hstage : (t.found c context info).stage? t.exchanges.length =
        some (.ended (.ok info) (t.entered c context).elapsed) := by
      rw [stage?, getElem?_found]
      rfl
    have hended := hsteady.run.traffic.ended (progress?_traffic hstage)
    cases hended.symm.trans h.progress?
  | miss hnone => exact ⟨hnone, hsteady⟩

/-- Only calls that are nested in a cancelled one publish during it. -/
theorem Told.published_nested (h : Told c t context (.error .mk) s u)
    (hpublished : Published c t.exchanges.length scope info t u) :
    Published c (t.exchanges.length + 1) scope info t u := by
  obtain ⟨k, hk, map, scope', hsame, hmap⟩ := hpublished
  refine ⟨k, Nat.lt_of_le_of_ne hk ?_, map, scope', hsame, hmap⟩
  rintro rfl
  cases hmap.ended.1.symm.trans h.progress?

/-- If neither stamp moves during a call that is cancelled, what is held at its end was held at its
beginning, or it has been published by a call nested in it. -/
theorem Told.held?_iff_of_cancelled (h : Told c t context (.error .mk) s u)
    (ht : t.traffic.Orderly) (hguarded : t.state.schemas.Guarded)
    (hroom : t.state.schemas.capacity ≠ 0) (hstill : u.elapsed = t.elapsed) :
    u.state.held? c scope = some info ↔ t.state.held? c scope = some info ∨
      Published c (t.exchanges.length + 1) scope info t u := by
  rw [h.held?_iff ht hguarded hroom hstill]
  refine or_congr_right ⟨h.published_nested, ?_⟩
  rintro ⟨k, hk, hrest⟩
  exact ⟨k, Nat.le_of_succ_le hk, hrest⟩

/-- A call builds under a number beyond a given one, and if it ends with a schema, and neither stamp
has moved, that has such a number and is held from then on. -/
structure BuildsAgain (c : Collaborators H) (last : Nat) (context : Option FileRef)
    (t : Dialogue H) : Prop where
  misses : t.state.Misses c context
  number : last < t.number c context
  publishes : ∀ info s u, Told c t context (.ok info) s u → u.elapsed = t.elapsed →
    last < info.buildId ∧ s.held? c (t.scope c context) = some info

/-- The number of the next build is not taken yet. -/
theorem number_eq (c : Collaborators H) (context : Option FileRef) (t : Dialogue H) :
    t.number c context = t.state.schemas.lastBuildId + 1 :=
  congrArg (· + 1) (SchemaState.currentMap_same (t.resolved c context).state).1

/-- Where nothing is held for its scope a call builds, and publishes what it has built. -/
theorem buildsAgain_of_held?_eq_none (ht : t.traffic.Orderly) (hguarded : t.state.schemas.Guarded)
    (hroom : t.state.schemas.capacity ≠ 0)
    (hstill : c.advance t.state.site (t.state.resolveScope c context).2.site = 0)
    (hnone : t.state.held? c (t.scope c context) = none) {last : Nat}
    (hlast : last ≤ t.state.schemas.lastBuildId) : BuildsAgain c last context t where
  misses := (SchemaState.misses_iff_held? hguarded hstill).mpr hnone
  number := number_eq c context t ▸ Nat.lt_succ_of_le hlast
  publishes := by
    intro info s u htold hunmoved
    have hheld := htold.held?_of_ok ht hguarded hroom hunmoved
    refine ⟨?_, htold.state ▸ hheld⟩
    -- What is held now was not held before, so it was published under a new number.
    rcases (htold.held?_iff ht hguarded hroom hunmoved).mp hheld with hbefore | hpublished
    · cases hnone.symm.trans hbefore
    · obtain ⟨k, hk, map, scope', -, hmap⟩ := hpublished
      exact Nat.lt_of_le_of_lt hlast (recent_of_published hmap hguarded hk hunmoved).2

end Dialogue

open Dialogue in
/-- A cancelled build leaves nothing behind. A call that finds nothing ends with an error if and
only if whoever collects definitions or checks the schema reports to its own build that it was
called off; after any other failure it ends with a schema. An evaluation is a stretch of a dialogue
in which nothing happens but the evaluation. In every state of a new cache, once a call is
cancelled, with all calls that are asked for in it:

* what any map held for any scope it holds still;
* if neither stamp has moved that the maps depend on, what is held is exactly what was held before,
  which is nothing where the map was stale, and what has been published by calls nested in this one;
* unless such a call has published for its scope nothing is held for that;
* and as long as no stamp moves and nothing is held for its scope, the same call builds again under
  a larger number, and publishes its schema if it ends with one. -/
theorem cancelled_build_leaves_nothing {H : Type} {c : Collaborators H} {s : SchemaState H}
    {capacity : UInt64} (hs : s.schemas = { capacity := capacity }) :
    (∀ (now : SchemaState H) (depth : Nat) (context : Option FileRef), now.Misses c context →
        ((∃ after, SchemaState.schemaFor c (depth + 1) context now = some (.error .mk, after)) ↔
          (now.opened c context).Reports c (SchemaState.schemaFor c depth) context .cancelled) ∧
        ∀ message, (now.opened c context).Reports c (SchemaState.schemaFor c depth) context
            (.internal message) →
          ∃ info after, SchemaState.schemaFor c (depth + 1) context now = some (.ok info, after)) ∧
      (∀ (t : Dialogue H) (depth : Nat) (context : Option FileRef)
        (result : Except Cancelled SchemaInfo) (after : SchemaState H),
        SchemaState.schemaFor c depth context t.state = some (result, after) →
          ∃ u, evaluate c depth context t = some (result, u) ∧
            Told c t context result after u) ∧
      (∀ (t u : Dialogue H) (context : Option FileRef) (after : SchemaState H),
        Run c { state := s } t → Told c t context (.error .mk) after u →
        (∀ m scope info, t.state.schemas.lookup? m scope = some info →
          after.schemas.lookup? m scope = some info) ∧
        (t.state.schemas.capacity ≠ 0 → u.elapsed = t.elapsed →
          (∀ scope info, after.held? c scope = some info ↔ t.state.held? c scope = some info ∨
            Published c (t.exchanges.length + 1) scope info t u) ∧
          ((∀ info, ¬ Published c (t.exchanges.length + 1) (t.scope c context) info t u) →
            after.held? c (t.scope c context) = none) ∧
          ∀ w, Steady c u w → t.Stands c w → t.state.scopes.cache.options.capacity ≠ 0 →
            w.state.held? c (t.scope c context) = none →
              w.scope c context = t.scope c context ∧
                BuildsAgain c (t.number c context) context w)) := by
  refine ⟨fun now depth context hmiss => ⟨SchemaState.schemaFor_cancelled_iff hmiss,
    fun message => SchemaState.schemaFor_of_reports hmiss⟩,
    fun t depth context result after heval => exists_told heval, ?_⟩
  rintro t u context after hrun htold
  obtain rfl := htold.state
  have hnew : ({ state := s } : Dialogue H).state.schemas.Guarded :=
    hs ▸ SchemaCache.guarded_new capacity
  have horderly : t.traffic.Orderly := hrun.traffic.orderly (Traffic.orderly_new hs)
  have hguarded : t.state.schemas.Guarded := hrun.traffic.guarded hnew
  have hsteady := htold.reaches.steady
  have hlater := hsteady.run.traffic.orderly horderly
  obtain ⟨hmiss, hbegun⟩ := htold.begun_of_cancelled
  refine ⟨fun m scope info => hlater.cache.single.lookup?_of_retains hsteady.retains,
    fun hroom hstill => ?_⟩
  have hheld : ∀ scope info, u.state.held? c scope = some info ↔
      t.state.held? c scope = some info ∨
        Published c (t.exchanges.length + 1) scope info t u :=
    fun scope info => htold.held?_iff_of_cancelled horderly hguarded hroom hstill
  refine ⟨hheld, fun hnot => ?nested, fun w hw hstands hcells hnone => ?again⟩
  case nested =>
    have hadvance := (htold.freshMap hguarded hroom hstill).2
    have hbefore : t.state.held? c (t.scope c context) = none :=
      (SchemaState.misses_iff_held? hguarded hadvance).mp hmiss
    rw [Option.eq_none_iff_forall_ne_some]
    intro info hinfo
    rcases (hheld _ info).mp hinfo with hold | hpublished
    · cases hbefore.symm.trans hold
    · exact hnot info hpublished
  case again =>
    have hresolve : w.state.resolveScope c context = (t.scope c context, w.state) :=
      (Enters.miss hmiss).resolveScope (hbegun.trans hw) hcells hstands
    have hscope : w.scope c context = t.scope c context := by rw [Dialogue.scope, hresolve]
    have hall := hsteady.trans hw
    have hnumber : t.number c context ≤ w.state.schemas.lastBuildId :=
      (hbegun.trans hw).run.traffic.lastBuildId_le
    refine ⟨hscope, buildsAgain_of_held?_eq_none (hall.run.traffic.orderly horderly)
      (hall.run.traffic.guarded hguarded) (hall.retains.capacity ▸ hroom) ?_ (hscope ▸ hnone)
      hnumber⟩
    rw [hresolve]
    exact c.advance_self _

section Example

open Dialogue

/-- Collaborators without configuration. Whoever collects the definitions that are visible from a
file for the first time asks for those that are visible without one, and is called off. -/
def hesitantCollaborators : Collaborators Bool where
  resolver :=
    { stamp := fun _ => 0
      projectConfig := fun _ site => (none, site)
      hasConfigFiles := fun site => (false, site)
      directories := fun _ => []
      configFileIn := fun _ site => (none, site)
      reload := fun site => (.finished, site) }
  files :=
    { isValid := fun _ _ => true
      isDirectory := fun _ _ => false
      isInProject := fun _ _ => true
      stamp := fun _ _ => 0 }
  documents := { fileOf := fun _ _ => none, save := fun _ site => .done site (.ok false) }
  libraries := fun site => ([], site)
  registryInfo := fun context site =>
    if site.host ∧ context.isSome then
      .ask site none fun site _ => .done { site with host := false } (.error .cancelled)
    else .done site (.ok {})
  validate := fun _ site => .done site (.ok [])

/-- New caches, before anybody was called off. -/
def hesitantStart : SchemaState Bool where
  schemas := {}
  scopes := { cache := { root := ⟨[47]⟩ }, site := { host := true } }

/-- The stamps of these collaborators are the generation of the files. -/
theorem stamp_hesitant {site : Site Bool} (h : site.generation = 0) :
    hesitantCollaborators.stamp site = fun _ => 0 := by
  funext d
  cases d with
  | configuration => rfl
  | fileStructure => exact h
  | file => rfl

/-- So nothing moves as long as the generation stays. -/
theorem stands_hesitant {t u : Dialogue Bool} (ht : t.state.site.generation = 0)
    (hstill : u.elapsed = t.elapsed)
    (hmoments : ∀ moment ∈ u.state.site :: u.moments, moment.generation = 0) :
    t.Stands hesitantCollaborators u := by
  refine ⟨hstill, ?_, fun moments hsame moment hmoment => ?_⟩
  · rw [stamp_hesitant ht, stamp_hesitant (hmoments _ (.head _))]
  · have hrecorded : moment ∈ u.moments := hsame ▸ List.mem_append_left _ hmoment
    rw [stamp_hesitant ht, stamp_hesitant (hmoments moment (.tail _ hrecorded))]

/-- A call for a file is called off, after a call that is nested in it has published. -/
theorem told_hesitant :
    ∃ after u, Told hesitantCollaborators { state := hesitantStart } (some plainFile) (.error .mk)
        after u ∧
      u.elapsed = 0 ∧ (∀ moment ∈ u.state.site :: u.moments, moment.generation = 0) ∧
      (after.held? hesitantCollaborators .empty).map (·.buildId) = some 2 ∧
      u.state.held? hesitantCollaborators
        (scope hesitantCollaborators (some plainFile) { state := hesitantStart }) = none ∧
      u.number hesitantCollaborators (some plainFile) = 3 := by
  let c := hesitantCollaborators
  let start : Dialogue Bool := { state := hesitantStart }
  let first : Dialogue Bool := start.begun c (some plainFile)
  have hnext : ∀ {t u : Dialogue Bool}, Reaches c 0 first t → Step c t u → Step c t u :=
    fun _ h => h
  have hschema : Schema.ofRegistry {} = .ok .empty := by decide
  have hmiss := hnext (.refl c 0 first) (.miss none (by decide))
  have hnested := (hmiss.reaches_append rfl (retains_begun c none first)).of_lt (j := 0) (by decide)
  have hcollect := hnext hnested (.collected 1 _ _ _ _ {} .empty rfl hschema)
  have hcollected := hnested.trans
    ((hcollect.reaches_proceed rfl (.of_schemas (.refl _) rfl)).of_lt (by decide))
  have hpublish := hnext hcollected (.publish 1 _ _ _ _ _ rfl rfl)
  have hpublished := hcollected.trans
    ((hpublish.reaches_proceed rfl (.of_schemas (SchemaCache.retains_publish ..) rfl)).of_lt
      (by decide))
  have hresume := hnext hpublished
    (.resume 0 1 _ _ _ _ _ _ _ _ rfl (by decide) rfl rfl (.collecting _ _))
  have hresumed := hpublished.trans (hresume.reaches_proceed rfl (.of_schemas (.refl _) rfl))
  have hcancel := hnext hresumed (.cancel 0 _ _ _ _ rfl rfl)
  have hnone : (start.entered c (some plainFile)).state.schemas.lookup?
      (start.map c (some plainFile)) (start.scope c (some plainFile)) = none := by decide
  have htold := Told.of_begun hnone hresumed hcancel rfl (.refl _)
  exact ⟨_, _, htold, by decide +kernel, by decide +kernel, by decide +kernel,
    Option.isNone_iff_eq_none.mp (by decide +kernel), by decide +kernel⟩

/-- The schema of the nested call is held after the other one was cancelled, and the same call would
build again, under the third number. -/
theorem cancelled_build_leaves_nothing_but_nested :
    ∃ after u, Told hesitantCollaborators { state := hesitantStart } (some plainFile) (.error .mk)
        after u ∧
      (after.held? hesitantCollaborators .empty).map (·.buildId) = some 2 ∧
      BuildsAgain hesitantCollaborators 1 (some plainFile) u ∧
      u.number hesitantCollaborators (some plainFile) = 3 := by
  let start : Dialogue Bool := { state := hesitantStart }
  obtain ⟨after, u, htold, hstill, hmoments, hheld, hnone, hnumber⟩ := told_hesitant
  have hstands : start.Stands hesitantCollaborators u := stands_hesitant rfl hstill hmoments
  have hleft := (cancelled_build_leaves_nothing (c := hesitantCollaborators) (s := hesitantStart)
    rfl).2.2 start u (some plainFile) after .here htold
  obtain ⟨-, hagain⟩ := (hleft.2 (by decide) hstill).2.2 u .here hstands (by decide) hnone
  exact ⟨after, u, htold, hheld, hagain, hnumber⟩

end Example

end SchemaEngine
