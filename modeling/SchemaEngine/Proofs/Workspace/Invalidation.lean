import SchemaEngine.Proofs.Change.Batches
import SchemaEngine.Proofs.Schema.Freshness
import SchemaEngine.Proofs.Schema.Upkeep
import SchemaEngine.Proofs.Workspace.Lifetime
import SchemaEngine.Workspace.Basic

/-!
# What a batch of file events invalidates

A batch that bears on what is kept leaves nothing of it: the next call for a schema builds, every
later call gets what was begun after the batch, and every scope is computed anew. A batch that does
not bear on it leaves all of it: what was fresh is served again, and nobody is asked.

## Main definitions

* `Engine.freshScope?`: the scope that is kept for a file, if it is fresh.
* `Lifetime.batch`: a batch of file events is taken in.
* `Lifetime.Evaluates`: a call for a schema is evaluated in a stretch of the lifetime.
* `Lifetime.Invalidated`, `Lifetime.Preserved`: what becomes of all that is kept.

## Main results

* `Lifetime.misses_of_advanced`: after an advance the first call finds nothing.
* `Lifetime.recomputed_of_advanced`: after an advance the first lookup computes.
* `Engine.schemaFor_of_fresh`: a call for what is kept and fresh.
* `Lifetime.exists_evaluates`: every call is evaluated in a stretch of the lifetime.
* `invalidation_exact`: all of it, for every batch in every state.
-/

set_option autoImplicit false

namespace SchemaEngine

variable {J H : Type} {c : Collaborators H} {jobs : HostJobs J H}

/-! ### What is kept and fresh is served -/

namespace Engine

variable {engine : Engine J H} {file context : Option FileRef} {flavor : Flavor} {scope : Scope}

/-- The scope that is kept for a file, if it is fresh. Where no file is given there is nothing to
keep. -/
def freshScope? (c : Collaborators H) (file : Option FileRef) (flavor : Flavor)
    (engine : Engine J H) : Option Scope :=
  match file with
  | none => some .empty
  | some file => (engine.scopes.cell? file flavor).bind (·.peek (c.stamp engine.site))

theorem scopeFor_of_fresh (h : engine.freshScope? c file flavor = some scope) :
    engine.scopeState.scopeFor c file flavor = (scope, engine.scopeState) := by
  cases file with
  | none =>
    obtain rfl := Option.some.inj h
    rfl
  | some file =>
    obtain ⟨cell, hcell, hpeek⟩ := Option.bind_eq_some_iff.mp h
    exact ScopeCache.Serves.served ⟨cell, hcell, hpeek⟩

/-- A lookup of the scope of a file computes it: it has the outcome of the computation, and asks
whoever is asked in that. -/
def Computes (c : Collaborators H) (file : FileRef) (flavor : Flavor) (engine : Engine J H) :
    Prop :=
  let computed := ScopeState.compute c file flavor
    ⟨engine.scopes.ensure file flavor, engine.site⟩
  (engine.scopeFor c (some file) flavor).1 = computed.1 ∧
    (engine.scopeFor c (some file) flavor).2.site.host = computed.2.site.host

/-- A call for a schema that is kept in a fresh map, for a scope that is fresh. -/
theorem schemaFor_of_fresh (hscope : engine.freshScope? c context .resolve = some scope)
    {map : Nat} (hmap : engine.schemaState.freshMap c = some map) {info : SchemaInfo}
    (hinfo : engine.schemas.lookup? map scope = some info) (depth : Nat) :
    engine.schemaFor c (depth + 1) context = some (.ok info, engine) := by
  have hresolve : engine.schemaState.resolveScope c context = (scope, engine.schemaState) := by
    have hscopes := scopeFor_of_fresh hscope
    simp only [SchemaState.resolveScope, schemaState, hscopes]
  have hcurrent : engine.schemaState.currentMap c = (map, engine.schemaState) :=
    Place.get_of_fresh (SchemaState.mapPlace c) SchemaState.startMap engine.schemaState hmap
  have hfound : engine.schemaState.schemas.lookup? map scope = some info := hinfo
  have hcall : engine.schemaState.schemaFor c (depth + 1) context =
      some (.ok info, engine.schemaState) := by
    simp only [SchemaState.schemaFor, hresolve, hcurrent, hfound]
  simp only [schemaFor, hcall]
  rfl

end Engine

namespace Lifetime

variable {t u v : Lifetime J H} {base : Stamp} {events : List FileEvent}

/-- A batch of file events is taken in. -/
def batch (c : Collaborators H) (events : List FileEvent) (t : Lifetime J H) : Lifetime J H :=
  t.goOn c (t.engine.filesChanged c events).2

theorem step_batch (events : List FileEvent) : Step c jobs t (t.batch c events) :=
  .make (.filesChanged events) rfl

theorem elapsed_batch (hc : c.MovesOnReload) (h : t.engine.watcherState.Bears c events) :
    t.elapsed < (t.batch c events).elapsed :=
  Nat.lt_add_of_pos_right (WatcherState.advance_of_bears hc h)

/-! ### After an advance -/

/-- The first call after an advance finds nothing, whatever its context. -/
theorem misses_of_advanced (h : t.Sound c base) (hrun : Run c jobs t u)
    (hadvanced : t.elapsed < u.elapsed)
    (hcalls : u.dialogue.exchanges.length = t.dialogue.exchanges.length)
    {context : Option FileRef} (hbound : (u.dialogue.resolved c context).elapsed < 2 ^ 64) :
    u.dialogue.state.Misses c context := by
  have hlater : u.elapsed ≤ (u.dialogue.resolved c context).elapsed := Nat.le_add_right _ _
  obtain ⟨births', hu⟩ := (hrun.sound h (Nat.lt_of_le_of_lt hlater hbound)).traffic
  obtain ⟨births, ht⟩ := h.traffic
  have hmaps := hrun.sameMaps.2 hcalls
  have hresolved : (u.dialogue.resolved c context).state.Counted c base births'
      (u.dialogue.resolved c context).elapsed :=
    hu.counted.of_same (t := (u.dialogue.resolved c context).state) rfl rfl
  -- The maps are those from before the advance, and none of them is fresh any more.
  have hcounted : (u.dialogue.resolved c context).state.Counted c base births
      (u.dialogue.resolved c context).elapsed :=
    { stamp := hresolved.stamp
      length := hmaps.length.trans ht.counted.length
      born := fun birth hbirth => Nat.le_trans (ht.counted.born birth hbirth)
        (Nat.le_of_lt (Nat.lt_of_lt_of_le hadvanced hlater))
      dependencies := hmaps.current ▸ ht.counted.dependencies
      current := hmaps.current ▸ ht.counted.current }
  refine SchemaState.misses_of_stale ?_
  cases hpeek : (u.dialogue.state.resolveScope c context).2.freshMap c with
  | none => rfl
  | some map =>
    have hfresh := hcounted.fresh_of_peek hbound hpeek
    have hborn := ht.counted.born _ (List.mem_of_getElem? hfresh)
    exact absurd (Nat.lt_of_lt_of_le hadvanced hlater) (Nat.not_lt.mpr hborn)

/-- Steps of the calls for schemas are steps of the workspace. -/
theorem run_of_dialogue {d : Dialogue H} (h : Dialogue.Run c t.dialogue d) :
    ∃ lookups, Run c jobs t { t with dialogue := d, lookups := lookups } := by
  induction h with
  | here => exact ⟨t.lookups, .here⟩
  | step _ hstep ih =>
    obtain ⟨lookups, hrun⟩ := ih
    exact ⟨_, hrun.step (.call hstep)⟩

/-- A call for a schema is evaluated in a stretch of the lifetime of the workspace, in which nothing
happens but the evaluation. -/
structure Evaluates (c : Collaborators H) (jobs : HostJobs J H) (depth : Nat)
    (context : Option FileRef) (result : Except Cancelled SchemaInfo) (engine : Engine J H)
    (t u : Lifetime J H) : Prop where
  run : Run c jobs t u
  evaluated : Dialogue.evaluate c depth context t.dialogue = some (result, u.dialogue)
  reached : u.engine = engine
  call : u.dialogue.exchanges[t.dialogue.exchanges.length]? =
    some (t.dialogue.exchange context (.ended result u.elapsed))

/-- Every call for a schema is evaluated in a stretch of the lifetime. -/
theorem exists_evaluates (jobs : HostJobs J H) {depth : Nat} {context : Option FileRef}
    {result : Except Cancelled SchemaInfo} {engine : Engine J H}
    (h : t.engine.schemaFor c depth context = some (result, engine)) :
    ∃ u, Evaluates c jobs depth context result engine t u := by
  unfold Engine.schemaFor at h
  split at h <;> cases h
  rename_i s hcall
  obtain ⟨d, heval, htold⟩ := Dialogue.exists_told (t := t.dialogue) hcall
  obtain ⟨lookups, hrun⟩ : ∃ lookups, Run c jobs t { t with dialogue := d, lookups := lookups } :=
    run_of_dialogue htold.reaches.run
  obtain rfl : d.state = s := htold.state
  exact ⟨_, hrun, heval, rfl, htold.call⟩

/-- What a call ends with that begins after an advance was begun after it. -/
theorem Run.began_after (hrun : Run c jobs t u) (h : t.Sound c base)
    (hadvanced : t.elapsed < u.elapsed) (hlater : Run c jobs u v) (hbound : v.elapsed < 2 ^ 64)
    {k : Nat} (hk : u.dialogue.exchanges.length ≤ k) {exchange : Exchange H}
    (hexchange : v.dialogue.exchanges[k]? = some exchange) {info : SchemaInfo} {closed : Nat}
    (hended : exchange.stage = .ended (.ok info) closed) :
    t.dialogue.traffic.BuiltSince v.dialogue.traffic info := by
  obtain ⟨births, ht⟩ := h.traffic
  have hstage : v.dialogue.stage? k = some (.ended (.ok info) closed) := by
    rw [Dialogue.stage?, hexchange, Option.map_some, hended]
  have hcalls : u.dialogue.traffic.calls.length ≤ k := by
    rwa [Dialogue.length_traffic]
  exact hrun.traffic.began_after ht hadvanced hlater.traffic hbound hcalls
    (Dialogue.progress?_traffic hstage)

/-- The scope of a file that was not looked up since the last advance is computed. -/
theorem recomputed_of_advanced (h : t.Sound c base) (hrun : Run c jobs t u)
    (hadvanced : t.elapsed < u.elapsed) (hbound : u.elapsed < 2 ^ 64) {file : FileRef}
    {flavor : Flavor} {since : List Lookup} (hlookups : u.lookups = since ++ t.lookups)
    (hnone : ∀ lookup ∈ since, ¬ (lookup.file.same file = true ∧ lookup.flavor = flavor)) :
    u.engine.Computes c file flavor := by
  let ensured : ScopeState H := ⟨u.engine.scopes.ensure file flavor, u.engine.site⟩
  have hu := hrun.sound h hbound
  have hstale : ((ScopeState.filePlace c file flavor).cell ensured).peek
      (c.stamp u.engine.site) = none := by
    refine (hu.dated.ensure.cellDated file flavor).peek_eq_none hu.stamp hbound ?_
    intro lookup hlookup hfile hflavor
    rw [hlookups] at hlookup
    rcases List.mem_append.mp hlookup with hsince | hbefore
    · exact absurd ⟨hfile, hflavor⟩ (hnone lookup hsince)
    · exact Nat.lt_of_le_of_lt (h.lookups lookup hbefore) hadvanced
  obtain ⟨entry, hfilled⟩ := ScopeState.scopeFor_of_stale (s := u.engine.scopeState) hstale
  change (u.engine.scopeState.scopeFor c (some file) flavor).1 = _ ∧
    (u.engine.scopeState.scopeFor c (some file) flavor).2.site.host = _
  rw [hfilled]
  exact ⟨rfl, rfl⟩

/-! ### Invalidation -/

/-- A call for a schema is evaluated by building: with a number above all earlier ones, and with
definitions collected once for each build that begins in it, which is a single one unless somebody
asks for schemas in builds. -/
structure BuildsAnew (c : Collaborators H) (jobs : HostJobs J H) (t : Lifetime J H) (depth : Nat)
    (context : Option FileRef) (result : Except Cancelled SchemaInfo) (engine : Engine J H) :
    Prop where
  begun : t.engine.schemas.lastBuildId < engine.schemas.lastBuildId
  tallied : ∀ tally, c.Tallies tally →
    tally engine.site.host + t.engine.schemas.lastBuildId =
      tally t.engine.site.host + engine.schemas.lastBuildId
  single : c.Descends (fun _ => 0) →
    engine.schemas.lastBuildId = t.engine.schemas.lastBuildId + 1
  told : ∃ u, Evaluates c jobs depth context result engine t u ∧
    (u.elapsed < 2 ^ 64 → ∀ info, result = .ok info →
      t.engine.schemas.lastBuildId < info.buildId)

/-- Nothing that was kept before is served after, while the stamps advance by less than 2⁶⁴ in all
from the beginning on. -/
structure Invalidated (c : Collaborators H) (jobs : HostJobs J H) (before after : Lifetime J H) :
    Prop where
  /-- The first call for a schema finds nothing, whatever its context, and builds. -/
  first : ∀ u, Run c jobs after u →
    u.dialogue.exchanges.length = before.dialogue.exchanges.length →
    ∀ context, (u.dialogue.resolved c context).elapsed < 2 ^ 64 →
      u.dialogue.state.Misses c context ∧
        ∀ depth result engine, u.engine.schemaFor c depth context = some (result, engine) →
          u.BuildsAnew c jobs depth context result engine
  /-- Every later call, at whatever moment it is evaluated, comes to a schema whose build began
  after. -/
  served : ∀ u, Run c jobs after u →
    ∀ depth context result engine, u.engine.schemaFor c depth context = some (result, engine) →
      ∃ v, Evaluates c jobs depth context result engine u v ∧
        (v.elapsed < 2 ^ 64 → ∀ info, result = .ok info →
          before.dialogue.traffic.BuiltSince v.dialogue.traffic info)
  /-- So does every later call whose steps are mixed with those of others. -/
  later : ∀ u, Run c jobs after u → u.elapsed < 2 ^ 64 →
    ∀ k exchange info closed, before.dialogue.exchanges.length ≤ k →
      u.dialogue.exchanges[k]? = some exchange → exchange.stage = .ended (.ok info) closed →
        before.dialogue.traffic.BuiltSince u.dialogue.traffic info
  /-- The first lookup of the scope of a file computes it. -/
  computed : ∀ u, Run c jobs after u → u.elapsed < 2 ^ 64 →
    ∀ file flavor since, u.lookups = since ++ before.lookups →
      (∀ lookup ∈ since, ¬ (lookup.file.same file = true ∧ lookup.flavor = flavor)) →
        u.engine.Computes c file flavor

/-- All that was kept before and fresh is served after, and nobody is asked. -/
structure Preserved (c : Collaborators H) (before after : Engine J H) : Prop where
  generation : after.site.generation = before.site.generation
  /-- A scope that was fresh is returned again. -/
  scopes : ∀ file flavor scope, before.freshScope? c file flavor = some scope →
    after.scopeFor c file flavor = (scope, after)
  /-- So is a schema that was kept for a fresh scope in a fresh map. -/
  schemas : ∀ context scope map info, before.freshScope? c context .resolve = some scope →
    before.schemaState.freshMap c = some map → before.schemas.lookup? map scope = some info →
      ∀ depth, after.schemaFor c (depth + 1) context = some (.ok info, after)

/-- What a call comes to that is evaluated after an advance was begun after it. -/
theorem Evaluates.builtSince {depth : Nat} {context : Option FileRef} {info : SchemaInfo}
    {engine : Engine J H} (heval : Evaluates c jobs depth context (.ok info) engine u v)
    (h : t.Sound c base) (hrun : Run c jobs t u) (hadvanced : t.elapsed < u.elapsed)
    (hbound : v.elapsed < 2 ^ 64) : t.dialogue.traffic.BuiltSince v.dialogue.traffic info :=
  hrun.began_after h hadvanced heval.run hbound (Nat.le_refl _) heval.call rfl

/-- The first call after an advance, which finds nothing, builds. -/
theorem buildsAnew_of_misses (h : t.Sound c base) (hrun : Run c jobs t u)
    (hadvanced : t.elapsed < u.elapsed)
    (hcalls : u.dialogue.exchanges.length = t.dialogue.exchanges.length) {depth : Nat}
    {context : Option FileRef} (hmiss : u.dialogue.state.Misses c context)
    {result : Except Cancelled SchemaInfo} {engine : Engine J H}
    (hcall : u.engine.schemaFor c depth context = some (result, engine)) :
    u.BuildsAnew c jobs depth context result engine := by
  obtain ⟨v, hv⟩ := exists_evaluates jobs hcall
  unfold Engine.schemaFor at hcall
  split at hcall <;> cases hcall
  rename_i s heval
  exact
    { begun := SchemaState.lastBuildId_lt_of_misses hmiss heval
      tallied := fun tally htally =>
        SchemaState.upheld_schemaFor (SchemaState.upholdsCalls_tallied htally) _ _ _ _ heval
      single := fun hquiet => SchemaState.lastBuildId_of_misses hquiet hmiss heval
      told := by
        refine ⟨v, hv, ?_⟩
        rintro hlast info rfl
        have hlater := (hv.builtSince h hrun hadvanced hlast).1
        exact (hrun.sameMaps.2 hcalls).lastBuildId ▸ hlater }

/-- A batch that bears on what is kept invalidates it. -/
theorem invalidated_batch (hc : c.MovesOnReload) (hsound : t.elapsed < 2 ^ 64 → t.Sound c base)
    (h : t.engine.watcherState.Bears c events) : Invalidated c jobs t (t.batch c events) := by
  have hadvanced : ∀ {u}, Run c jobs (t.batch c events) u → t.elapsed < u.elapsed :=
    fun hrun => Nat.lt_of_lt_of_le (elapsed_batch hc h) (elapsed_le_of_traffic hrun.traffic)
  have hbatch : Run c jobs t (t.batch c events) := .step .here (step_batch events)
  refine ⟨?first, ?served, ?later, ?computed⟩
  case first =>
    intro u hrun hcalls context hbound
    have hmoved := hadvanced hrun
    have hresolved : u.elapsed ≤ (u.dialogue.resolved c context).elapsed := Nat.le_add_right _ _
    have hbefore := hsound (by omega)
    have hmiss := misses_of_advanced hbefore (hbatch.trans hrun) hmoved hcalls hbound
    exact ⟨hmiss, fun depth result engine hcall =>
      buildsAnew_of_misses hbefore (hbatch.trans hrun) hmoved hcalls hmiss hcall⟩
  case served =>
    intro u hrun depth context result engine hcall
    obtain ⟨v, hv⟩ := exists_evaluates jobs hcall
    refine ⟨v, hv, ?_⟩
    rintro hbound info rfl
    have hlater := elapsed_le_of_traffic hv.run.traffic
    have hmoved := hadvanced hrun
    exact hv.builtSince (hsound (by omega)) (hbatch.trans hrun) hmoved hbound
  case later =>
    intro u hrun hbound k exchange info closed hk hexchange hended
    have hmoved := hadvanced hrun
    have hbefore := hsound (by omega)
    exact hbatch.began_after hbefore (elapsed_batch hc h) hrun hbound hk hexchange hended
  case computed =>
    intro u hrun hbound file flavor since hlookups hnone
    have hmoved := hadvanced hrun
    have hbefore := hsound (by omega)
    exact recomputed_of_advanced hbefore (hbatch.trans hrun) hmoved hbound hlookups hnone

end Lifetime

/-- What moves no stamp leaves what is fresh as it is. -/
theorem Engine.preserved_of_stamp_eq {engine : Engine J H} {site : Site H}
    (h : c.stamp site = c.stamp engine.site) :
    Lifetime.Preserved c engine { engine with site := site } := by
  have hscope : ∀ file flavor,
      ({ engine with site := site } : Engine J H).freshScope? c file flavor =
        engine.freshScope? c file flavor := by
    intro file flavor
    cases file with
    | none => rfl
    | some file => simp only [freshScope?, h]
  have hmap : ({ engine with site := site } : Engine J H).schemaState.freshMap c =
      engine.schemaState.freshMap c := congrArg engine.schemas.current.peek h
  refine ⟨congrFun h .fileStructure, fun file flavor scope hfresh => ?scopes,
    fun context scope map info hfresh hcurrent hinfo depth => ?schemas⟩
  case scopes =>
    rw [← hscope] at hfresh
    simp only [scopeFor, onScopes, scopeFor_of_fresh hfresh]
    rfl
  case schemas =>
    rw [← hscope] at hfresh
    rw [← hmap] at hcurrent
    exact schemaFor_of_fresh hfresh hcurrent hinfo depth

/-- The caches of a workspace that was just set up. -/
theorem Workspace.caches_init {hasRuntime : Bool} {root : Path} {settings : Settings}
    {site : Site H} {workspace : Workspace J H}
    (h : Workspace.init hasRuntime root settings site = .ok workspace) :
    workspace.engine.schemas = { capacity := settings.schemaCacheCapacity } ∧
      workspace.engine.scopes = { root := root, options := settings.scopeOptions root } := by
  unfold init at h
  split at h
  · split at h <;> cases h
    exact ⟨rfl, rfl⟩
  · cases h

open Lifetime in
/-- Invalidation is exact. Whatever a workspace has come to, and whatever batch of file events it
takes in, provided that a reload moves the stamp of the configuration and that looking for
configuration files moves no stamp: if the batch changes which files the project has, or one of its
events bears on the configuration, all that was kept is invalidated; and if not, the batch requests
no reload, and all that was fresh is preserved. A call for a schema comes to an end if only smaller
contexts are asked for in a build. -/
theorem invalidation_exact (hc : c.MovesOnReload) {hasRuntime : Bool} {root : Path}
    {settings : Settings} {site : Site H} {workspace : Workspace J H}
    (hinit : Workspace.init hasRuntime root settings site = .ok workspace) {t : Lifetime J H}
    (ht : Run c jobs (.begin workspace.engine) t) (events : List FileEvent) :
    (t.engine.watcherState.Bears c events → Invalidated c jobs t (t.batch c events)) ∧
      (¬ t.engine.watcherState.Bears c events →
        ∃ after, t.engine.filesChanged c events = (false, after) ∧
          (∀ reload, t.engine.filesChanged (c.withReload reload) events = (false, after)) ∧
          Preserved c t.engine after) ∧
      (∀ rank, c.Descends rank → ∀ (context : Option FileRef) (engine : Engine J H),
        ∃ result after, ∀ depth, rank context < depth →
          engine.schemaFor c depth context = some (result, after)) := by
  obtain ⟨hschemas, hscopes⟩ := Workspace.caches_init hinit
  refine ⟨invalidated_batch hc (ht.sound (sound_begin hschemas hscopes)), fun h => ?preserved,
    fun rank hrank context engine => ?answered⟩
  case preserved =>
    obtain ⟨site', hchanged, hstamps⟩ := WatcherState.filesChanged_of_not_bears hc.looks h
    refine ⟨{ t.engine with site := site' }, ?_, fun reload => ?_,
      Engine.preserved_of_stamp_eq hstamps⟩
    · simp only [Engine.filesChanged, Engine.onWatcher, hchanged]
      rfl
    · simp only [Engine.filesChanged, Engine.onWatcher,
        WatcherState.filesChanged_withReload h reload, hchanged]
      rfl
  case answered =>
    obtain ⟨result, s, hanswers⟩ :=
      SchemaState.schemaFor_answers hrank context engine.schemaState
    exact ⟨result, engine.withSchemas s, fun depth hdepth => by
      simp only [Engine.schemaFor, hanswers depth hdepth]⟩

section Example

open Lifetime

/-- Collaborators without libraries and definitions, who move no stamp but by a reload. -/
def quietCollaborators : Collaborators Stamp :=
  plainCollaborators fun site => ([], site)

theorem movesOnReload_quiet : quietCollaborators.MovesOnReload where
  looks _ _ := rfl
  reload site h := by
    have hone : (1 : Stamp) = 0 := UInt64.left_eq_add.mp h.symm
    exact absurd hone (by decide)

/-- A host that has no jobs. -/
def noJobs : HostJobs Empty Stamp :=
  fun job => nomatch job

/-- A workspace of these collaborators. -/
def quietWorkspace : Workspace Empty Stamp where
  root := ⟨[47]⟩
  settings := {}
  engine := .assemble ⟨[47]⟩ (Settings.scopeOptions {} ⟨[47]⟩) 256 (Settings.watcherOptions {})
    { host := 0, journal := [.workspaceSettings {}, .workspaceReady ⟨[47]⟩] }

theorem init_quiet :
    Workspace.init true ⟨[47]⟩ {} { host := (0 : Stamp) } = .ok quietWorkspace := by
  have hproblem : Settings.problem {} = none := by decide
  simp only [Workspace.init, hproblem]
  rfl

/-- What holds of the state in which a call ends, where only its result was computed. -/
theorem Engine.exists_after {engine : Engine J H} {depth : Nat} {context : Option FileRef}
    {result : Except Cancelled SchemaInfo} {p : Engine J H → Prop}
    (hresult : (engine.schemaFor c depth context).map Prod.fst = some result)
    (h : ∀ after, engine.schemaFor c depth context = some (result, after) → p after) :
    ∃ after, engine.schemaFor c depth context = some (result, after) ∧ p after := by
  obtain ⟨⟨_, after⟩, hcall, rfl⟩ := Option.map_eq_some_iff.mp hresult
  exact ⟨after, hcall, h after hcall⟩

/-- A schema is built; it is still there when its file was edited, and no more when the file is
gone. -/
theorem invalidation_exact_edited_and_deleted :
    ∃ t : Lifetime Empty Stamp, Run quietCollaborators noJobs (.begin quietWorkspace.engine) t ∧
      (∃ after,
        t.engine.filesChanged quietCollaborators [⟨some plainFile, false, .content⟩] =
          (false, after) ∧
        after.schemaFor quietCollaborators 1 (some plainFile) =
          some (.ok (plainInfo 1), after)) ∧
      ∃ after,
        (t.batch quietCollaborators [⟨some plainFile, false, .delete⟩]).engine.schemaFor
          quietCollaborators 1 (some plainFile) = some (.ok (plainInfo 2), after) ∧
        t.engine.schemas.lastBuildId < after.schemas.lastBuildId ∧
        ∃ v : Lifetime Empty Stamp, v.engine = after ∧
          t.dialogue.traffic.BuiltSince v.dialogue.traffic (plainInfo 2) := by
  have hschema : Schema.ofRegistry {} = .ok .empty := by decide
  have hfirst : Run quietCollaborators noJobs (.begin quietWorkspace.engine) _ :=
    .step .here (.call (.miss (some plainFile) (by decide)))
  have hchecked := hfirst.step (.call (.collected 0 _ _ _ _ {} .empty rfl hschema))
  have hended := hchecked.step (.call (.publish 0 _ _ _ _ _ rfl rfl))
  have hexact := invalidation_exact movesOnReload_quiet init_quiet hended
  refine ⟨_, hended, ?edited, ?deleted⟩
  case edited =>
    obtain ⟨after, hchanged, -, hpreserved⟩ :=
      (hexact [⟨some plainFile, false, .content⟩]).2.1 (by decide)
    exact ⟨after, hchanged, hpreserved.schemas (some plainFile) _ 0 (plainInfo 1) rfl rfl rfl 0⟩
  case deleted =>
    have hinvalidated := (hexact [⟨some plainFile, false, .delete⟩]).1 (by decide)
    have hbuilds := (hinvalidated.first _ .here rfl (some plainFile) (by decide)).2 1
    refine Engine.exists_after (by decide +kernel) fun after hcall =>
      ⟨(hbuilds _ _ hcall).begun, ?_⟩
    obtain ⟨v, hv, hserved⟩ := hinvalidated.served _ .here _ _ _ _ hcall
    have hbound : some (decide (v.elapsed < 2 ^ 64)) = some true :=
      (congrArg (·.map fun evaluated => decide (evaluated.2.elapsed < 2 ^ 64))
        hv.evaluated).symm.trans (by decide +kernel)
    exact ⟨v, hv.reached, hserved (of_decide_eq_true (Option.some.inj hbound)) _ rfl⟩

end Example

end SchemaEngine
