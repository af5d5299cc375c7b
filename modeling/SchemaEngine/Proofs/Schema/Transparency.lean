import SchemaEngine.Proofs.Schema.Depth
import SchemaEngine.Proofs.Schema.Freshness
import SchemaEngine.Proofs.Schema.Uncached

/-!
# The cache of schemas is transparent

Whatever moved while earlier schemas were built, and whoever asked for which others meanwhile: a
call during which no stamp moves ends with the schema that a fresh build gives. The scope of a call
is right because the cache of scopes is; the map that it enters was begun at the present advance,
and what is published there without any advance since is right for its scope. What was published
late need not be, but its map is left behind.

## Main definitions

* `Dialogue.EntrySound`, `Dialogue.StageSound`: what is known of entries and of calls.
* `Dialogue.Sound`: the invariant.

## Main results

* `Dialogue.Step.sound`: one step keeps the invariant.
* `Dialogue.Run.sound`: the invariant holds after every run of new caches.
* `schemas_transparent`: a call during which no stamp moves ends with the schema of a fresh build.
-/

set_option autoImplicit false

namespace SchemaEngine

namespace Dialogue

variable {H : Type}

/-! ### The invariant -/

section Invariant

variable (a : SchemaAnswers) (c : Collaborators H) (blank : ScopeCache) (t : Dialogue H)

/-- What is known of an outcome that is kept for a scope: if nothing has advanced since its build
began, it is the schema of the scope. -/
def EntrySound (scope : Scope) (info : SchemaInfo) : Prop :=
  ∃ i build, info.buildId = i + 1 ∧ t.builds[i]? = some build ∧
    (build.began = t.elapsed → .ok info.content = a.schemaOf scope (c.epoch t.state.site))

/-- What is known of a call in its stage: while it builds nothing has gone wrong as long as nothing
advances, and if nothing advanced before it ended it has ended with the visible schema. -/
def StageSound (exchange : Exchange H) : Stage H → Prop
  | .building _ scope number work =>
    scope.same (a.scopeAt c blank exchange.context exchange.start) = true ∧
      (∃ build, t.builds[number - 1]? = some build ∧ build.began = exchange.opened) ∧
      (exchange.opened = t.elapsed →
        c.epoch work.site = c.epoch exchange.start ∧
          work.Right a c blank scope (c.epoch exchange.start))
  | .ended result closed =>
    exchange.opened ≤ closed ∧ closed ≤ t.elapsed ∧
      (closed = exchange.opened → result.map SchemaInfo.content =
        a.visible c blank exchange.context exchange.start)

/-- The invariant of the calls at the caches, with what is asked in them. -/
structure Sound : Prop where
  scopes : t.state.scopes.cache.Sound c a.scopes blank t.moments
  began : ∀ build ∈ t.builds, build.began ≤ t.elapsed
  opened : ∀ exchange ∈ t.exchanges, exchange.opened ≤ t.elapsed
  ordered : t.exchanges.Pairwise fun earlier later => earlier.opened ≤ later.opened
  entries : ∀ m, ∀ entry ∈ t.state.schemas.entries m, t.EntrySound a c entry.scope entry.info
  starts : ∀ exchange ∈ t.exchanges, exchange.opened = t.elapsed →
    c.epoch exchange.start = c.epoch t.state.site
  stages : ∀ exchange ∈ t.exchanges, t.StageSound a c blank exchange exchange.stage

end Invariant

variable {a : SchemaAnswers} {c : Collaborators H} {blank : ScopeCache} {t u : Dialogue H}
  {k map number : Nat} {scope : Scope} {work : Work H} {stage : Stage H} {exchange : Exchange H}
  {info : SchemaInfo} {base : Stamp} {births : List Nat}

/-! ### Time passes -/

/-- What was at the present advance still is if nothing advances, and then the epoch lasts. -/
theorem still_of_moveTo (state : SchemaState H) {e : Nat} (hle : e ≤ t.elapsed)
    (h : e = (t.moveTo c state).elapsed) :
    e = t.elapsed ∧ c.epoch state.site = c.epoch t.state.site := by
  have hzero : c.advance t.state.site state.site = 0 := by
    simp only [moveTo] at h
    omega
  obtain ⟨hconfiguration, hstructure⟩ := c.stamp_eq_of_advance_eq_zero hzero
  refine ⟨by simpa only [moveTo, hzero, Nat.add_zero] using h, ?_⟩
  rw [Collaborators.epoch, Collaborators.epoch, hconfiguration, hstructure]

theorem elapsed_le_moveTo (state : SchemaState H) : t.elapsed ≤ (t.moveTo c state).elapsed :=
  Nat.le_add_right _ _

theorem StageSound.moveTo (h : t.StageSound a c blank exchange stage)
    (hopened : exchange.opened ≤ t.elapsed) (state : SchemaState H) :
    (t.moveTo c state).StageSound a c blank exchange stage := by
  match stage, h with
  | .building map scope number work, ⟨hscope, hbuild, hwork⟩ =>
    exact ⟨hscope, hbuild, fun hnow => hwork (still_of_moveTo state hopened hnow).1⟩
  | .ended result closed, ⟨hle, hclosed, hresult⟩ =>
    exact ⟨hle, Nat.le_trans hclosed (elapsed_le_moveTo state), hresult⟩

/-- Stamps move, and entries and cells are dropped; scopes may be asked for. -/
theorem Sound.moveTo (h : t.Sound a c blank) (state : SchemaState H) {moments : List (Site H)}
    (hentries : ∀ m, state.schemas.entries m ⊆ t.state.schemas.entries m)
    (hscopes : state.scopes.cache.Sound c a.scopes blank moments) :
    ({ t.moveTo c state with moments := moments } : Dialogue H).Sound a c blank where
  scopes := hscopes
  began build hbuild := Nat.le_trans (h.began build hbuild) (elapsed_le_moveTo state)
  opened exchange hexchange :=
    Nat.le_trans (h.opened exchange hexchange) (elapsed_le_moveTo state)
  ordered := h.ordered
  entries m entry hentry := by
    obtain ⟨i, build, hi, hbuild, hright⟩ := h.entries m entry (hentries m hentry)
    refine ⟨i, build, hi, hbuild, fun hnow => ?_⟩
    obtain ⟨hbefore, hepoch⟩ :=
      still_of_moveTo state (h.began build (List.mem_of_getElem? hbuild)) hnow
    rw [hright hbefore, ← hepoch]
    rfl
  starts exchange hexchange hnow := by
    obtain ⟨hbefore, hepoch⟩ := still_of_moveTo state (h.opened exchange hexchange) hnow
    exact (h.starts exchange hexchange hbefore).trans hepoch.symm
  stages exchange hexchange :=
    (h.stages exchange hexchange).moveTo (h.opened exchange hexchange) state

/-! ### Calls come further, and new ones begin -/

theorem pairwise_opened_modify {xs : List (Exchange H)}
    (h : xs.Pairwise fun earlier later => earlier.opened ≤ later.opened) (k : Nat)
    (stage : Stage H) :
    (xs.modify k fun exchange => { exchange with stage := stage }).Pairwise
      fun earlier later => earlier.opened ≤ later.opened := by
  have hopened : (xs.modify k fun exchange => { exchange with stage := stage }).map (·.opened) =
      xs.map (·.opened) := by
    refine List.ext_getElem? fun j => ?_
    simp only [List.getElem?_map, List.getElem?_modify]
    cases xs[j]? with
    | none => rfl
    | some exchange => by_cases hk : k = j <;> simp [hk]
  rw [← List.pairwise_map (f := fun exchange : Exchange H => exchange.opened) (R := (· ≤ ·))] at h ⊢
  rwa [hopened]

/-- A call comes further. -/
theorem Sound.further (h : t.Sound a c blank) (hk : t.exchanges[k]? = some exchange)
    (hstage : t.StageSound a c blank exchange stage) :
    (proceed k stage t).Sound a c blank where
  scopes := h.scopes
  began := h.began
  opened other hother := by
    rcases mem_modify_cases hother with hold | ⟨old, hold, rfl⟩
    · exact h.opened other hold
    · exact h.opened old (List.mem_of_getElem? hold)
  ordered := pairwise_opened_modify h.ordered k stage
  entries := h.entries
  starts other hother := by
    rcases mem_modify_cases hother with hold | ⟨old, hold, rfl⟩
    · exact h.starts other hold
    · exact h.starts old (List.mem_of_getElem? hold)
  stages other hother := by
    rcases mem_modify_cases hother with hold | ⟨old, hold, rfl⟩
    · exact h.stages other hold
    · obtain rfl := Option.some.inj (hk.symm.trans hold)
      exact hstage

/-- A call begins. -/
theorem Sound.append (h : t.Sound a c blank) (exchange : Exchange H)
    (hlast : ∀ old ∈ t.exchanges, old.opened ≤ exchange.opened)
    (hopened : exchange.opened ≤ t.elapsed)
    (hstart : exchange.opened = t.elapsed → c.epoch exchange.start = c.epoch t.state.site)
    (hstage : t.StageSound a c blank exchange exchange.stage) :
    ({ t with exchanges := t.exchanges ++ [exchange] } : Dialogue H).Sound a c blank where
  scopes := h.scopes
  began := h.began
  opened other hother := by
    rcases List.mem_append.mp hother with hold | hnew
    · exact h.opened other hold
    · exact List.mem_singleton.mp hnew ▸ hopened
  ordered := by
    refine List.pairwise_append.mpr ⟨h.ordered, List.pairwise_singleton .., ?_⟩
    intro old hold new hnew
    exact List.mem_singleton.mp hnew ▸ hlast old hold
  entries := h.entries
  starts other hother := by
    rcases List.mem_append.mp hother with hold | hnew
    · exact h.starts other hold
    · exact List.mem_singleton.mp hnew ▸ hstart
  stages other hother := by
    rcases List.mem_append.mp hother with hold | hnew
    · exact h.stages other hold
    · exact List.mem_singleton.mp hnew ▸ hstage

/-- The builds that are known keep their places and the advances at which they began. -/
def KeepsBegan (builds builds' : List Build) : Prop :=
  ∀ (i : Nat) (build : Build), builds[i]? = some build →
    ∃ build', builds'[i]? = some build' ∧ build'.began = build.began

/-- Builds begin and end. -/
theorem Sound.of_builds (h : t.Sound a c blank) {builds : List Build}
    (hkept : KeepsBegan t.builds builds) (hbegan : ∀ build ∈ builds, build.began ≤ t.elapsed) :
    ({ t with builds := builds } : Dialogue H).Sound a c blank where
  scopes := h.scopes
  began := hbegan
  opened := h.opened
  ordered := h.ordered
  entries m entry hentry := by
    obtain ⟨i, build, hi, hbuild, hright⟩ := h.entries m entry hentry
    obtain ⟨build', hbuild', hsame⟩ := hkept i build hbuild
    exact ⟨i, build', hi, hbuild', fun hnow => hright (hsame ▸ hnow)⟩
  starts := h.starts
  stages exchange hexchange := by
    have hstage := h.stages exchange hexchange
    match exchange.stage, hstage with
    | .building map scope number work, ⟨hscope, ⟨build, hbuild, hopened⟩, hwork⟩ =>
      obtain ⟨build', hbuild', hsame⟩ := hkept _ build hbuild
      exact ⟨hscope, ⟨build', hbuild', hsame.trans hopened⟩, hwork⟩
    | .ended result closed, hended => exact hended

theorem keepsBegan_conclude (number : Nat) (outcome : Except Cancelled SchemaInfo)
    (t : Dialogue H) : KeepsBegan t.builds (conclude number outcome t).builds := by
  intro i build hbuild
  by_cases hi : number - 1 = i
  · exact ⟨{ build with outcome := some outcome }, by simp [conclude, hi, hbuild], rfl⟩
  · exact ⟨build, by simp [conclude, hi, hbuild], rfl⟩

/-- A build ends. -/
theorem Sound.concluded (h : t.Sound a c blank) (number : Nat)
    (outcome : Except Cancelled SchemaInfo) : (conclude number outcome t).Sound a c blank := by
  refine h.of_builds (keepsBegan_conclude number outcome t) fun build hbuild => ?_
  rcases mem_modify_cases hbuild with hold | ⟨old, hold, rfl⟩
  · exact h.began build hold
  · exact h.began old (List.mem_of_getElem? hold)

/-- A build begins. -/
theorem Sound.begin (h : t.Sound a c blank) (build : Build) (hbegan : build.began ≤ t.elapsed) :
    ({ t with builds := t.builds ++ [build] } : Dialogue H).Sound a c blank := by
  refine h.of_builds (fun i old hold => ⟨old, ?_, rfl⟩) fun other hother => ?_
  · rw [← hold]
    exact List.getElem?_append_left (List.getElem?_eq_some_iff.mp hold).1
  · rcases List.mem_append.mp hother with hold | hnew
    · exact h.began other hold
    · exact List.mem_singleton.mp hnew ▸ hbegan

/-- The state changes, but neither the epoch nor the scopes; entries that are new are right. -/
theorem Sound.of_state (h : t.Sound a c blank) {state : SchemaState H}
    (hepoch : c.epoch state.site = c.epoch t.state.site)
    (hscopes : state.scopes.cache = t.state.scopes.cache)
    (hentries : ∀ m, ∀ entry ∈ state.schemas.entries m, t.EntrySound a c entry.scope entry.info) :
    ({ t with state := state } : Dialogue H).Sound a c blank where
  scopes := hscopes ▸ h.scopes
  began := h.began
  opened := h.opened
  ordered := h.ordered
  entries m entry hentry := by
    obtain ⟨i, build, hi, hbuild, hright⟩ := hentries m entry hentry
    exact ⟨i, build, hi, hbuild, fun hnow => hepoch ▸ hright hnow⟩
  starts exchange hexchange hnow := (h.starts exchange hexchange hnow).trans hepoch.symm
  stages := h.stages

/-- What a map holds is right if its build began at the present advance. -/
theorem Sound.right_of_finished (h : t.Sound a c blank) {m : Nat} {entry : ScopedSchema}
    (hentry : entry ∈ t.state.schemas.entries m)
    (hfinished : t.traffic.Finished entry.info t.elapsed) :
    .ok entry.info.content = a.schemaOf entry.scope (c.epoch t.state.site) := by
  obtain ⟨i, build, hi, hbuild, -, hsince⟩ := hfinished
  obtain ⟨j, build', hj, hbuild', hright⟩ := h.entries m entry hentry
  obtain rfl : i = j := by omega
  obtain rfl := Option.some.inj (hbuild.symm.trans hbuild')
  exact hright (Nat.le_antisymm (h.began build (List.mem_of_getElem? hbuild)) hsince)

/-! ### A call begins -/

/-- What is known of a call that begins, once it has entered the current map. -/
structure Opened (a : SchemaAnswers) (c : Collaborators H) (blank : ScopeCache)
    (context : Option FileRef) (t : Dialogue H) : Prop where
  sound : (t.entered c context).Sound a c blank
  elapsed : (t.entered c context).elapsed = t.elapsed
  stamps : c.stamp (t.entered c context).state.site = c.stamp t.state.site
  scope : (t.scope c context).same (a.scopeAt c blank context t.state.site) = true
  number : t.number c context = t.builds.length + 1
  found : ∀ info,
    (t.entered c context).state.schemas.lookup? (t.map c context) (t.scope c context) = some info →
      .ok info.content = a.visible c blank context t.state.site

theorem Opened.epoch {context : Option FileRef} (h : t.Opened a c blank context) :
    c.epoch (t.entered c context).state.site = c.epoch t.state.site :=
  Collaborators.epoch_eq fun d _ => congrFun h.stamps d

section Opening

variable (ha : a.Of c blank) (context : Option FileRef)

include ha

/-- Resolving the scope of a call moves no stamp. -/
theorem stamp_resolved (t : Dialogue H) :
    c.stamp (t.resolved c context).state.site = c.stamp t.state.site :=
  (ScopeState.scopeFor_still ha.still context .resolve t.state.scopes).1

theorem elapsed_resolved (t : Dialogue H) : (t.resolved c context).elapsed = t.elapsed := by
  have hstill := c.advance_of_stamp_eq (stamp_resolved ha context t)
  exact (congrArg (t.elapsed + ·) hstill).trans (Nat.add_zero _)

/-- The scope of a call is the one that is visible at its beginning. -/
theorem Sound.scope_same (h : t.Sound a c blank)
    (hreturn : NeverReturns c.stamp (t.resolved c context).moments) :
    (t.scope c context).same (a.scopeAt c blank context t.state.site) = true := by
  have hstill := (ScopeState.scopeFor_still ha.still context .resolve t.state.scopes).2
  refine (ScopeState.scopeFor_spec ha.scopes h.scopes context .resolve hreturn).1 ?_
  intro file _ visit hvisit d _
  exact congrFun (hstill visit hvisit) d

theorem Sound.resolved (h : t.Sound a c blank)
    (hreturn : NeverReturns c.stamp (t.resolved c context).moments) :
    (t.resolved c context).Sound a c blank := by
  have hscopes := (ScopeState.scopeFor_spec ha.scopes h.scopes context .resolve hreturn).2
  exact h.moveTo (t.state.resolveScope c context).2 (fun _ => List.Subset.refl _) hscopes

/-- A call enters the current map. -/
theorem Sound.opened_of (h : t.Sound a c blank) (ht : t.traffic.Sound c base births)
    (hbound : t.elapsed < 2 ^ 64)
    (hreturn : NeverReturns c.stamp (t.resolved c context).moments) :
    t.Opened a c blank context := by
  have hresolved := h.resolved ha context hreturn
  have helapsed := elapsed_resolved ha context t
  have hcounted : (t.resolved c context).state.Counted c base births t.elapsed := by
    rw [← helapsed]
    exact ht.counted.of_same rfl rfl
  obtain ⟨births', hentered⟩ := SchemaState.currentMap_spec hcounted hbound
  have hepoch : c.epoch (t.entered c context).state.site =
      c.epoch (t.resolved c context).state.site :=
    Collaborators.epoch_eq fun d _ => congrFun hentered.stamps d
  exact
    { sound := by
        refine hresolved.of_state hepoch hentered.scopes fun m entry hentry => ?_
        obtain ⟨birth, hbirth⟩ := hentered.counted.born_of_entry hentry
        exact hresolved.entries m entry (hentered.entries m birth hbirth entry hentry).2
      elapsed := helapsed
      stamps := hentered.stamps.trans (stamp_resolved ha context t)
      scope := h.scope_same ha context hreturn
      number := congrArg (· + 1) (hentered.lastBuildId.trans ht.numbered)
      found := by
        -- The map was begun at the present advance, so what it holds was built at that.
        intro info hfound
        obtain ⟨entry, hentry, hsame, rfl⟩ := SchemaCache.mem_of_lookup? hfound
        obtain ⟨hold, hmem⟩ := hentered.entries _ _ hentered.fresh entry hentry
        have hright := h.right_of_finished hmem (ht.entries _ _ hold entry hmem)
        rw [hright, SchemaAnswers.visible]
        exact SchemaAnswers.schemaOf_same
          (Scope.same_trans hsame (h.scope_same ha context hreturn)) _ }

/-- A call that finds nothing begins a build that is right as long as all is still. -/
theorem Opened.begun (h : t.Opened a c blank context)
    (hopened : ∀ exchange ∈ t.exchanges, exchange.opened ≤ t.elapsed) :
    (t.begun c context).Sound a c blank := by
  let site := (t.work c context).site
  let state := (t.entered c context).state.numbered.withSite site
  let build : Build := { call := t.exchanges.length, began := (t.entered c context).elapsed }
  have hmoved := h.sound.moveTo state (fun _ => List.Subset.refl _) h.sound.scopes
  have hbegun := hmoved.begin build (elapsed_le_moveTo state)
  have hlater : t.elapsed ≤ ((t.entered c context).moveTo c state).elapsed :=
    h.elapsed ▸ elapsed_le_moveTo state
  -- As long as nothing has advanced, the turn has come to a site of the epoch.
  have hstill : t.elapsed = ((t.entered c context).moveTo c state).elapsed →
      c.epoch t.state.site = c.epoch site := by
    intro hnow
    have hsite := still_of_moveTo state (Nat.le_of_eq h.elapsed.symm) hnow
    exact (hsite.2.trans h.epoch).symm
  refine hbegun.append (t.exchange context (t.opening c context)) hopened hlater
    hstill ⟨h.scope, ⟨build, ?_, h.elapsed⟩, fun hnow => ⟨(hstill hnow).symm, ?_⟩⟩
  · rw [h.number]
    exact List.getElem?_concat_length
  · have hregistry := ha.registry context (t.entered c context).state.site
    rw [h.epoch, SchemaAnswers.scopeAt_of_stamp_eq h.stamps, ← a.registry_same h.scope] at hregistry
    exact hregistry

end Opening

/-! ### One step keeps the invariant -/

section Steps

theorem Sound.stageSound (h : t.Sound a c blank) (hk : t.stage? k = some stage) :
    ∃ exchange, t.exchanges[k]? = some exchange ∧ exchange.stage = stage ∧
      t.StageSound a c blank exchange stage := by
  obtain ⟨exchange, hexchange, rfl⟩ := Option.map_eq_some_iff.mp hk
  exact ⟨exchange, hexchange, rfl, h.stages exchange (List.mem_of_getElem? hexchange)⟩

/-- A call that finds what it asks for has found the visible schema. -/
theorem Opened.found_sound {context : Option FileRef} (h : t.Opened a c blank context)
    (hopened : ∀ exchange ∈ t.exchanges, exchange.opened ≤ t.elapsed)
    (hfound : (t.entered c context).state.schemas.lookup? (t.map c context) (t.scope c context) =
      some info) : (t.found c context info).Sound a c blank :=
  h.sound.append (t.exchange context _) hopened (Nat.le_of_eq h.elapsed.symm)
    (fun _ => h.epoch.symm)
    ⟨Nat.le_of_eq h.elapsed.symm, Nat.le_refl _, fun _ => h.found info hfound⟩

/-- A build goes on with what a later call has ended with, which is right if nothing has advanced
since the build began. -/
theorem Sound.resume (h : t.Sound a c blank) {j closed : Nat} {next : Work H} {asked : Exchange H}
    {answer : Except Cancelled SchemaInfo}
    (hk : t.stage? k = some (.building map scope number work)) (hlater : k < j)
    (hasked : t.exchanges[j]? = some asked) (hended : asked.stage = .ended answer closed)
    (hresumes : work.Resumes t.state.site asked.context answer next) :
    (proceed k (.building map scope number next)
      (t.moveTo c (t.state.withSite next.site))).Sound a c blank := by
  obtain ⟨exchange, hexchange, -, hscope, hbuild, hwork⟩ := h.stageSound hk
  have hmem := List.mem_of_getElem? hexchange
  have hmoved := h.moveTo (t.state.withSite next.site) (fun _ => List.Subset.refl _) h.scopes
  refine hmoved.further hexchange ⟨hscope, hbuild, fun hnow => ?_⟩
  obtain ⟨hbefore, hepoch⟩ := still_of_moveTo _ (h.opened exchange hmem) hnow
  obtain ⟨hsite, hright⟩ := hwork hbefore
  have hstart := h.starts exchange hmem hbefore
  refine ⟨hepoch.trans hstart.symm, hright.resumes hsite hstart.symm ?_ hresumes⟩
  -- The later call began and ended at the advance at which the build began.
  have haskedmem := List.mem_of_getElem? hasked
  have hanswer := h.stages asked haskedmem
  rw [hended] at hanswer
  obtain ⟨hopened, hclosed, hresult⟩ := hanswer
  have hfirst : exchange.opened ≤ asked.opened := by
    obtain ⟨hj, rfl⟩ := List.getElem?_eq_some_iff.mp hasked
    obtain ⟨hi, rfl⟩ := List.getElem?_eq_some_iff.mp hexchange
    exact List.pairwise_iff_getElem.mp h.ordered k j hi hj hlater
  refine ⟨asked.start, ?_, hresult (by omega)⟩
  exact (h.starts asked haskedmem (by omega)).trans hstart.symm

/-- A build goes on to check the schema that was collected. -/
theorem Sound.collected (ha : a.Of c blank) (h : t.Sound a c blank) {site : Site H}
    {registry : RegistryInfo} {schema : Schema}
    (hk : t.stage? k =
      some (.building map scope number (.collecting (.done site (.ok registry)))))
    (hschema : Schema.ofRegistry registry.registry = .ok schema) :
    (proceed k
      (.building map scope number (.checking registry schema (c.validate schema t.state.site)))
      (t.moveTo c (t.state.withSite (c.validate schema t.state.site).state))).Sound a c blank := by
  obtain ⟨exchange, hexchange, -, hscope, hbuild, hwork⟩ := h.stageSound hk
  have hmem := List.mem_of_getElem? hexchange
  have hmoved := h.moveTo (t.state.withSite (c.validate schema t.state.site).state)
    (fun _ => List.Subset.refl _) h.scopes
  refine hmoved.further hexchange ⟨hscope, hbuild, fun hnow => ?_⟩
  obtain ⟨hbefore, hepoch⟩ := still_of_moveTo _ (h.opened exchange hmem) hnow
  obtain ⟨hsite, hright⟩ := hwork hbefore
  have hstart := h.starts exchange hmem hbefore
  exact ⟨hepoch.trans hstart.symm, hright.collected ha hsite hstart.symm hschema⟩

/-- What a build comes to is right if nothing has advanced since it began. -/
theorem StageSound.outcome (h : t.StageSound a c blank exchange (.building map scope number work))
    {outcome : Except Cancelled SchemaInfo} (houtcome : work.outcome? number = some outcome)
    (hnow : exchange.opened = t.elapsed) :
    outcome.map SchemaInfo.content = a.schemaOf scope (c.epoch exchange.start) := by
  obtain ⟨-, -, hwork⟩ := h
  obtain ⟨hsite, hright⟩ := hwork hnow
  exact hright.outcome hsite houtcome

/-- The schema of the scope of a call is the one that is visible at its beginning. -/
theorem StageSound.visible (h : t.StageSound a c blank exchange (.building map scope number work)) :
    a.schemaOf scope (c.epoch exchange.start) =
      a.visible c blank exchange.context exchange.start :=
  SchemaAnswers.schemaOf_same h.1 _

theorem Sound.cancel (h : t.Sound a c blank)
    (hk : t.stage? k = some (.building map scope number work))
    (houtcome : work.outcome? number = some (.error .mk)) :
    (proceed k (.ended (.error .mk) t.elapsed) (t.conclude number (.error .mk))).Sound
      a c blank := by
  obtain ⟨exchange, hexchange, -, hstage⟩ := h.stageSound hk
  have hopened := h.opened exchange (List.mem_of_getElem? hexchange)
  exact (h.concluded number (.error .mk)).further hexchange
    ⟨hopened, Nat.le_refl _, fun hnow => (hstage.outcome houtcome hnow.symm).trans hstage.visible⟩

/-- A build publishes its outcome, or finds what was published in its map meanwhile: either is right
if nothing has advanced since the build began. -/
theorem Sound.publish (h : t.Sound a c blank) (ht : t.traffic.Sound c base births)
    (hk : t.stage? k = some (.building map scope number work))
    (houtcome : work.outcome? number = some (.ok info)) :
    (proceed k (.ended (.ok (t.state.schemas.publish map scope info).1) t.elapsed)
      (conclude number (.ok info)
        { t with state :=
          { t.state with schemas := (t.state.schemas.publish map scope info).2 } })).Sound
      a c blank := by
  obtain ⟨exchange, hexchange, hexchangek, hstage⟩ := h.stageSound hk
  obtain ⟨call, hcall, birth, i, build, hbirth, hopened, hnumber, hbuild, -, -, hbegan⟩ :=
    ht.building (progress?_traffic hk)
  have hmem := List.mem_of_getElem? hexchange
  have hcallopened : call.opened = exchange.opened := by
    simp only [traffic, List.getElem?_map, hexchange, Option.map_some, Option.some.injEq] at hcall
    rw [← hcall]
    rfl
  -- What the map holds for the scope was not built before the call began.
  have hentries : ∀ m, ∀ entry ∈ (t.state.schemas.publish map scope info).2.entries m,
      t.EntrySound a c entry.scope entry.info := by
    intro m entry hentry
    rcases SchemaCache.mem_entries_publish hentry with hold | ⟨-, rfl⟩
    · exact h.entries m entry hold
    · obtain ⟨build', hbuild', hsame⟩ := hstage.2.1
      obtain rfl : build' = build := by
        rw [hnumber] at hbuild'
        exact Option.some.inj (hbuild'.symm.trans hbuild)
      refine ⟨i, build', (Work.buildId_of_outcome? houtcome).trans hnumber, hbuild, fun hnow => ?_⟩
      have hstill := hsame.symm.trans hnow
      rw [← h.starts exchange hmem hstill]
      exact hstage.outcome houtcome hstill
  have hpublished : ({ t with state :=
      { t.state with schemas := (t.state.schemas.publish map scope info).2 } } :
        Dialogue H).Sound a c blank := h.of_state rfl rfl hentries
  refine (hpublished.concluded number (.ok info)).further hexchange
    ⟨h.opened exchange hmem, Nat.le_refl _, fun hnow => ?_⟩
  rcases SchemaCache.publish_eq map scope info t.state.schemas with hown | hfirst
  · rw [hown]
    exact (hstage.outcome houtcome hnow.symm).trans hstage.visible
  · obtain ⟨entry, hentry, hsame, hfound⟩ := SchemaCache.mem_of_lookup? hfirst
    have hfinished := (ht.entries map birth hbirth entry hentry).mono
      (show t.elapsed ≤ birth by omega)
    have hright := h.right_of_finished hentry hfinished
    rw [SchemaAnswers.schemaOf_same hsame, ← h.starts exchange hmem hnow.symm, hstage.visible,
      hfound] at hright
    exact hright

/-- One step keeps the invariant. -/
theorem Step.sound (hstep : Step c t u) (ha : a.Of c blank) (h : t.Sound a c blank)
    (ht : t.traffic.Sound c base births) (hbound : t.elapsed < 2 ^ 64)
    (hreturn : NeverReturns c.stamp u.moments) : u.Sound a c blank := by
  cases hstep with
  | hit context info hfound =>
    exact (h.opened_of ha context ht hbound hreturn).found_sound h.opened hfound
  | miss context hnone => exact (h.opened_of ha context ht hbound hreturn).begun ha context h.opened
  | resume k j map number scope work next asked answer closed hk hlater hasked hended hresumes =>
    exact h.resume hk hlater hasked hended hresumes
  | collected k map number scope site registry schema hk hschema =>
    exact h.collected ha hk hschema
  | cancel k map number scope work hk houtcome => exact h.cancel hk houtcome
  | publish k map number scope work info hk houtcome => exact h.publish ht hk houtcome
  | meanwhile schemas kept site hthinned hkept =>
    exact h.moveTo _ hthinned.entries (h.scopes.of_perFile_subset hkept.subset)

end Steps

/-! ### Every run keeps the invariant -/

theorem Step.moments_sublist (h : Step c t u) : t.moments.Sublist u.moments := by
  cases h with
  | hit => exact ScopeState.past_sublist _ _ _
  | miss => exact ScopeState.past_sublist _ _ _
  | _ => exact List.Sublist.refl _

/-- The invariant holds after every run in which no stamp takes a value again that it left, and the
stamps advance by less than 2⁶⁴ in all. -/
theorem Run.sound (hrun : Run c t u) (ha : a.Of c blank) (h : t.Sound a c blank)
    (ht : t.traffic.Sound c base births) (hbound : u.elapsed < 2 ^ 64)
    (hreturn : NeverReturns c.stamp u.moments) : u.Sound a c blank := by
  induction hrun with
  | here => exact h
  | @step v w hbefore hstep ih =>
    have hearlier : v.elapsed < 2 ^ 64 := Nat.lt_of_le_of_lt hstep.traffic.elapsed_le hbound
    obtain ⟨births', htraffic⟩ := hbefore.traffic.sound ht hearlier
    exact hstep.sound ha (ih hearlier (hreturn.of_sublist hstep.moments_sublist)) htraffic hearlier
      hreturn

/-- New caches, before any call. -/
theorem sound_new {s : SchemaState H} {capacity : UInt64} {root : Path} {options : ScopeOptions}
    (hschemas : s.schemas = { capacity := capacity })
    (hscopes : s.scopes.cache = { root := root, options := options }) :
    ({ state := s } : Dialogue H).Sound a c { root := root, options := options } where
  scopes := by
    have hnew : s.scopes.cache.Sound c a.scopes s.scopes.cache [] := by
      rw [hscopes]
      exact .new
    rwa [hscopes] at hnew ⊢
  began _ hbuild := by cases hbuild
  opened _ hexchange := by cases hexchange
  ordered := .nil
  entries m entry hentry := by
    rw [hschemas] at hentry
    cases hentry
  starts _ hexchange := by cases hexchange
  stages _ hexchange := by cases hexchange

end Dialogue

open Dialogue in
/-- The cache of schemas is transparent. In every run of new caches in which no stamp takes a value
again that it left and the stamps advance by less than 2⁶⁴ in all, with the steps of its calls in
any order, a call during which no stamp moves ends as a fresh build does at its beginning: cancelled
if that is cancelled, and otherwise with the same schema, errors and registry. The evaluation of a
call, with all calls that are asked for in it, is a stretch of such a run in which nothing happens
but the evaluation; so it comes to what a fresh build comes to if no stamp moves meanwhile. And it
comes to an end if only smaller contexts are asked for in a build. -/
theorem schemas_transparent {H : Type} {c : Collaborators H} {a : SchemaAnswers} {root : Path}
    {options : ScopeOptions} (ha : a.Of c { root := root, options := options })
    {s : SchemaState H} {capacity : UInt64} (hschemas : s.schemas = { capacity := capacity })
    (hscopes : s.scopes.cache = { root := root, options := options }) :
    (∀ t : Dialogue H, Run c { state := s } t → t.elapsed < 2 ^ 64 →
        NeverReturns c.stamp t.moments →
        ∀ exchange ∈ t.exchanges, ∀ result closed, exchange.stage = .ended result closed →
          closed = exchange.opened →
            (a.fresh c { root := root, options := options } exchange.context exchange.start).map
              (·.map SchemaInfo.content) = some (result.map SchemaInfo.content)) ∧
      (∀ (t : Dialogue H) (depth : Nat) (context : Option FileRef)
        (result : Except Cancelled SchemaInfo) (s' : SchemaState H),
        SchemaState.schemaFor c depth context t.state = some (result, s') →
          ∃ u : Dialogue H, evaluate c depth context t = some (result, u) ∧ Run c t u ∧
            u.state = s' ∧ u.exchanges[t.exchanges.length]? =
              some (t.exchange context (.ended result u.elapsed)) ∧
            (Run c { state := s } t → u.elapsed < 2 ^ 64 → NeverReturns c.stamp u.moments →
              u.elapsed = t.elapsed →
                (a.fresh c { root := root, options := options } context t.state.site).map
                  (·.map SchemaInfo.content) = some (result.map SchemaInfo.content))) ∧
      (∀ rank, c.Descends rank → ∀ (context : Option FileRef) (s' : SchemaState H),
        ∃ result s'', ∀ depth, rank context < depth →
          SchemaState.schemaFor c depth context s' = some (result, s'')) := by
  have htransparent : ∀ t : Dialogue H, Run c { state := s } t → t.elapsed < 2 ^ 64 →
      NeverReturns c.stamp t.moments →
      ∀ exchange ∈ t.exchanges, ∀ result closed, exchange.stage = .ended result closed →
        closed = exchange.opened →
          (a.fresh c { root := root, options := options } exchange.context exchange.start).map
            (·.map SchemaInfo.content) = some (result.map SchemaInfo.content) := by
    intro t hrun hbound hreturn exchange hexchange result closed hended hstill
    have hsound := hrun.sound ha (sound_new hschemas hscopes) (Traffic.sound_new hschemas) hbound
      hreturn
    have hstage := hsound.stages exchange hexchange
    rw [hended] at hstage
    obtain ⟨-, -, hresult⟩ := hstage
    rw [SchemaAnswers.fresh_content, hresult hstill]
  refine ⟨htransparent, ?evaluated, fun rank hc => SchemaState.schemaFor_answers hc⟩
  case evaluated =>
    intro t depth context result s' heval
    obtain ⟨u, hevaluated, htold⟩ := exists_told heval
    refine ⟨u, hevaluated, htold.reaches.run, htold.state, htold.call, ?_⟩
    intro hbefore hbound hreturn hstill
    exact htransparent u (hbefore.trans htold.reaches.run) hbound hreturn _
      (List.mem_of_getElem? htold.call) result u.elapsed rfl hstill

section Example

open Dialogue

/-- Collaborators that collect nothing. At first, whoever collects has the configuration reloaded,
asks for the schema that is visible without a file, and fails. -/
def restlessCollaborators : Collaborators Stamp :=
  { plainCollaborators fun site => ([], site) with
    registryInfo := fun _ site =>
      if site.host = 0 then
        .ask { site with host := 1 } none fun site _ => .done site (.error (.internal "early"))
      else .done site (.ok {}) }

/-- The answers of these collaborators. -/
def restlessAnswers : SchemaAnswers where
  scopes := plainAnswers
  registry _ epoch := if epoch.configuration = 0 then .error (.internal "early") else .ok {}
  validation _ := .ok []
  registry_same _ _ := rfl

theorem restlessAnswers_of : restlessAnswers.Of restlessCollaborators { root := ⟨[47]⟩ } where
  still := ⟨fun _ _ => rfl, fun _ => rfl, fun _ => rfl⟩
  scopes :=
    { config := fun _ _ _ => rfl
      hasConfigFiles := fun _ _ => rfl
      libraries := fun _ _ => rfl
      fileStamp := fun _ _ => rfl }
  registry context site := by
    by_cases hfirst : site.host = 0
    · -- The configuration moves before anything is asked, so nothing has to be right.
      simp only [restlessCollaborators, hfirst, ↓reduceIte]
      intro hstill
      have hmoved : 1 = site.host := congrArg Epoch.configuration hstill
      rw [hfirst] at hmoved
      cases hmoved
    · simp only [restlessCollaborators, hfirst, ↓reduceIte]
      intro _
      exact (if_neg hfirst).symm
  validation _ _ := fun _ => rfl

/-- A build that began too early publishes its failure late, after the configuration was reloaded
and another schema was built in it; a call after that ends as a fresh build does. -/
theorem schemas_transparent_late_failure :
    ∃ t : Dialogue Stamp, Run restlessCollaborators { state := plainStart } t ∧
      ∃ exchange result closed, t.exchanges[2]? = some exchange ∧
        exchange.stage = .ended result closed ∧ closed = exchange.opened ∧
        (restlessAnswers.fresh restlessCollaborators { root := ⟨[47]⟩ } exchange.context
          exchange.start).map (·.map SchemaInfo.content) =
            some (result.map SchemaInfo.content) := by
  have hfirst := Run.step .here (Step.miss (c := restlessCollaborators)
    (t := { state := plainStart }) (some plainFile) (by decide))
  have hnested := hfirst.step (.miss none (by decide))
  have hschema : Schema.ofRegistry {} = .ok .empty := by decide
  have hcollected := hnested.step (.collected 1 _ _ _ _ {} .empty rfl hschema)
  have hanswered := hcollected.step (.publish 1 _ _ _ _ _ rfl rfl)
  have hresumed := hanswered.step
    (.resume 0 1 _ _ _ _ _ _ _ _ rfl (by decide) rfl rfl (.collecting _ _))
  have hfailed := hresumed.step (.publish 0 _ _ _ _ _ rfl rfl)
  have hagain := hfailed.step (.miss (some plainFile) (by decide))
  have hchecked := hagain.step (.collected 2 _ _ _ _ {} .empty rfl hschema)
  have hended := hchecked.step (.publish 2 _ _ _ _ _ rfl rfl)
  refine ⟨_, hended, _, _, _, rfl, rfl, by decide, ?_⟩
  refine (schemas_transparent restlessAnswers_of rfl rfl).1 _ hended (by decide) ?_ _
    (List.mem_of_getElem? (i := 2) rfl) _ _ rfl (by decide)
  refine .of_pairwise (List.Pairwise.imp (R := fun y x : Site Stamp =>
    x.host ≤ y.host ∧ x.generation ≤ y.generation) (fun h => stamp_plain_le h) ?_)
  decide

end Example

end SchemaEngine
