import SchemaEngine.Proofs.Schema.Transparency
import SchemaEngine.Proofs.Scope.Questions

/-!
# The scopes that schemas are kept under

A call resolves its scope first and enters the current map after that. If no stamp of the project
moves in between, the scope is the one that the stamps of the map give for the context of the call,
and what is built is kept under it. If one moves, the scope may be that of earlier stamps, while the
map is one of later stamps: what is built is then kept under a scope that the context does not have
at the stamps of the map.

## Main definitions

* `Dialogue.Origin`: the call that a schema was built for, and what its scope was.
* `Dialogue.Keyed`: the invariant.

## Main results

* `Dialogue.Run.keyed`: the invariant holds after every run of new caches.
* `schemas_kept_by_scope`: where the schemas come from that maps hold and calls end with.
* `schema_under_foreign_scope`: a stamp moves while a scope is resolved, and a call ends with a
  schema that was built for a context with another scope.
-/

set_option autoImplicit false

namespace SchemaEngine

namespace Dialogue

variable {H : Type}

/-! ### Calls and builds that go on -/

/-- Calls keep their beginnings, and builds their calls and the advances at which they began. -/
structure Continues (t u : Dialogue H) : Prop where
  exchanges : ∀ (k : Nat) (exchange : Exchange H), t.exchanges[k]? = some exchange →
    ∃ stage, u.exchanges[k]? = some { exchange with stage := stage }
  builds : ∀ (i : Nat) (build : Build), t.builds[i]? = some build →
    ∃ outcome, u.builds[i]? = some { build with outcome := outcome }

theorem Continues.of_eq {t u : Dialogue H} (hexchanges : u.exchanges = t.exchanges)
    (hbuilds : u.builds = t.builds) : Continues t u :=
  ⟨fun k exchange h => ⟨exchange.stage, by rw [hexchanges, h]⟩,
    fun i build h => ⟨build.outcome, by rw [hbuilds, h]⟩⟩

theorem Continues.of_append {t u : Dialogue H} {exchanges : List (Exchange H)}
    {builds : List Build} (hexchanges : u.exchanges = t.exchanges ++ exchanges)
    (hbuilds : u.builds = t.builds ++ builds) : Continues t u :=
  ⟨fun k exchange h => ⟨exchange.stage, by
      rw [hexchanges, List.getElem?_append_left (List.getElem?_eq_some_iff.mp h).1, h]⟩,
    fun i build h => ⟨build.outcome, by
      rw [hbuilds, List.getElem?_append_left (List.getElem?_eq_some_iff.mp h).1, h]⟩⟩

theorem Continues.proceed (k : Nat) (stage : Stage H) (t : Dialogue H) :
    Continues t (proceed k stage t) := by
  refine ⟨fun j exchange h => ?_, fun i build h => ⟨build.outcome, h⟩⟩
  by_cases hk : k = j
  · exact ⟨stage, by simp [Dialogue.proceed, hk, h]⟩
  · exact ⟨exchange.stage, by simp [Dialogue.proceed, hk, h]⟩

theorem Continues.of_conclude {t u : Dialogue H} {number : Nat}
    {outcome : Except Cancelled SchemaInfo} (hexchanges : u.exchanges = t.exchanges)
    (hbuilds : u.builds = (conclude number outcome t).builds) : Continues t u := by
  refine ⟨fun k exchange h => ⟨exchange.stage, by rw [hexchanges, h]⟩, fun i build h => ?_⟩
  by_cases hi : number - 1 = i
  · exact ⟨some outcome, by simp [hbuilds, conclude, hi, h]⟩
  · exact ⟨build.outcome, by simp [hbuilds, conclude, hi, h]⟩

/-! ### The invariant -/

section Invariant

variable (a : ScopeAnswers) (c : Collaborators H) (blank : ScopeCache) (t : Dialogue H)

/-- The scope that the present stamps give for the context of a call at its beginning. -/
def scopeOf (exchange : Exchange H) : Scope :=
  a.scopeFor blank c exchange.context .resolve exchange.start

/-- A schema that is kept for a scope was built by a call, in a build that began at an advance; if
the call began at that advance too, the scope is the one of its context at its beginning. -/
def Origin (birth : Nat) (scope : Scope) (info : SchemaInfo) : Prop :=
  ∃ i build builder, info.buildId = i + 1 ∧ t.builds[i]? = some build ∧ build.began = birth ∧
    t.exchanges[build.call]? = some builder ∧
    (builder.opened = birth → scope.same (scopeOf a c blank builder) = true)

/-- What is known of a call in its stage. While it builds, its build began when its map was begun;
what it ends with while no stamp moves was built for a call with its scope. -/
def StageKeyed (births : List Nat) (k : Nat) (exchange : Exchange H) : Stage H → Prop
  | .building map scope number _ => ∃ i build, births[map]? = some build.began ∧ number = i + 1 ∧
      t.builds[i]? = some build ∧ build.call = k ∧ exchange.opened ≤ build.began ∧
      (exchange.opened = build.began → scope.same (scopeOf a c blank exchange) = true)
  | .ended (.error _) _ => True
  | .ended (.ok info) closed => closed = exchange.opened →
      t.Origin a c blank exchange.opened (scopeOf a c blank exchange) info

/-- The invariant of what is kept, where `births` are the advances at which the maps were begun. -/
structure Keyed (base : Stamp) (births : List Nat) : Prop where
  scopes : t.state.scopes.cache.Sound c a blank t.moments
  counted : t.state.Counted c base births t.elapsed
  numbered : t.state.schemas.lastBuildId = t.builds.length
  opened : ∀ exchange ∈ t.exchanges, exchange.opened ≤ t.elapsed
  starts : ∀ exchange ∈ t.exchanges, exchange.opened = t.elapsed →
    c.epoch exchange.start = c.epoch t.state.site
  epochs : ∀ exchange ∈ t.exchanges, ∀ other ∈ t.exchanges, exchange.opened = other.opened →
    c.epoch exchange.start = c.epoch other.start
  built : ∀ build ∈ t.builds, ∃ builder, t.exchanges[build.call]? = some builder ∧
    (c.Still → build.began = builder.opened)
  entries : ∀ (m birth : Nat), births[m]? = some birth →
    ∀ entry ∈ t.state.schemas.entries m, t.Origin a c blank birth entry.scope entry.info
  stages : ∀ (k : Nat) (exchange : Exchange H), t.exchanges[k]? = some exchange →
    t.StageKeyed a c blank births k exchange exchange.stage

end Invariant

variable {a : ScopeAnswers} {c : Collaborators H} {blank : ScopeCache} {t u : Dialogue H}
  {base : Stamp} {births births' : List Nat} {k map number birth : Nat} {scope scope' : Scope}
  {work : Work H} {stage : Stage H} {exchange : Exchange H} {info : SchemaInfo}

theorem Origin.mono (h : t.Origin a c blank birth scope info) (hcontinues : Continues t u) :
    u.Origin a c blank birth scope info := by
  obtain ⟨i, build, builder, hnumber, hbuild, hbegan, hbuilder, hscope⟩ := h
  obtain ⟨outcome, hbuild'⟩ := hcontinues.builds i build hbuild
  obtain ⟨stage, hbuilder'⟩ := hcontinues.exchanges build.call builder hbuilder
  exact ⟨i, _, _, hnumber, hbuild', hbegan, hbuilder', hscope⟩

/-- What is kept for a scope is kept for every spelling of it. -/
theorem Origin.of_same (h : t.Origin a c blank birth scope info)
    (hsame : scope'.same scope = true) : t.Origin a c blank birth scope' info := by
  obtain ⟨i, build, builder, hnumber, hbuild, hbegan, hbuilder, hscope⟩ := h
  exact ⟨i, build, builder, hnumber, hbuild, hbegan, hbuilder,
    fun hopened => Scope.same_trans hsame (hscope hopened)⟩

theorem StageKeyed.mono (h : t.StageKeyed a c blank births k exchange stage)
    (hcontinues : Continues t u)
    (hbirths : ∀ (m birth : Nat), births[m]? = some birth → births'[m]? = some birth) :
    u.StageKeyed a c blank births' k exchange stage := by
  match stage, h with
  | .building map scope number work,
      ⟨i, build, hbirth, hnumber, hbuild, hcall, hopened, hscope⟩ =>
    obtain ⟨outcome, hbuild'⟩ := hcontinues.builds i build hbuild
    exact ⟨i, { build with outcome := outcome }, hbirths _ _ hbirth, hnumber, hbuild', hcall,
      hopened, hscope⟩
  | .ended (.error _) _, _ => trivial
  | .ended (.ok info) closed, h => exact fun hstill => (h hstill).mono hcontinues

/-! ### What the parts of a step keep -/

/-- Stamps move, and entries are dropped; scopes may be asked for. -/
theorem Keyed.moveTo (h : t.Keyed a c blank base births) (state : SchemaState H)
    {moments : List (Site H)} (hthinned : state.schemas.Thinned t.state.schemas)
    (hscopes : state.scopes.cache.Sound c a blank moments) :
    ({ t.moveTo c state with moments := moments } : Dialogue H).Keyed a c blank base births where
  scopes := hscopes
  counted := h.counted.of_same hthinned.current hthinned.length
  numbered := hthinned.lastBuildId.trans h.numbered
  opened exchange hexchange :=
    Nat.le_trans (h.opened exchange hexchange) (elapsed_le_moveTo state)
  starts exchange hexchange hnow := by
    obtain ⟨hbefore, hepoch⟩ := still_of_moveTo state (h.opened exchange hexchange) hnow
    exact (h.starts exchange hexchange hbefore).trans hepoch.symm
  epochs := h.epochs
  built := h.built
  entries m birth hbirth entry hentry :=
    (h.entries m birth hbirth entry (hthinned.entries m hentry)).mono (.of_eq rfl rfl)
  stages k exchange hexchange :=
    (h.stages k exchange hexchange).mono (.of_eq rfl rfl) fun _ _ hm => hm

/-- The current map is entered; it was begun at the present advance. -/
theorem Keyed.enter (h : t.Keyed a c blank base births) (hbound : t.elapsed < 2 ^ 64) :
    ∃ births', births'[(t.state.currentMap c).1]? = some t.elapsed ∧
      c.epoch (t.state.currentMap c).2.site = c.epoch t.state.site ∧
      ({ t with state := (t.state.currentMap c).2 } : Dialogue H).Keyed a c blank base births' := by
  obtain ⟨births', hentered⟩ := SchemaState.currentMap_spec h.counted hbound
  have hepoch : c.epoch (t.state.currentMap c).2.site = c.epoch t.state.site :=
    Collaborators.epoch_eq fun d _ => congrFun hentered.stamps d
  exact ⟨births', hentered.fresh, hepoch,
    { scopes := by
        have hscopes := h.scopes
        rw [← hentered.scopes] at hscopes
        exact hscopes
      counted := hentered.counted
      numbered := hentered.lastBuildId.trans h.numbered
      opened := h.opened
      starts := fun exchange hexchange hnow =>
        (h.starts exchange hexchange hnow).trans hepoch.symm
      epochs := h.epochs
      built := h.built
      entries := fun m birth hbirth entry hentry => by
        obtain ⟨hold, hmem⟩ := hentered.entries m birth hbirth entry hentry
        exact (h.entries m birth hold entry hmem).mono (.of_eq rfl rfl)
      stages := fun k exchange hexchange =>
        (h.stages k exchange hexchange).mono (.of_eq rfl rfl) hentered.kept }⟩

/-- A call comes further. -/
theorem Keyed.further (h : t.Keyed a c blank base births)
    (hk : t.exchanges[k]? = some exchange)
    (hstage : t.StageKeyed a c blank births k exchange stage) :
    (proceed k stage t).Keyed a c blank base births := by
  have hcontinues := Continues.proceed k stage t
  have hold : ∀ other ∈ (proceed k stage t).exchanges, ∃ old ∈ t.exchanges,
      other.opened = old.opened ∧ other.start = old.start := by
    intro other hother
    rcases mem_modify_cases hother with hold | ⟨old, hold, rfl⟩
    · exact ⟨other, hold, rfl, rfl⟩
    · exact ⟨old, List.mem_of_getElem? hold, rfl, rfl⟩
  exact
    { scopes := h.scopes
      counted := h.counted
      numbered := h.numbered
      opened := fun other hother => by
        obtain ⟨old, hmem, hopened, -⟩ := hold other hother
        exact hopened ▸ h.opened old hmem
      starts := fun other hother hnow => by
        obtain ⟨old, hmem, hopened, hstart⟩ := hold other hother
        exact hstart ▸ h.starts old hmem (hopened ▸ hnow)
      epochs := fun first hfirst second hsecond hsame => by
        obtain ⟨old, hmem, hopened, hstart⟩ := hold first hfirst
        obtain ⟨old', hmem', hopened', hstart'⟩ := hold second hsecond
        rw [hstart, hstart']
        exact h.epochs old hmem old' hmem' (hopened.symm.trans (hsame.trans hopened'))
      built := fun build hbuild => by
        obtain ⟨builder, hbuilder, hbegan⟩ := h.built build hbuild
        obtain ⟨stage', hbuilder'⟩ := hcontinues.exchanges _ builder hbuilder
        exact ⟨{ builder with stage := stage' }, hbuilder', hbegan⟩
      entries := fun m birth hbirth entry hentry =>
        (h.entries m birth hbirth entry hentry).mono hcontinues
      stages := fun j other hother => by
        rcases getElem?_modify_cases hother with ⟨-, hold⟩ | ⟨rfl, old, hold, rfl⟩
        · exact (h.stages j other hold).mono hcontinues fun _ _ hm => hm
        · obtain rfl := Option.some.inj (hk.symm.trans hold)
          exact StageKeyed.mono hstage hcontinues fun _ _ hm => hm }

/-- A call begins, and a build with it if `more` holds one. -/
theorem Keyed.append (h : t.Keyed a c blank base births) (schemas : SchemaCache)
    (exchange : Exchange H) (more : List Build)
    (hcurrent : schemas.current = t.state.schemas.current)
    (hmaps : schemas.maps = t.state.schemas.maps)
    (hnumber : schemas.lastBuildId = t.builds.length + more.length)
    (hopened : exchange.opened ≤ t.elapsed)
    (hstart : exchange.opened = t.elapsed → c.epoch exchange.start = c.epoch t.state.site)
    (hepochs : ∀ old ∈ t.exchanges, old.opened = exchange.opened →
      c.epoch old.start = c.epoch exchange.start)
    (hmore : ∀ build ∈ more, build.call = t.exchanges.length ∧
      (c.Still → build.began = exchange.opened))
    (hstage : ({ t with
        state := { t.state with schemas := schemas }
        exchanges := t.exchanges ++ [exchange]
        builds := t.builds ++ more } : Dialogue H).StageKeyed a c blank births t.exchanges.length
          exchange exchange.stage) :
    ({ t with
        state := { t.state with schemas := schemas }
        exchanges := t.exchanges ++ [exchange]
        builds := t.builds ++ more } : Dialogue H).Keyed a c blank base births := by
  let after : Dialogue H := { t with
    state := { t.state with schemas := schemas }
    exchanges := t.exchanges ++ [exchange]
    builds := t.builds ++ more }
  have hcontinues : Continues t after := .of_append rfl rfl
  exact
    { scopes := h.scopes
      counted := h.counted.of_same_site hcurrent (congrArg List.length hmaps) rfl
      numbered := hnumber.trans List.length_append.symm
      opened := fun other hother => by
        rcases List.mem_append.mp hother with hold | hnew
        · exact h.opened other hold
        · exact List.mem_singleton.mp hnew ▸ hopened
      starts := fun other hother hnow => by
        rcases List.mem_append.mp hother with hold | hnew
        · exact h.starts other hold hnow
        · obtain rfl := List.mem_singleton.mp hnew
          exact hstart hnow
      epochs := fun first hfirst second hsecond hsame => by
        rcases List.mem_append.mp hfirst with hold | hnew <;>
          rcases List.mem_append.mp hsecond with hold' | hnew'
        · exact h.epochs first hold second hold' hsame
        · obtain rfl := List.mem_singleton.mp hnew'
          exact hepochs first hold hsame
        · obtain rfl := List.mem_singleton.mp hnew
          exact (hepochs second hold' hsame.symm).symm
        · rw [List.mem_singleton.mp hnew, List.mem_singleton.mp hnew']
      built := fun build hbuild => by
        rcases List.mem_append.mp hbuild with hold | hnew
        · obtain ⟨builder, hbuilder, hbegan⟩ := h.built build hold
          obtain ⟨stage', hbuilder'⟩ := hcontinues.exchanges _ builder hbuilder
          exact ⟨{ builder with stage := stage' }, hbuilder', hbegan⟩
        · obtain ⟨hcall, hbegan⟩ := hmore build hnew
          exact ⟨exchange, by rw [hcall]; exact List.getElem?_concat_length .., hbegan⟩
      entries := fun m birth hbirth entry hentry => by
        refine (h.entries m birth hbirth entry ?_).mono hcontinues
        simpa only [SchemaCache.entries, hmaps] using hentry
      stages := fun k other hother => by
        rcases getElem?_append_singleton hother with hold | ⟨rfl, rfl⟩
        · exact (h.stages k other hold).mono hcontinues fun _ _ hm => hm
        · exact hstage }

/-- A build ends. -/
theorem Keyed.concluded (h : t.Keyed a c blank base births) (number : Nat)
    (outcome : Except Cancelled SchemaInfo) :
    (conclude number outcome t).Keyed a c blank base births := by
  have hcontinues : Continues t (conclude number outcome t) := .of_conclude rfl rfl
  exact
    { scopes := h.scopes
      counted := h.counted
      numbered := h.numbered.trans (List.length_modify ..).symm
      opened := h.opened
      starts := h.starts
      epochs := h.epochs
      built := fun build hbuild => by
        rcases mem_modify_cases hbuild with hold | ⟨old, hold, rfl⟩
        · exact h.built build hold
        · exact h.built old (List.mem_of_getElem? hold)
      entries := fun m birth hbirth entry hentry =>
        (h.entries m birth hbirth entry hentry).mono hcontinues
      stages := fun k exchange hexchange =>
        (h.stages k exchange hexchange).mono hcontinues fun _ _ hm => hm }

/-- An outcome is published in a map, where it has its origin. -/
theorem Keyed.published (h : t.Keyed a c blank base births) (map : Nat) (scope : Scope)
    (info : SchemaInfo)
    (horigin : ∀ birth, births[map]? = some birth → t.Origin a c blank birth scope info) :
    ({ t with state :=
        { t.state with schemas := (t.state.schemas.publish map scope info).2 } } :
      Dialogue H).Keyed a c blank base births := by
  obtain ⟨hcurrent, hlast, hlength⟩ := SchemaCache.publish_same map scope info t.state.schemas
  exact
    { scopes := h.scopes
      counted := h.counted.of_same_site hcurrent hlength rfl
      numbered := hlast.trans h.numbered
      opened := h.opened
      starts := h.starts
      epochs := h.epochs
      built := h.built
      entries := fun m birth hbirth entry hentry => by
        rcases SchemaCache.mem_entries_publish hentry with hold | ⟨rfl, rfl⟩
        · exact (h.entries m birth hbirth entry hold).mono (.of_eq rfl rfl)
        · exact (horigin birth hbirth).mono (.of_eq rfl rfl)
      stages := fun k exchange hexchange =>
        (h.stages k exchange hexchange).mono (.of_eq rfl rfl) fun _ _ hm => hm }

/-! ### A call begins -/

/-- What is known of a call that begins, once it has entered the current map: the map was begun at
that moment, and if no stamp of the project moved before, the scope is the one of the context. -/
structure Admitted (a : ScopeAnswers) (c : Collaborators H) (blank : ScopeCache) (base : Stamp)
    (births : List Nat) (context : Option FileRef) (t : Dialogue H) : Prop where
  keyed : (t.entered c context).Keyed a c blank base births
  born : births[t.map c context]? = some (t.entered c context).elapsed
  later : t.elapsed ≤ (t.entered c context).elapsed
  epoch : t.elapsed = (t.entered c context).elapsed →
    c.epoch t.state.site = c.epoch (t.entered c context).state.site
  scope : t.elapsed = (t.entered c context).elapsed →
    (t.scope c context).same (a.scopeFor blank c context .resolve t.state.site) = true
  still : c.Still → (t.entered c context).elapsed = t.elapsed

/-- If nothing advances while a scope is resolved, no stamp of the project moves. -/
theorem epoch_resolved (context : Option FileRef)
    (hnow : t.elapsed = (t.resolved c context).elapsed) :
    c.epoch (t.state.resolveScope c context).2.site = c.epoch t.state.site := by
  have hmoved : (t.resolved c context).elapsed =
      (t.moveTo c (t.state.resolveScope c context).2).elapsed := rfl
  exact (still_of_moveTo (t.state.resolveScope c context).2 (Nat.le_refl t.elapsed)
    (hnow.trans hmoved)).2

/-- If nothing advances while a scope is resolved, it is the one of the context. -/
theorem Keyed.scope_resolved (h : t.Keyed a c blank base births) (ha : a.Of c)
    (hfiles : c.KeepsFiles) (context : Option FileRef)
    (hreturn : NeverReturns c.stamp (t.resolved c context).moments)
    (hnow : t.elapsed = (t.resolved c context).elapsed) :
    (t.scope c context).same (a.scopeFor blank c context .resolve t.state.site) = true := by
  have hepoch := epoch_resolved context hnow
  refine ScopeState.scopeFor_same_of_finish t.state.scopes ha hfiles h.scopes context .resolve
    hreturn fun d hd => ?_
  rcases List.mem_cons.mp hd with rfl | hd
  · exact congrArg Epoch.configuration hepoch
  · obtain rfl := List.mem_singleton.mp hd
    exact congrArg Epoch.fileStructure hepoch

/-- Resolving a scope advances nothing if none of its questions moves a stamp. -/
theorem elapsed_resolved_of_still (hstill : c.Still) (context : Option FileRef) :
    (t.resolved c context).elapsed = t.elapsed := by
  have hstamps := (ScopeState.scopeFor_still hstill context .resolve t.state.scopes).1
  have hadvance : c.advance t.state.site (t.state.resolveScope c context).2.site = 0 :=
    c.advance_of_stamp_eq hstamps
  calc (t.resolved c context).elapsed
      = t.elapsed + c.advance t.state.site (t.state.resolveScope c context).2.site := rfl
    _ = t.elapsed := by rw [hadvance, Nat.add_zero]

theorem Keyed.admitted (h : t.Keyed a c blank base births) (ha : a.Of c) (hfiles : c.KeepsFiles)
    (context : Option FileRef) (hbound : (t.resolved c context).elapsed < 2 ^ 64)
    (hreturn : NeverReturns c.stamp (t.resolved c context).moments) :
    ∃ births', t.Admitted a c blank base births' context := by
  have hscopes := (ScopeState.scopeFor_spec ha h.scopes context .resolve hreturn).2
  have hresolved : (t.resolved c context).Keyed a c blank base births :=
    h.moveTo (t.state.resolveScope c context).2 (.refl _) hscopes
  obtain ⟨births', hborn, hepoch, hentered⟩ := hresolved.enter hbound
  exact ⟨births',
    { keyed := hentered
      born := hborn
      later := elapsed_le_moveTo (t.state.resolveScope c context).2
      epoch := fun hnow => (hepoch.trans (epoch_resolved context hnow)).symm
      scope := h.scope_resolved ha hfiles context hreturn
      still := fun hstill => elapsed_resolved_of_still hstill context }⟩

section Opening

variable {context : Option FileRef} (h : t.Admitted a c blank base births context)
  (ht : ∀ old ∈ t.exchanges, old.opened = t.elapsed →
    c.epoch old.start = c.epoch t.state.site)

include h ht

/-- A call that finds a schema in the current map. -/
theorem Admitted.found
    (hfound : (t.entered c context).state.schemas.lookup? (t.map c context) (t.scope c context) =
      some info) : (t.found c context info).Keyed a c blank base births := by
  have hkeyed := h.keyed.append (t.entered c context).state.schemas
    (t.exchange context (.ended (.ok info) (t.entered c context).elapsed)) [] rfl rfl
    h.keyed.numbered h.later h.epoch ht (fun _ hbuild => by cases hbuild) ?_
  · rw [List.append_nil] at hkeyed
    exact hkeyed
  · intro hstill
    obtain ⟨entry, hentry, hsame, rfl⟩ := SchemaCache.mem_of_lookup? hfound
    have horigin := h.keyed.entries _ _ h.born entry hentry
    have hscope := Scope.same_trans hsame (h.scope hstill.symm)
    rw [hstill] at horigin
    exact (horigin.of_same (Scope.same_symm hscope)).mono (.of_append rfl rfl)

/-- A call that finds nothing begins a build together with its map. -/
theorem Admitted.begun : (t.begun c context).Keyed a c blank base births := by
  let build : Build := { call := t.exchanges.length, began := (t.entered c context).elapsed }
  have hlast := h.keyed.numbered
  have hkeyed := h.keyed.append (t.entered c context).state.numbered.schemas
    (t.exchange context (t.opening c context)) [build] rfl rfl
    (congrArg (· + 1) hlast) h.later h.epoch ht
    (fun other hother => by
      obtain rfl := List.mem_singleton.mp hother
      exact ⟨rfl, h.still⟩)
    ⟨t.builds.length, build, h.born, congrArg (· + 1) hlast, List.getElem?_concat_length, rfl,
      h.later, h.scope⟩
  exact hkeyed.moveTo ((t.entered c context).state.numbered.withSite (t.work c context).site)
    (.refl _) hkeyed.scopes

end Opening

/-! ### Every run keeps the invariant -/

theorem Keyed.stageKeyed (h : t.Keyed a c blank base births) (hk : t.stage? k = some stage) :
    ∃ exchange, t.exchanges[k]? = some exchange ∧
      t.StageKeyed a c blank births k exchange stage := by
  obtain ⟨exchange, hexchange, rfl⟩ := Option.map_eq_some_iff.mp hk
  exact ⟨exchange, hexchange, h.stages k exchange hexchange⟩

/-- A build goes on. -/
theorem Keyed.goOn (h : t.Keyed a c blank base births)
    (hk : t.stage? k = some (.building map scope number work)) (next : Work H) (site : Site H) :
    (proceed k (.building map scope number next) (t.moveTo c (t.state.withSite site))).Keyed
      a c blank base births := by
  obtain ⟨exchange, hexchange, hstage⟩ := h.stageKeyed hk
  have hmoved := h.moveTo (t.state.withSite site) (.refl _) h.scopes
  exact hmoved.further hexchange hstage

/-- A build publishes its outcome under the scope that its call resolved. -/
theorem Keyed.publish (h : t.Keyed a c blank base births)
    (hk : t.stage? k = some (.building map scope number work))
    (houtcome : work.outcome? number = some (.ok info)) :
    (proceed k (.ended (.ok (t.state.schemas.publish map scope info).1) t.elapsed)
      (conclude number (.ok info)
        { t with state :=
          { t.state with schemas := (t.state.schemas.publish map scope info).2 } })).Keyed
      a c blank base births := by
  obtain ⟨exchange, hexchange, i, build, hbirth, hnumber, hbuild, rfl, hopened, hscope⟩ :=
    h.stageKeyed hk
  have hinfo : info.buildId = i + 1 := (Work.buildId_of_outcome? houtcome).trans hnumber
  have horigin : t.Origin a c blank build.began scope info :=
    ⟨i, build, exchange, hinfo, hbuild, rfl, hexchange, hscope⟩
  have hpublished := h.published map scope info fun birth hbirth' => by
    obtain rfl := Option.some.inj (hbirth.symm.trans hbirth')
    exact horigin
  refine (hpublished.concluded number (.ok info)).further hexchange ?_
  intro hstill
  have hbegan : build.began ≤ t.elapsed := h.counted.born _ (List.mem_of_getElem? hbirth)
  have hnow : exchange.opened = build.began := by omega
  have hcontinues : Continues t (conclude number (.ok info)
      { t with state :=
        { t.state with schemas := (t.state.schemas.publish map scope info).2 } }) :=
    .of_conclude rfl rfl
  rw [hnow]
  rcases SchemaCache.publish_eq map scope info t.state.schemas with hown | hfirst
  · rw [hown]
    exact (horigin.of_same (Scope.same_symm (hscope hnow))).mono hcontinues
  · obtain ⟨entry, hentry, hsame, hfound⟩ := SchemaCache.mem_of_lookup? hfirst
    rw [← hfound]
    have hfirst := h.entries map _ hbirth entry hentry
    have hsame := Scope.same_trans hsame (hscope hnow)
    exact (hfirst.of_same (Scope.same_symm hsame)).mono hcontinues

/-- One step keeps the invariant. -/
theorem Step.keyed (hstep : Step c t u) (ha : a.Of c) (hfiles : c.KeepsFiles)
    (h : t.Keyed a c blank base births) (hbound : u.elapsed < 2 ^ 64)
    (hreturn : NeverReturns c.stamp u.moments) :
    ∃ births', u.Keyed a c blank base births' := by
  cases hstep with
  | hit context info hfound =>
    obtain ⟨births', hadmitted⟩ := h.admitted ha hfiles context hbound hreturn
    exact ⟨births', hadmitted.found h.starts hfound⟩
  | miss context hnone =>
    have hresolved : (t.resolved c context).elapsed < 2 ^ 64 :=
      Nat.lt_of_le_of_lt (Nat.le_add_right _ _) hbound
    obtain ⟨births', hadmitted⟩ := h.admitted ha hfiles context hresolved hreturn
    exact ⟨births', hadmitted.begun h.starts⟩
  | resume k j map number scope work next asked answer closed hk hlater hasked hended hresumes =>
    exact ⟨births, h.goOn hk next next.site⟩
  | collected k map number scope site registry schema hk hschema =>
    exact ⟨births, h.goOn hk _ _⟩
  | cancel k map number scope work hk houtcome =>
    obtain ⟨exchange, hexchange, -⟩ := h.stageKeyed hk
    exact ⟨births, (h.concluded number (.error .mk)).further hexchange trivial⟩
  | publish k map number scope work info hk houtcome => exact ⟨births, h.publish hk houtcome⟩
  | meanwhile schemas kept site hthinned hkept =>
    exact ⟨births, h.moveTo _ hthinned (h.scopes.of_perFile_subset hkept.subset)⟩

/-- The invariant holds after every run in which no stamp takes a value again that it left, and the
stamps advance by less than 2⁶⁴ in all. -/
theorem Run.keyed (hrun : Run c t u) (ha : a.Of c) (hfiles : c.KeepsFiles)
    (h : t.Keyed a c blank base births) (hbound : u.elapsed < 2 ^ 64)
    (hreturn : NeverReturns c.stamp u.moments) :
    ∃ births', u.Keyed a c blank base births' := by
  induction hrun with
  | here => exact ⟨births, h⟩
  | step hbefore hstep ih =>
    have hearlier := Nat.lt_of_le_of_lt hstep.traffic.elapsed_le hbound
    obtain ⟨births', hkeyed⟩ := ih hearlier (hreturn.of_sublist hstep.moments_sublist)
    exact hstep.keyed ha hfiles hkeyed hbound hreturn

/-- New caches, before any call. -/
theorem keyed_new {s : SchemaState H} {capacity : UInt64} {root : Path} {options : ScopeOptions}
    (hschemas : s.schemas = { capacity := capacity })
    (hscopes : s.scopes.cache = { root := root, options := options }) :
    ({ state := s } : Dialogue H).Keyed a c { root := root, options := options }
      (mapSource.stamp (c.stamp s.site)) [] where
  scopes := by
    have hnew : s.scopes.cache.Sound c a s.scopes.cache [] := by
      rw [hscopes]
      exact .new
    rwa [hscopes] at hnew ⊢
  counted := SchemaState.counted_new s.site rfl capacity hschemas
  numbered := by rw [hschemas]; rfl
  opened _ hexchange := by cases hexchange
  starts _ hexchange := by cases hexchange
  epochs _ hexchange := by cases hexchange
  built _ hbuild := by cases hbuild
  entries _ _ hbirth := by cases hbirth
  stages _ _ hexchange := by cases hexchange

/-- Every map that holds anything was begun at some advance. -/
theorem Keyed.kept (h : t.Keyed a c blank base births) (m : Nat) :
    ∃ birth, ∀ entry ∈ t.state.schemas.entries m,
      t.Origin a c blank birth entry.scope entry.info := by
  cases hbirth : births[m]? with
  | some birth => exact ⟨birth, h.entries m birth hbirth⟩
  | none =>
    have hnone : t.state.schemas.maps[m]? = none := by
      rw [List.getElem?_eq_none_iff] at hbirth ⊢
      exact h.counted.length ▸ hbirth
    refine ⟨0, fun entry hentry => ?_⟩
    rw [SchemaCache.entries, hnone] at hentry
    cases hentry

/-- The schema that a call ends with while no stamp moves is that of a context with its scope. -/
theorem Keyed.ended (h : t.Keyed a c blank base births) (hexchange : exchange ∈ t.exchanges)
    (hended : exchange.stage = .ended (.ok info) exchange.opened) :
    ∃ i build builder, info.buildId = i + 1 ∧ t.builds[i]? = some build ∧
      t.exchanges[build.call]? = some builder ∧ build.began = exchange.opened ∧
      (builder.opened = build.began → c.epoch builder.start = c.epoch exchange.start ∧
        (scopeOf a c blank exchange).same (scopeOf a c blank builder) = true) := by
  obtain ⟨k, hk⟩ := List.getElem?_of_mem hexchange
  have hstage := h.stages k exchange hk
  rw [hended] at hstage
  obtain ⟨i, build, builder, hnumber, hbuild, hbegan, hbuilder, hscope⟩ := hstage rfl
  refine ⟨i, build, builder, hnumber, hbuild, hbuilder, hbegan, fun hopened => ?_⟩
  have hsame := hopened.trans hbegan
  exact ⟨h.epochs builder (List.mem_of_getElem? hbuilder) exchange hexchange hsame, hscope hsame⟩

end Dialogue

open Dialogue in
/-- Schemas are kept by scope. In every run of new caches in which no stamp takes a value again that
it left and the stamps advance by less than 2⁶⁴ in all, what a map holds was built for calls that
went on to build at one and the same advance; if no stamp of the project moved while such a call
resolved its scope, the schema is kept under the scope that the stamps give for the context of the
call. A call during which no stamp moves ends with such a schema too, and the scope under which that
was built is its own. Where no question for a scope moves a stamp, no stamp ever moves while a call
resolves its scope. The evaluation of a call, with all calls that are asked for in it, is a stretch
of such a run, in which nothing happens but the evaluation. -/
theorem schemas_kept_by_scope {H : Type} {c : Collaborators H} {a : ScopeAnswers} (ha : a.Of c)
    (hfiles : c.KeepsFiles) {s : SchemaState H} {capacity : UInt64} {root : Path}
    {options : ScopeOptions} (hschemas : s.schemas = { capacity := capacity })
    (hscopes : s.scopes.cache = { root := root, options := options }) :
    (∀ t : Dialogue H, Run c { state := s } t → t.elapsed < 2 ^ 64 →
        NeverReturns c.stamp t.moments →
        (∀ map, ∃ birth, ∀ entry ∈ t.state.schemas.entries map,
          t.Origin a c { root := root, options := options } birth entry.scope entry.info) ∧
        (∀ exchange ∈ t.exchanges, ∀ info,
          exchange.stage = .ended (.ok info) exchange.opened →
            ∃ i build builder, info.buildId = i + 1 ∧ t.builds[i]? = some build ∧
              t.exchanges[build.call]? = some builder ∧ build.began = exchange.opened ∧
              (builder.opened = build.began → c.epoch builder.start = c.epoch exchange.start ∧
                (scopeOf a c { root := root, options := options } exchange).same
                  (scopeOf a c { root := root, options := options } builder) = true)) ∧
        (c.Still → ∀ build ∈ t.builds, ∃ builder,
          t.exchanges[build.call]? = some builder ∧ builder.opened = build.began)) ∧
      (∀ (t : Dialogue H) (depth : Nat) (context : Option FileRef)
        (result : Except Cancelled SchemaInfo) (s' : SchemaState H),
        SchemaState.schemaFor c depth context t.state = some (result, s') →
          ∃ u : Dialogue H, evaluate c depth context t = some (result, u) ∧ Run c t u ∧
            u.state = s' ∧ u.exchanges[t.exchanges.length]? =
              some (t.exchange context (.ended result u.elapsed))) := by
  refine ⟨fun t hrun hbound hreturn => ?kept, ?evaluated⟩
  case kept =>
    obtain ⟨births, hkeyed⟩ := hrun.keyed ha hfiles (keyed_new hschemas hscopes) hbound hreturn
    refine ⟨hkeyed.kept, fun exchange hexchange info => hkeyed.ended hexchange,
      fun hstill build hbuild => ?_⟩
    obtain ⟨builder, hbuilder, hbegan⟩ := hkeyed.built build hbuild
    exact ⟨builder, hbuilder, (hbegan hstill).symm⟩
  case evaluated =>
    intro t depth context result s' heval
    obtain ⟨u, hevaluated, htold⟩ := exists_told heval
    exact ⟨u, hevaluated, htold.reaches.run, htold.state, htold.call⟩

section Example

open Dialogue

/-- No question moves the stamp of a file, which has none. -/
theorem keepsFiles_plain : (plainCollaborators leavingLibrary).KeepsFiles :=
  fun _ _ _ _ => rfl

/-- A library leaves while the first call resolves its scope, and what that builds is not found by
the second call, which builds again, but what the second one builds is found by a third. -/
theorem schemas_kept_by_scope_leaving_library :
    ∃ t : Dialogue Stamp, Run (plainCollaborators leavingLibrary) { state := plainStart } t ∧
      (t.state.schemas.entries 0).length = 2 ∧
      ∃ exchange, t.exchanges[2]? = some exchange ∧
        exchange.stage = .ended (.ok (plainInfo 2)) exchange.opened ∧
        ∃ i build builder, (plainInfo 2).buildId = i + 1 ∧ t.builds[i]? = some build ∧
          t.exchanges[build.call]? = some builder ∧ build.began = exchange.opened ∧
          (builder.opened = build.began →
            (plainCollaborators leavingLibrary).epoch builder.start =
              (plainCollaborators leavingLibrary).epoch exchange.start ∧
            (scopeOf plainAnswers (plainCollaborators leavingLibrary) { root := ⟨[47]⟩ }
              exchange).same (scopeOf plainAnswers (plainCollaborators leavingLibrary)
                { root := ⟨[47]⟩ } builder) = true) := by
  have hschema : Schema.ofRegistry {} = .ok .empty := by decide
  have hfirst := Run.step .here (Step.miss (c := plainCollaborators leavingLibrary)
    (t := { state := plainStart }) (some plainFile) (by decide))
  have hchecked := hfirst.step (.collected 0 _ _ _ _ {} .empty rfl hschema)
  have hended := hchecked.step (.publish 0 _ _ _ _ _ rfl rfl)
  have hsecond := hended.step (.miss (some plainFile) (by decide))
  have hchecked' := hsecond.step (.collected 1 _ _ _ _ {} .empty rfl hschema)
  have hended' := hchecked'.step (.publish 1 _ _ _ _ _ rfl rfl)
  have hthird := hended'.step (.hit (some plainFile) (plainInfo 2) rfl)
  refine ⟨_, hthird, by decide, _, rfl, rfl, ?_⟩
  refine ((schemas_kept_by_scope plainAnswers_of keepsFiles_plain rfl rfl).1 _ hthird (by decide)
    ?_).2.1 _ (List.mem_of_getElem? (i := 2) rfl) _ rfl
  refine .of_pairwise (List.Pairwise.imp (R := fun y x : Site Stamp =>
    x.host ≤ y.host ∧ x.generation ≤ y.generation) (fun h => stamp_plain_le h) ?_)
  decide

/-- A file of another name. -/
def otherFile : FileRef where
  path := ⟨[47, 98]⟩

/-- Collaborators with a project configuration that gives one file the scope `/x` and all others the
scope `/y`, until the libraries are asked for: then the configuration is reloaded, and the scopes
are exchanged. -/
def exchangingCollaborators : Collaborators Stamp :=
  { plainCollaborators fun site => ([], { site with host := 1 }) with
    resolver :=
      { (plainCollaborators fun site => ([], site)).resolver with
        projectConfig := fun file site =>
          let scope : Scope :=
            if file = plainFile ↔ site.host = 0 then .roots [⟨[47, 120]⟩]
            else .roots [⟨[47, 121]⟩]
          (some { scope := some scope }, site) } }

/-- The scope of a file, computed by a new cache. -/
def exchangedScope (file : FileRef) (site : Site Stamp) : Scope :=
  (ScopeState.scopeFor exchangingCollaborators (some file) .resolve
    { cache := { root := ⟨[47]⟩ }, site := site }).1

/-- A schema is kept under a scope that its context does not have. The configuration is reloaded
after the scope of the first call was computed and before it enters the map, so the schema of one
file is kept under what is the scope of the other file at the stamps of the map; a call for the
other file, during which no stamp moves, ends with it. -/
theorem schema_under_foreign_scope :
    ∃ s₁ s₂ : SchemaState Stamp,
      SchemaState.schemaFor exchangingCollaborators 1 (some plainFile) plainStart =
        some (.ok (plainInfo 1), s₁) ∧
      SchemaState.schemaFor exchangingCollaborators 1 (some otherFile) s₁ =
        some (.ok (plainInfo 1), s₂) ∧
      exchangingCollaborators.epoch s₂.site = exchangingCollaborators.epoch s₁.site ∧
      (s₁.schemas.entries 0).map (·.scope.same (exchangedScope plainFile s₁.site)) = [false] ∧
      (exchangedScope otherFile s₁.site).same (exchangedScope plainFile s₁.site) = false := by
  refine ⟨_, _, rfl, rfl, ?_⟩
  decide

end Example

end SchemaEngine
