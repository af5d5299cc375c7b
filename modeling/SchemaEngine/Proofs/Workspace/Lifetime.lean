import SchemaEngine.Proofs.Schema.Evaluation
import SchemaEngine.Proofs.Scope.Lookups
import SchemaEngine.Workspace.Engine

/-!
# The lifetime of a workspace

Everything that happens to a workspace from its beginning on: its calls for schemas go on step by
step, with whatever is asked in their builds, and between these steps scopes are looked up, cells
and entries are dropped, stamps move, and the watcher and the executor make their moves.

## Main definitions

* `Lifetime`: the parts of a workspace, with what has happened to it.
* `Lifetime.Step`, `Lifetime.Run`: the steps, and sequences of them.
* `Lifetime.Sound`: the invariant.

## Main results

* `Lifetime.Run.traffic`: to the calls for schemas, a lifetime is traffic.
* `Lifetime.Run.sound`: the invariant holds throughout.
* `Lifetime.Run.sameMaps`: no map and no build begins while no call does.
-/

set_option autoImplicit false

namespace SchemaEngine

variable {J H : Type}

/-! ### What a step of the calls does -/

/-- Nothing happens to the maps: none is begun, and no build either. -/
structure SchemaCache.SameMaps (cache cache' : SchemaCache) : Prop where
  current : cache'.current = cache.current
  length : cache'.maps.length = cache.maps.length
  lastBuildId : cache'.lastBuildId = cache.lastBuildId

theorem SchemaCache.SameMaps.trans {cache cache' cache'' : SchemaCache}
    (h : cache.SameMaps cache') (h' : cache'.SameMaps cache'') : cache.SameMaps cache'' :=
  ⟨h'.current.trans h.current, h'.length.trans h.length, h'.lastBuildId.trans h.lastBuildId⟩

namespace Dialogue

variable {c : Collaborators H} {t u : Dialogue H}

/-- A call begins, and looks its scope up. -/
def Opens (c : Collaborators H) (t u : Dialogue H) : Prop :=
  ∃ exchange, u.exchanges = t.exchanges ++ [exchange] ∧ exchange.opened = t.elapsed ∧
    u.state.scopes.cache = (t.state.resolveScope c exchange.context).2.scopes.cache

/-- No call begins, and no map; cells of scopes may be dropped. -/
structure GoesOn (t u : Dialogue H) : Prop where
  exchanges : u.exchanges.length = t.exchanges.length
  maps : t.state.schemas.SameMaps u.state.schemas
  perFile : u.state.scopes.cache.perFile ⊆ t.state.scopes.cache.perFile

/-- A call begins in a step, or those that have begun go on. -/
theorem Step.opens_or_goesOn (h : Step c t u) : Opens c t u ∨ GoesOn t u := by
  cases h with
  | hit context info hfound => exact .inl ⟨_, rfl, rfl, (SchemaState.currentMap_same _).2.1⟩
  | miss context hnone => exact .inl ⟨_, rfl, rfl, (SchemaState.currentMap_same _).2.1⟩
  | resume => exact .inr ⟨List.length_modify .., ⟨rfl, rfl, rfl⟩, List.Subset.refl _⟩
  | collected => exact .inr ⟨List.length_modify .., ⟨rfl, rfl, rfl⟩, List.Subset.refl _⟩
  | cancel => exact .inr ⟨List.length_modify .., ⟨rfl, rfl, rfl⟩, List.Subset.refl _⟩
  | publish k map number scope work info =>
    obtain ⟨hcurrent, hlast, hlength⟩ := SchemaCache.publish_same map scope info t.state.schemas
    exact .inr ⟨List.length_modify .., ⟨hcurrent, hlength, hlast⟩, List.Subset.refl _⟩
  | meanwhile schemas kept site hthinned hkept =>
    exact .inr ⟨rfl, ⟨hthinned.current, hthinned.length, hthinned.lastBuildId⟩, hkept.subset⟩

end Dialogue

/-! ### Lifetimes -/

/-- The parts of a workspace, its calls for schemas, and the lookups of scopes, the latest first. -/
structure Lifetime (J H : Type) where
  dialogue : Dialogue H
  watcher : Watcher := {}
  executor : Executor (Job J) := {}
  lookups : List Lookup := []

namespace Lifetime

/-- The engine of the workspace. -/
def engine (t : Lifetime J H) : Engine J H where
  schemas := t.dialogue.state.schemas
  scopes := t.dialogue.state.scopes.cache
  watcher := t.watcher
  executor := t.executor
  site := t.dialogue.state.site

/-- How far the stamps have advanced. -/
def elapsed (t : Lifetime J H) : Nat :=
  t.dialogue.elapsed

/-- A workspace of which nothing was asked yet. -/
def begin (engine : Engine J H) : Lifetime J H where
  dialogue := { state := engine.schemaState }
  watcher := engine.watcher
  executor := engine.executor

/-- The workspace goes on in the state that an operation led to. -/
def goOn (c : Collaborators H) (engine : Engine J H) (t : Lifetime J H) : Lifetime J H :=
  { t with
    dialogue := t.dialogue.moveTo c engine.schemaState
    watcher := engine.watcher
    executor := engine.executor }

/-- A question for a scope is answered. -/
def answered (c : Collaborators H) (s : ScopeState H) (visits : List (Site H)) (t : Lifetime J H) :
    Lifetime J H :=
  { t with dialogue :=
      { t.dialogue.moveTo c { t.dialogue.state with scopes := s } with
        moments := visits ++ t.dialogue.state.site :: t.dialogue.moments } }

/-- The scope of a file is looked up. -/
def lookedUp (c : Collaborators H) (file : FileRef) (flavor : Flavor) (t : Lifetime J H) :
    Lifetime J H :=
  { t.answered c (t.dialogue.state.scopes.scopeFor c (some file) flavor).2
      (t.dialogue.state.scopes.scopeVisits c (some file) flavor) with
    lookups := ⟨file, flavor, t.elapsed⟩ :: t.lookups }

/-- The lookups of the calls that began from one dialogue to another. -/
def callLookups (d e : Dialogue H) : List Lookup :=
  (e.exchanges.drop d.exchanges.length).filterMap fun exchange =>
    exchange.context.map fun file => ⟨file, .resolve, exchange.opened⟩

/-- The steps. -/
inductive Step (c : Collaborators H) (jobs : HostJobs J H) :
    Lifetime J H → Lifetime J H → Prop where
  /-- A step of the calls for schemas, or of nobody in the workspace. -/
  | call {t : Lifetime J H} {d : Dialogue H} : Dialogue.Step c t.dialogue d →
      Step c jobs t { t with dialogue := d, lookups := callLookups t.dialogue d ++ t.lookups }
  /-- The scope of a file is looked up. -/
  | scopeFor {t : Lifetime J H} (file : FileRef) (flavor : Flavor) :
      Step c jobs t (t.lookedUp c file flavor)
  /-- The scope of the whole project is looked up. -/
  | globalScope (t : Lifetime J H) :
      Step c jobs t (t.answered c (t.dialogue.state.scopes.globalScope c).2
        (t.dialogue.state.scopes.projectVisits c))
  /-- A move of the watcher, its timers or the executor. -/
  | make {t : Lifetime J H} {engine : Engine J H} (move : Move J) :
      t.engine.make c jobs move = some engine → Step c jobs t (t.goOn c engine)

/-- Sequences of steps. -/
inductive Run (c : Collaborators H) (jobs : HostJobs J H) (start : Lifetime J H) :
    Lifetime J H → Prop where
  | here : Run c jobs start start
  | step {t u : Lifetime J H} : Run c jobs start t → Step c jobs t u → Run c jobs start u

variable {c : Collaborators H} {jobs : HostJobs J H} {t u v : Lifetime J H} {base : Stamp}

theorem Run.trans (h : Run c jobs t u) (h' : Run c jobs u v) : Run c jobs t v := by
  induction h' with
  | here => exact h
  | step _ hstep ih => exact ih.step hstep

/-! ### The calls for schemas -/

/-- A move leaves schemas and scopes alone. -/
theorem make_same {engine engine' : Engine J H} {move : Move J}
    (h : engine.make c jobs move = some engine') :
    engine'.schemas = engine.schemas ∧ engine'.scopes = engine.scopes := by
  unfold Engine.make at h
  split at h <;> cases h
  exact ⟨rfl, rfl⟩

/-- To the calls for schemas, a step is traffic. -/
theorem Step.traffic (h : Step c jobs t u) :
    Traffic.Run c t.dialogue.traffic u.dialogue.traffic := by
  cases h with
  | call hstep => exact hstep.traffic
  | scopeFor => exact .step .here (.meanwhile (t := t.dialogue.traffic) _ (.refl _))
  | globalScope => exact .step .here (.meanwhile (t := t.dialogue.traffic) _ (.refl _))
  | @make engine _ hmake =>
    refine .step .here (.meanwhile (t := t.dialogue.traffic) engine.schemaState ?_)
    have hsame : engine.schemas = t.dialogue.state.schemas := (make_same hmake).1
    change engine.schemas.Thinned t.dialogue.state.schemas
    rw [hsame]
    exact .refl _

theorem Run.traffic (h : Run c jobs t u) :
    Traffic.Run c t.dialogue.traffic u.dialogue.traffic := by
  induction h with
  | here => exact .here
  | step _ hstep ih => exact ih.trans hstep.traffic

/-- While no call begins, no map begins and no build. -/
theorem Step.sameMaps (h : Step c jobs t u) :
    t.dialogue.exchanges.length ≤ u.dialogue.exchanges.length ∧
      (u.dialogue.exchanges.length = t.dialogue.exchanges.length →
        t.dialogue.state.schemas.SameMaps u.dialogue.state.schemas) := by
  cases h with
  | call hstep =>
    rcases hstep.opens_or_goesOn with ⟨exchange, hexchanges, -⟩ | hgoes
    · simp [hexchanges]
    · exact ⟨Nat.le_of_eq hgoes.exchanges.symm, fun _ => hgoes.maps⟩
  | scopeFor => exact ⟨Nat.le_refl _, fun _ => ⟨rfl, rfl, rfl⟩⟩
  | globalScope => exact ⟨Nat.le_refl _, fun _ => ⟨rfl, rfl, rfl⟩⟩
  | @make engine _ hmake =>
    have hsame : engine.schemas = t.dialogue.state.schemas := (make_same hmake).1
    refine ⟨Nat.le_refl _, fun _ => ?_⟩
    change t.dialogue.state.schemas.SameMaps engine.schemas
    rw [hsame]
    exact ⟨rfl, rfl, rfl⟩

theorem Run.sameMaps (h : Run c jobs t u) :
    t.dialogue.exchanges.length ≤ u.dialogue.exchanges.length ∧
      (u.dialogue.exchanges.length = t.dialogue.exchanges.length →
        t.dialogue.state.schemas.SameMaps u.dialogue.state.schemas) := by
  induction h with
  | here => exact ⟨Nat.le_refl _, fun _ => ⟨rfl, rfl, rfl⟩⟩
  | step _ hstep ih =>
    obtain ⟨hle, hsame⟩ := hstep.sameMaps
    refine ⟨Nat.le_trans ih.1 hle, fun hnone => ?_⟩
    exact (ih.2 (by omega)).trans (hsame (by omega))

/-! ### The invariant -/

theorem callLookups_of_opens {d e : Dialogue H} {exchange : Exchange H}
    (h : e.exchanges = d.exchanges ++ [exchange]) :
    callLookups d e =
      (exchange.context.map fun file => ⟨file, .resolve, exchange.opened⟩).toList := by
  rw [callLookups, h, List.drop_left]
  cases hcontext : exchange.context <;> simp [hcontext]

theorem callLookups_of_goesOn {d e : Dialogue H} (h : e.exchanges.length = d.exchanges.length) :
    callLookups d e = [] := by
  rw [callLookups, ← h, List.drop_length]
  rfl

/-- The invariant of a workspace, where `base` is the sum of the stamps at the beginning. -/
structure Sound (c : Collaborators H) (base : Stamp) (t : Lifetime J H) : Prop where
  traffic : ∃ births, t.dialogue.traffic.Sound c base births
  dated : t.engine.scopes.Dated c base t.lookups
  lookups : ∀ lookup ∈ t.lookups, lookup.opened ≤ t.elapsed

theorem elapsed_le_of_traffic (h : Traffic.Run c t.dialogue.traffic u.dialogue.traffic) :
    t.elapsed ≤ u.elapsed :=
  h.elapsed_le

/-- The stamps add up to what they have advanced. -/
theorem Sound.stamp (h : t.Sound c base) :
    mapSource.stamp (c.stamp t.engine.site) = base + UInt64.ofNat t.elapsed := by
  obtain ⟨births, htraffic⟩ := h.traffic
  exact htraffic.counted.stamp

/-- A call for a schema dates the cell of its scope, if it has a file. -/
theorem Sound.dated_call (h : t.Sound c base) (exchange : Exchange H)
    (hopened : exchange.opened = t.dialogue.elapsed) :
    let lookups := (exchange.context.map fun file : FileRef =>
      (⟨file, .resolve, exchange.opened⟩ : Lookup)).toList
    (t.dialogue.state.resolveScope c exchange.context).2.scopes.cache.Dated c base
        (lookups ++ t.lookups) ∧
      ∀ lookup ∈ lookups, lookup.opened = t.elapsed := by
  intro lookups
  cases hcontext : exchange.context with
  | none =>
    have hnone : lookups = [] := by simp only [lookups, hcontext]; rfl
    rw [hnone]
    exact ⟨h.dated, fun _ hlookup => by cases hlookup⟩
  | some file =>
    have hone : lookups = [⟨file, .resolve, t.elapsed⟩] := by
      simp only [lookups, hcontext, hopened]; rfl
    rw [hone]
    exact ⟨ScopeState.dated_scopeFor h.dated h.stamp file .resolve,
      fun lookup hlookup => List.mem_singleton.mp hlookup ▸ rfl⟩

/-- One step keeps the invariant. -/
theorem Step.sound (hstep : Step c jobs t u) (h : t.Sound c base) (hbound : u.elapsed < 2 ^ 64) :
    u.Sound c base := by
  have htraffic : ∃ births, u.dialogue.traffic.Sound c base births := by
    obtain ⟨births, hsound⟩ := h.traffic
    exact hstep.traffic.sound hsound hbound
  have helapsed := elapsed_le_of_traffic hstep.traffic
  have hlookups : ∀ lookup ∈ t.lookups, lookup.opened ≤ u.elapsed :=
    fun lookup hlookup => Nat.le_trans (h.lookups lookup hlookup) helapsed
  cases hstep with
  | @call d hstep =>
    rcases hstep.opens_or_goesOn with ⟨exchange, hexchanges, hopened, hcache⟩ | hgoes
    · obtain ⟨hdated, hnew⟩ := h.dated_call exchange hopened
      rw [← callLookups_of_opens hexchanges] at hdated hnew
      refine ⟨htraffic, ?_, fun lookup hlookup => ?_⟩
      · change d.state.scopes.cache.Dated c base _
        rw [hcache]
        exact hdated
      · rcases List.mem_append.mp hlookup with hcall | hold
        · exact hnew lookup hcall ▸ helapsed
        · exact hlookups lookup hold
    · rw [callLookups_of_goesOn hgoes.exchanges]
      exact ⟨htraffic, h.dated.of_perFile_subset hgoes.perFile, hlookups⟩
  | scopeFor file flavor =>
    refine ⟨htraffic, ScopeState.dated_scopeFor h.dated h.stamp file flavor, ?_⟩
    intro lookup hlookup
    rcases List.mem_cons.mp hlookup with rfl | hold
    · exact helapsed
    · exact hlookups lookup hold
  | globalScope =>
    have hperFile := ScopeState.perFile_globalScope (c := c) t.dialogue.state.scopes
    exact ⟨htraffic, h.dated.of_perFile_subset fun entry hentry => hperFile ▸ hentry, hlookups⟩
  | @make engine _ hmake =>
    refine ⟨htraffic, ?_, hlookups⟩
    have hsame : engine.scopes = t.engine.scopes := (make_same hmake).2
    change engine.scopes.Dated c base t.lookups
    rw [hsame]
    exact h.dated

theorem Run.sound (hrun : Run c jobs t u) (h : t.Sound c base) (hbound : u.elapsed < 2 ^ 64) :
    u.Sound c base := by
  induction hrun with
  | here => exact h
  | step _ hstep ih =>
    have hearlier := Nat.lt_of_le_of_lt (elapsed_le_of_traffic hstep.traffic) hbound
    exact hstep.sound (ih hearlier) hbound

/-- A workspace that was just set up. -/
theorem sound_begin {engine : Engine J H} {capacity : UInt64} {root : Path}
    {options : ScopeOptions} (hschemas : engine.schemas = { capacity := capacity })
    (hscopes : engine.scopes = { root := root, options := options }) :
    (begin engine).Sound c (mapSource.stamp (c.stamp engine.site)) where
  traffic := ⟨[], Traffic.sound_new (c := c) (s := engine.schemaState) hschemas⟩
  dated entry hentry := by
    have hnone : entry ∈ engine.scopes.perFile := hentry
    rw [hscopes] at hnone
    cases hnone
  lookups _ hlookup := by cases hlookup

end Lifetime

end SchemaEngine
