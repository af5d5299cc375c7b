import SchemaEngine.Proofs.Schema.Traffic
import SchemaEngine.Proofs.Scope.Transparency

/-!
# Calls for schemas, with what is asked in them

The calls of `Traffic` leave open what a build finds out. Here a call resolves its scope, enters the
map and begins its build without a pause, and the build goes on where whoever was asked in it goes
on: with what a later call has ended with, at any time after that. Such steps are steps of
`Traffic`.

## Main definitions

* `Work`: how far a build has come, with the turn that goes on.
* `Dialogue`: the calls up to now.
* `Dialogue.Step`, `Dialogue.Run`: the steps, and sequences of them.
* `Dialogue.traffic`: the same calls without what is asked in them.

## Main results

* `Dialogue.Run.traffic`: the steps of a dialogue are steps of its traffic.
-/

set_option autoImplicit false

namespace SchemaEngine

/-- The state that a turn has come to. -/
def Turn.state {σ Q A R : Type} : Turn σ Q A R → σ
  | .done state _ => state
  | .ask state _ _ => state

/-- The outcome of a build, from what came of assembling and checking its schema: only cancellation
is an error. -/
def SchemaState.outcomeOf (registry : RegistryInfo) (number : Nat) :
    Except BuildError (Schema × List SchemaError) → Except Cancelled SchemaInfo
  | .error .cancelled => .error .mk
  | .error e => .ok (failed e registry number)
  | .ok (schema, errors) => .ok ⟨schema, errors, registry, number⟩

theorem SchemaState.buildId_outcomeOf {registry : RegistryInfo} {number : Nat}
    {result : Except BuildError (Schema × List SchemaError)} {info : SchemaInfo}
    (h : outcomeOf registry number result = .ok info) : info.buildId = number := by
  unfold outcomeOf at h
  split at h <;> cases h <;> rfl

/-- How far a build has come: definitions are being collected, or the schema that was assembled from
them is being checked. -/
inductive Work (H : Type) where
  | collecting (turn : BuildTurn H RegistryInfo)
  | checking (registry : RegistryInfo) (schema : Schema) (turn : BuildTurn H (List ValidationIssue))

namespace Work

variable {H : Type}

/-- The site that a build has come to. -/
def site : Work H → Site H
  | collecting turn => turn.state
  | checking _ _ turn => turn.state

/-- A build goes on at a site, with an answer to the question that was asked in it. -/
inductive Resumes (site : Site H) (question : Option FileRef)
    (answer : Except Cancelled SchemaInfo) : Work H → Work H → Prop
  | collecting (state : Site H)
      (resume : Site H → Except Cancelled SchemaInfo → BuildTurn H RegistryInfo) :
      Resumes site question answer (.collecting (.ask state question resume))
        (.collecting (resume site answer))
  | checking (registry : RegistryInfo) (schema : Schema) (state : Site H)
      (resume : Site H → Except Cancelled SchemaInfo → BuildTurn H (List ValidationIssue)) :
      Resumes site question answer (.checking registry schema (.ask state question resume))
        (.checking registry schema (resume site answer))

/-- The outcome of a build of a number, if it is over. -/
def outcome? (number : Nat) : Work H → Option (Except Cancelled SchemaInfo)
  | collecting (.done _ (.error e)) => some (SchemaState.outcomeOf {} number (.error e))
  | collecting (.done _ (.ok registry)) =>
    match Schema.ofRegistry registry.registry with
    | .error problem =>
      some (SchemaState.outcomeOf registry number (.error (.internal problem.message)))
    | .ok _ => none
  | checking registry schema (.done _ result) =>
    some (SchemaState.outcomeOf registry number
      (result.map fun issues => (schema, SchemaState.errorsOf issues)))
  | _ => none

/-- The outcome of a build has its number. -/
theorem buildId_of_outcome? {number : Nat} {work : Work H} {info : SchemaInfo}
    (h : work.outcome? number = some (.ok info)) : info.buildId = number := by
  unfold outcome? at h
  split at h
  · exact SchemaState.buildId_outcomeOf (Option.some.inj h)
  · split at h
    · exact SchemaState.buildId_outcomeOf (Option.some.inj h)
    · cases h
  · exact SchemaState.buildId_outcomeOf (Option.some.inj h)
  · cases h

end Work

/-- How far a call has come: it builds a schema of a number for a map and a scope, or it has ended
at an advance. -/
inductive Stage (H : Type) where
  | building (map : Nat) (scope : Scope) (number : Nat) (work : Work H)
  | ended (result : Except Cancelled SchemaInfo) (closed : Nat)

/-- A call for the schema that is visible from a file. -/
structure Exchange (H : Type) where
  context : Option FileRef
  /-- The site at which it began. -/
  start : Site H
  /-- The advance at which it began. -/
  opened : Nat
  stage : Stage H

/-- The calls at a cache, with what is asked in them. -/
structure Dialogue (H : Type) where
  state : SchemaState H
  /-- How far the stamps have advanced. -/
  elapsed : Nat := 0
  exchanges : List (Exchange H) := []
  builds : List Build := []
  /-- The moments at which a call began, or a question for a scope was answered. -/
  moments : List (Site H) := []

namespace Dialogue

variable {H : Type}

/-- A call comes further. -/
def proceed (k : Nat) (stage : Stage H) (t : Dialogue H) : Dialogue H :=
  { t with exchanges := t.exchanges.modify k fun exchange => { exchange with stage := stage } }

/-- The build of a number ends. -/
def conclude (number : Nat) (outcome : Except Cancelled SchemaInfo) (t : Dialogue H) : Dialogue H :=
  { t with
    builds := t.builds.modify (number - 1) fun build => { build with outcome := some outcome } }

/-- The stage of a call. -/
def stage? (t : Dialogue H) (k : Nat) : Option (Stage H) :=
  t.exchanges[k]?.map (·.stage)

/-- The state moves on, and with it the stamps. -/
def moveTo (c : Collaborators H) (state : SchemaState H) (t : Dialogue H) : Dialogue H :=
  { t with state := state, elapsed := t.elapsed + c.advance t.state.site state.site }

section Opening

variable (c : Collaborators H) (context : Option FileRef) (t : Dialogue H)

/-- The scope of a call that begins. -/
def scope : Scope :=
  (t.state.resolveScope c context).1

/-- The dialogue once the scope of a call is resolved. -/
def resolved : Dialogue H :=
  { t.moveTo c (t.state.resolveScope c context).2 with
    moments := t.state.scopes.scopeVisits c context .resolve ++ t.state.site :: t.moments }

/-- The number of the map that a call enters. -/
def map : Nat :=
  ((t.resolved c context).state.currentMap c).1

/-- The dialogue once a call has entered the current map. -/
def entered : Dialogue H :=
  { t.resolved c context with state := ((t.resolved c context).state.currentMap c).2 }

/-- The number of the build that a call begins. -/
def number : Nat :=
  (t.entered c context).state.schemas.lastBuildId + 1

/-- The build that a call begins. -/
def work : Work H :=
  .collecting (c.registryInfo context (t.entered c context).state.site)

/-- The call that begins, in its first stage. -/
def exchange (stage : Stage H) : Exchange H :=
  ⟨context, t.state.site, t.elapsed, stage⟩

/-- The first stage of a call that begins a build. -/
def opening : Stage H :=
  .building (t.map c context) (t.scope c context) (t.number c context) (t.work c context)

/-- The dialogue once a call has ended with a schema that it found. -/
def found (info : SchemaInfo) : Dialogue H :=
  { t.entered c context with
    exchanges := t.exchanges ++
      [t.exchange context (.ended (.ok info) (t.entered c context).elapsed)] }

/-- The dialogue once a call has begun a build. -/
def begun : Dialogue H :=
  moveTo c ((t.entered c context).state.numbered.withSite (t.work c context).site)
    { t.entered c context with
      exchanges := t.exchanges ++ [t.exchange context (t.opening c context)]
      builds := t.builds ++
        [{ call := t.exchanges.length, began := (t.entered c context).elapsed }] }

end Opening

/-- The steps. -/
inductive Step (c : Collaborators H) : Dialogue H → Dialogue H → Prop where
  /-- A call begins and finds what it asks for. -/
  | hit {t : Dialogue H} (context : Option FileRef) (info : SchemaInfo) :
      (t.entered c context).state.schemas.lookup? (t.map c context) (t.scope c context) =
          some info →
        Step c t (t.found c context info)
  /-- A call begins, finds nothing, and begins a build. -/
  | miss {t : Dialogue H} (context : Option FileRef) :
      (t.entered c context).state.schemas.lookup? (t.map c context) (t.scope c context) = none →
        Step c t (t.begun c context)
  /-- A later call has ended for what was asked in a build, and the build goes on with that. -/
  | resume {t : Dialogue H} (k j map number : Nat) (scope : Scope) (work next : Work H)
      (asked : Exchange H) (answer : Except Cancelled SchemaInfo) (closed : Nat) :
      t.stage? k = some (.building map scope number work) →
      k < j → t.exchanges[j]? = some asked → asked.stage = .ended answer closed →
      work.Resumes t.state.site asked.context answer next →
        Step c t (proceed k (.building map scope number next)
          (t.moveTo c (t.state.withSite next.site)))
  /-- The definitions are collected, and the schema that they make is to be checked. -/
  | collected {t : Dialogue H} (k map number : Nat) (scope : Scope) (site : Site H)
      (registry : RegistryInfo) (schema : Schema) :
      t.stage? k = some (.building map scope number (.collecting (.done site (.ok registry)))) →
      Schema.ofRegistry registry.registry = .ok schema →
        Step c t (proceed k
          (.building map scope number (.checking registry schema (c.validate schema t.state.site)))
          (t.moveTo c (t.state.withSite (c.validate schema t.state.site).state)))
  /-- A build is cancelled, and so is its call. -/
  | cancel {t : Dialogue H} (k map number : Nat) (scope : Scope) (work : Work H) :
      t.stage? k = some (.building map scope number work) →
      work.outcome? number = some (.error .mk) →
        Step c t (proceed k (.ended (.error .mk) t.elapsed) (t.conclude number (.error .mk)))
  /-- A build is over, and its outcome is published. -/
  | publish {t : Dialogue H} (k map number : Nat) (scope : Scope) (work : Work H)
      (info : SchemaInfo) :
      t.stage? k = some (.building map scope number work) →
      work.outcome? number = some (.ok info) →
        Step c t (proceed k
          (.ended (.ok (t.state.schemas.publish map scope info).1) t.elapsed)
          (conclude number (.ok info)
            { t with state :=
              { t.state with schemas := (t.state.schemas.publish map scope info).2 } }))
  /-- Stamps move, and entries of maps and cells of scopes are dropped. -/
  | meanwhile {t : Dialogue H} (schemas : SchemaCache) (kept : List FileScope) (site : Site H) :
      schemas.Thinned t.state.schemas → kept.Sublist t.state.scopes.cache.perFile →
        Step c t (t.moveTo c
          ⟨schemas, { cache := { t.state.scopes.cache with perFile := kept }, site := site }⟩)

/-- Sequences of steps. -/
inductive Run (c : Collaborators H) (start : Dialogue H) : Dialogue H → Prop where
  | here : Run c start start
  | step {t u : Dialogue H} : Run c start t → Step c t u → Run c start u

theorem Run.trans {c : Collaborators H} {t u v : Dialogue H} (h : Run c t u) (h' : Run c u v) :
    Run c t v := by
  induction h' with
  | here => exact h
  | step _ hstep ih => exact ih.step hstep

theorem Step.run {c : Collaborators H} {t u : Dialogue H} (h : Step c t u) : Run c t u :=
  .step .here h

end Dialogue

/-! ### The traffic of a dialogue -/

/-- How far a call has come, whatever is asked in it. -/
def Stage.progress {H : Type} : Stage H → Progress
  | .building map scope number _ => .building map scope number
  | .ended result _ => .ended result

/-- A call without what is asked in it. -/
def Exchange.call {H : Type} (exchange : Exchange H) : Call :=
  ⟨exchange.opened, exchange.stage.progress⟩

namespace Dialogue

variable {H : Type} {c : Collaborators H} {t u : Dialogue H} {k : Nat} {stage : Stage H}

/-- The traffic of a dialogue. -/
def traffic (t : Dialogue H) : Traffic H where
  state := t.state
  elapsed := t.elapsed
  calls := t.exchanges.map Exchange.call
  builds := t.builds

theorem progress?_traffic (h : t.stage? k = some stage) :
    t.traffic.progress? k = some stage.progress := by
  obtain ⟨exchange, hexchange, rfl⟩ := Option.map_eq_some_iff.mp h
  simp [Traffic.progress?, traffic, hexchange, Exchange.call]

theorem traffic_proceed (k : Nat) (stage : Stage H) (t : Dialogue H) :
    (proceed k stage t).traffic = Traffic.proceed k stage.progress t.traffic := by
  have hcalls : (t.exchanges.modify k fun exchange => { exchange with stage := stage }).map
      Exchange.call = (t.exchanges.map Exchange.call).modify k fun call =>
        { call with progress := stage.progress } := by
    refine List.ext_getElem? fun j => ?_
    simp only [List.getElem?_map, List.getElem?_modify]
    cases t.exchanges[j]? with
    | none => rfl
    | some exchange => by_cases hk : k = j <;> simp [hk, Exchange.call]
  simp only [traffic, proceed, Traffic.proceed, hcalls]

/-- A call that does not come further in the eyes of the traffic. -/
theorem traffic_proceed_same {old : Stage H} (h : t.stage? k = some old) (stage : Stage H)
    (hsame : stage.progress = old.progress) (u : Dialogue H)
    (hexchanges : u.exchanges = t.exchanges) : (proceed k stage u).traffic = u.traffic := by
  rw [traffic_proceed]
  obtain ⟨exchange, hexchange, rfl⟩ := Option.map_eq_some_iff.mp h
  have hcalls : (u.exchanges.map Exchange.call).modify k (fun call =>
      { call with progress := stage.progress }) = u.exchanges.map Exchange.call := by
    refine List.ext_getElem? fun j => ?_
    simp only [List.getElem?_map, List.getElem?_modify, hexchanges]
    by_cases hk : k = j
    · subst hk
      simp [hexchange, Exchange.call, hsame]
    · simp [hk]
  simp only [traffic, Traffic.proceed, hcalls]

/-- Moving on is a step of the traffic. -/
theorem traffic_moveTo {state : SchemaState H} (h : state.schemas.Thinned t.state.schemas) :
    Traffic.Run c t.traffic (t.moveTo c state).traffic :=
  .step .here (.meanwhile (t := t.traffic) state h)

/-- The traffic once the scope of a call is resolved. -/
def called (c : Collaborators H) (context : Option FileRef) (t : Dialogue H) : Traffic H :=
  { (t.resolved c context).traffic with
    calls := t.traffic.calls ++ [{ opened := t.elapsed }] }

theorem progress?_called (context : Option FileRef) :
    (t.called c context).progress? t.traffic.calls.length = some .begun := by
  simp [Traffic.progress?, called]

/-- A call begins and resolves its scope: one begins in the traffic, and stamps move. -/
theorem run_called (context : Option FileRef) : Traffic.Run c t.traffic (t.called c context) :=
  .step (.step .here (.begin t.traffic)) (.meanwhile (t.state.resolveScope c context).2 (.refl _))

/-- A call that has begun in the traffic comes as far as its first stage. -/
theorem proceed_exchange (context : Option FileRef) (stage : Stage H) (state : SchemaState H)
    (elapsed : Nat) (builds : List Build) :
    Traffic.proceed t.traffic.calls.length stage.progress
        ⟨state, elapsed, t.traffic.calls ++ [{ opened := t.elapsed }], builds⟩ =
      ⟨state, elapsed, (t.exchanges ++ [t.exchange context stage]).map Exchange.call, builds⟩ := by
  simp only [Traffic.proceed, modify_concat_length, List.map_append]
  rfl

/-- A call that finds a schema does so in the traffic. -/
theorem fetch_found (context : Option FileRef) {info : SchemaInfo}
    (hfound : (t.entered c context).state.schemas.lookup? (t.map c context) (t.scope c context) =
      some info) :
    Traffic.Fetch c t.traffic.calls.length (t.scope c context) (t.called c context)
      (t.found c context info).traffic := by
  have hfetch : Traffic.Fetch c _ (t.scope c context) _ _ :=
    .hit info (progress?_called context) hfound
  have hcall := proceed_exchange (t := t) context
    (.ended (.ok info) (t.entered c context).elapsed) (t.entered c context).state
    (t.entered c context).elapsed (t.entered c context).builds
  exact hcall.subst (motive := Traffic.Fetch c _ _ _) hfetch

/-- The traffic once a call has entered the current map and begun a build, before anybody is asked
in it. -/
def numbered (c : Collaborators H) (context : Option FileRef) (t : Dialogue H) : Traffic H :=
  { (t.begun c context).traffic with
    state := (t.entered c context).state.numbered
    elapsed := (t.entered c context).elapsed }

/-- A call that begins a build does so in the traffic. -/
theorem fetch_begun (context : Option FileRef)
    (hnone : (t.entered c context).state.schemas.lookup? (t.map c context) (t.scope c context) =
      none) :
    Traffic.Fetch c t.traffic.calls.length (t.scope c context) (t.called c context)
      (t.numbered c context) := by
  have hfetch : Traffic.Fetch c _ (t.scope c context) _ _ :=
    .miss (progress?_called context) hnone
  have hcall := proceed_exchange (t := t) context (t.opening c context)
    (t.entered c context).state.numbered (t.entered c context).elapsed
    (t.builds ++ [{ call := t.traffic.calls.length, began := (t.entered c context).elapsed }])
  have hlength : t.traffic.calls.length = t.exchanges.length := List.length_map ..
  have hmoved := hcall.subst (motive := Traffic.Fetch c _ _ _) hfetch
  rwa [hlength] at hmoved ⊢

/-- The steps of a dialogue are steps of its traffic. -/
theorem Step.traffic (h : Step c t u) : Traffic.Run c t.traffic u.traffic := by
  cases h with
  | hit context info hfound => exact .step (run_called context) (fetch_found context hfound).step
  | miss context hnone =>
    exact .step (.step (run_called context) (fetch_begun context hnone).step)
      (.meanwhile _ (.refl _))
  | resume k j map number scope work next asked answer closed hk hlater hasked hended hresumes =>
    rw [traffic_proceed_same hk (.building map scope number next) rfl (t.moveTo c _) rfl]
    exact traffic_moveTo (.refl _)
  | collected k map number scope site registry schema hk hschema =>
    rw [traffic_proceed_same hk (.building map scope number (.checking registry schema _)) rfl
      (t.moveTo c _) rfl]
    exact traffic_moveTo (.refl _)
  | cancel k map number scope work hk houtcome =>
    rw [traffic_proceed]
    exact .step .here (.cancel k map number scope (progress?_traffic hk))
  | publish k map number scope work info hk houtcome =>
    rw [traffic_proceed]
    exact .step .here (.publish k map number scope info (progress?_traffic hk)
      (Work.buildId_of_outcome? houtcome))
  | meanwhile schemas kept site hthinned hkept => exact traffic_moveTo hthinned

/-- The runs of a dialogue are runs of its traffic. -/
theorem Run.traffic (h : Run c t u) : Traffic.Run c t.traffic u.traffic := by
  induction h with
  | here => exact .here
  | step _ hstep ih => exact ih.trans hstep.traffic

end Dialogue

end SchemaEngine
