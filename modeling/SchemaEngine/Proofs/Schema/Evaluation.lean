import SchemaEngine.Proofs.Schema.Dialogue
import SchemaEngine.Proofs.Scope.Retention

/-!
# What a call is evaluated to

Evaluating a call evaluates the calls that are asked for in it first, to whatever depth they nest.
Within a dialogue an evaluation records all that happens in it, and comes to the same result and the
same state. All of it can be told step by step: an evaluation is a stretch of the dialogue, at whose
end the call has ended with its result. No entry of a map is dropped on the way, and no cell of a
scope.

## Main definitions

* `SchemaState.Retains`, `Dialogue.Steady`: no entry of a map is dropped, and no cell of a scope.
* `Dialogue.Reaches`: a steady run that leaves earlier calls alone.
* `Dialogue.evaluate`: the evaluation of a call within a dialogue.
* `Dialogue.Told`, `Dialogue.Tells`: evaluations are told by steps.

## Main results

* `Dialogue.Tells.run_turn`: a turn is told by the steps of its build.
* `Dialogue.tells_schemaFor`, `Dialogue.exists_told`: a call is told by its steps.
-/

set_option autoImplicit false

namespace SchemaEngine

namespace SchemaState

variable {H : Type}

/-- How the questions of a turn are answered, in the state of the turn and the hidden rest. -/
def answering (nested : Nested H) (context : Option FileRef) (site : Site H)
    (rest : SchemaCache × ScopeCache) :
    Option (Except Cancelled SchemaInfo × Site H × SchemaCache × ScopeCache) :=
  match nested context ⟨rest.1, ⟨rest.2, site⟩⟩ with
  | none => none
  | some (told, s) => some (told, s.site, (s.schemas, s.scopes.cache))

/-- A step of a build is the turn of its collaborator. -/
theorem runStep_eq {R : Type} (nested : Nested H) (step : Site H → BuildTurn H R)
    (s : SchemaState H) :
    runStep nested step s =
      ((step s.site).run? (answering nested) (s.schemas, s.scopes.cache)).map
        fun answer => (answer.1, ⟨answer.2.2.1, ⟨answer.2.2.2, answer.2.1⟩⟩) := by
  unfold runStep
  dsimp only
  generalize htold : Turn.run? _ (step s.site) (s.schemas, s.scopes.cache) = told
  have hanswered : (step s.site).run? (answering nested) (s.schemas, s.scopes.cache) = told := htold
  rw [hanswered]
  cases told <;> rfl

theorem run?_of_runStep {R : Type} {nested : Nested H} {step : Site H → BuildTurn H R}
    {s t : SchemaState H} {result : Except BuildError R}
    (h : runStep nested step s = some (result, t)) :
    (step s.site).run? (answering nested) (s.schemas, s.scopes.cache) =
      some (result, t.site, t.schemas, t.scopes.cache) := by
  rw [runStep_eq] at h
  obtain ⟨answer, hanswer, hparts⟩ := Option.map_eq_some_iff.mp h
  cases hparts
  exact hanswer

/-- A state is its schemas, its scopes and its site. -/
theorem eq_of_parts {s t : SchemaState H} (hschemas : s.schemas = t.schemas)
    (hcache : s.scopes.cache = t.scopes.cache) (hsite : s.site = t.site) : s = t := by
  obtain ⟨schemas, cache, site⟩ := s
  obtain ⟨schemas', cache', site'⟩ := t
  obtain rfl : schemas = schemas' := hschemas
  obtain rfl : cache = cache' := hcache
  obtain rfl : site = site' := hsite
  rfl

/-- No entry of a map is dropped, and no cell of a scope. -/
structure Retains (before after : SchemaState H) : Prop where
  schemas : before.schemas.Retains after.schemas
  cells : before.scopes.cache.perFile.length ≤ after.scopes.cache.perFile.length

theorem Retains.refl (s : SchemaState H) : s.Retains s :=
  ⟨.refl _, Nat.le_refl _⟩

theorem Retains.of_schemas {s t : SchemaState H} (h : s.schemas.Retains t.schemas)
    (hscopes : t.scopes.cache = s.scopes.cache) : s.Retains t :=
  ⟨h, hscopes ▸ Nat.le_refl _⟩

end SchemaState

namespace Dialogue

variable {H : Type} {c : Collaborators H} {t u v : Dialogue H} {k : Nat} {stage : Stage H}

/-- Sequences of steps in which no entry of a map is dropped, and no cell of a scope. -/
inductive Steady (c : Collaborators H) (start : Dialogue H) : Dialogue H → Prop where
  | here : Steady c start start
  | step {t u : Dialogue H} : Steady c start t → Step c t u → t.state.Retains u.state →
      Steady c start u

theorem Steady.trans (h : Steady c t u) (h' : Steady c u v) : Steady c t v := by
  induction h' with
  | here => exact h
  | step _ hstep hretains ih => exact ih.step hstep hretains

theorem Steady.run (h : Steady c t u) : Run c t u := by
  induction h with
  | here => exact .here
  | step _ hstep _ ih => exact ih.step hstep

theorem Step.steady (h : Step c t u) (hretains : t.state.Retains u.state) : Steady c t u :=
  .step .here h hretains

/-- A steady run that leaves the calls before a given one alone; that one may come further. -/
structure Reaches (c : Collaborators H) (k : Nat) (t u : Dialogue H) : Prop where
  steady : Steady c t u
  kept : ∀ j < k, u.exchanges[j]? = t.exchanges[j]?
  further : ∀ exchange, t.exchanges[k]? = some exchange →
    ∃ stage, u.exchanges[k]? = some { exchange with stage := stage }

theorem Reaches.run (h : Reaches c k t u) : Run c t u :=
  h.steady.run

theorem Reaches.refl (c : Collaborators H) (k : Nat) (t : Dialogue H) : Reaches c k t t :=
  ⟨.here, fun _ _ => rfl, fun exchange h => ⟨exchange.stage, h⟩⟩

theorem Reaches.trans (h : Reaches c k t u) (h' : Reaches c k u v) : Reaches c k t v := by
  refine ⟨h.steady.trans h'.steady, fun j hj => (h'.kept j hj).trans (h.kept j hj), ?_⟩
  intro exchange hexchange
  obtain ⟨stage, hstage⟩ := h.further exchange hexchange
  obtain ⟨stage', hstage'⟩ := h'.further { exchange with stage := stage } hstage
  exact ⟨stage', hstage'⟩

theorem Reaches.of_lt {j : Nat} (h : Reaches c k t u) (hj : j < k) : Reaches c j t u :=
  ⟨h.steady, fun i hi => h.kept i (Nat.lt_trans hi hj),
    fun exchange hexchange => ⟨exchange.stage, (h.kept j hj).trans hexchange⟩⟩

theorem lt_of_stage? (h : t.stage? k = some stage) : k < t.exchanges.length := by
  obtain ⟨exchange, hexchange, -⟩ := Option.map_eq_some_iff.mp h
  exact (List.getElem?_eq_some_iff.mp hexchange).1

theorem stage?_of_kept (h : u.exchanges[k]? = t.exchanges[k]?) : u.stage? k = t.stage? k := by
  rw [stage?, stage?, h]

theorem getElem?_proceed {exchange : Exchange H} (h : u.exchanges[k]? = some exchange) :
    (proceed k stage u).exchanges[k]? = some { exchange with stage := stage } := by
  simp [proceed, h]

/-- A step in which a call comes further leaves those before it alone. -/
theorem Step.reaches_proceed (h : Step c t (proceed k stage u)) (hu : u.exchanges = t.exchanges)
    (hretains : t.state.Retains u.state) : Reaches c k t (proceed k stage u) := by
  refine ⟨h.steady hretains, fun j hj => ?_, fun exchange hexchange => ⟨stage, ?_⟩⟩
  · simp [proceed, hu, Nat.ne_of_gt hj]
  · exact getElem?_proceed (hu ▸ hexchange)

theorem stage?_proceed {old : Stage H} (h : u.stage? k = some old) (stage : Stage H) :
    (proceed k stage u).stage? k = some stage := by
  obtain ⟨exchange, hexchange, -⟩ := Option.map_eq_some_iff.mp h
  rw [stage?, getElem?_proceed hexchange, Option.map_some]

/-- A call begins: it finds what it asks for, or it begins a build. -/
inductive Enters (c : Collaborators H) (context : Option FileRef) (t : Dialogue H) :
    Dialogue H → Prop where
  | hit (info : SchemaInfo) :
      (t.entered c context).state.schemas.lookup? (t.map c context) (t.scope c context) =
          some info →
        Enters c context t (t.found c context info)
  | miss :
      (t.entered c context).state.schemas.lookup? (t.map c context) (t.scope c context) = none →
        Enters c context t (t.begun c context)

/-! ### Evaluating a call within a dialogue -/

/-- How a call is evaluated within a dialogue: to its result, and to the dialogue in which all that
has happened is recorded. -/
abbrev Evaluation (H : Type) :=
  Option FileRef → Dialogue H → Option (Except Cancelled SchemaInfo × Dialogue H)

/-- An entry is added to the journal. -/
def note (c : Collaborators H) (entry : Entry) (t : Dialogue H) : Dialogue H :=
  t.moveTo c (t.state.note entry)

section Builds

variable (c : Collaborators H) (nested : Evaluation H) (k map : Nat) (scope : Scope) (number : Nat)

/-- The build of a call has come to some work, and with it to the site of that. -/
def workOn (work : Work H) (t : Dialogue H) : Dialogue H :=
  proceed k (.building map scope number work) (t.moveTo c (t.state.withSite work.site))

/-- A turn within a build is carried to its end: what is asked in it is evaluated at once, and the
turn goes on with the answer. `wrap` puts the turn into the build. -/
def attend {R : Type} (wrap : BuildTurn H R → Work H) :
    BuildTurn H R → Dialogue H → Option (Except BuildError R × Dialogue H)
  | .done _ result, t => some (result, t)
  | .ask _ question resume, t =>
    match nested question t with
    | none => none
    | some (answer, u) =>
      attend wrap (resume u.state.site answer)
        (u.workOn c k map scope number (wrap (resume u.state.site answer)))

/-- The schema of what was collected is assembled and checked. -/
def attendAssembly (registry : RegistryInfo) (t : Dialogue H) :
    Option (Except BuildError (Schema × List SchemaError) × Dialogue H) :=
  match Schema.ofRegistry registry.registry with
  | .error problem => some (.error (.internal problem.message), t)
  | .ok schema =>
    match attend c nested k map scope number (.checking registry schema)
        (c.validate schema t.state.site)
        (t.workOn c k map scope number
          (.checking registry schema (c.validate schema t.state.site))) with
    | none => none
    | some (.error e, u) => some (.error e, u)
    | some (.ok issues, u) => some (.ok (schema, SchemaState.errorsOf issues), u)

/-- The build of a call is carried to its outcome, from the turn that collects definitions. -/
def attendBuild (context : Option FileRef) (turn : BuildTurn H RegistryInfo) (t : Dialogue H) :
    Option (Except Cancelled SchemaInfo × Dialogue H) :=
  match attend c nested k map scope number .collecting turn t with
  | none => none
  | some (.error .cancelled, u) => some (.error .mk, u)
  | some (.error e, u) => some (.ok (SchemaState.failed e {} number), u.note c (.buildFailed e))
  | some (.ok registry, u) =>
    match attendAssembly c nested k map scope number registry u with
    | none => none
    | some (.error .cancelled, v) => some (.error .mk, v)
    | some (.error e, v) =>
      some (.ok (SchemaState.failed e registry number),
        (v.note c (.buildFailed e)).note c (.buildCompleted context scope))
    | some (.ok (schema, errors), v) =>
      some (.ok ⟨schema, errors, registry, number⟩, v.note c (.buildCompleted context scope))

end Builds

/-- The evaluation of a call within a dialogue, with the evaluations of all calls that are asked for
in it. Nothing happens in it but that, so it fixes how far the stamps advance meanwhile, at which
moments calls begin and questions for scopes are answered, and how the builds end, in which
order. -/
def evaluate (c : Collaborators H) : Nat → Evaluation H
  | 0, _, _ => none
  | depth + 1, context, t =>
    let k := t.exchanges.length
    let map := t.map c context
    let scope := t.scope c context
    let number := t.number c context
    match (t.entered c context).state.schemas.lookup? map scope with
    | some info => some (.ok info, t.found c context info)
    | none =>
      match attendBuild c (evaluate c depth) k map scope number context
          (c.registryInfo context (t.entered c context).state.site) (t.begun c context) with
      | none => none
      | some (.error cancelled, u) =>
        some (.error cancelled,
          proceed k (.ended (.error cancelled) u.elapsed) (u.conclude number (.error cancelled)))
      | some (.ok info, u) =>
        let (published, schemas) := u.state.schemas.publish map scope info
        some (.ok published,
          proceed k (.ended (.ok published) u.elapsed)
            (conclude number (.ok info) { u with state := { u.state with schemas := schemas } }))

/-! ### What is told of an evaluation -/

/-- What is told of a call: it has begun and ended with a result, and earlier calls are as they
were. -/
structure Told (c : Collaborators H) (t : Dialogue H) (context : Option FileRef)
    (result : Except Cancelled SchemaInfo) (s : SchemaState H) (u : Dialogue H) : Prop where
  enters : ∃ v, Enters c context t v ∧ Steady c v u
  reaches : Reaches c t.exchanges.length t u
  state : u.state = s
  call : u.exchanges[t.exchanges.length]? = some (t.exchange context (.ended result u.elapsed))

/-- In the traffic the call has ended with its result. -/
theorem Told.progress? {context : Option FileRef} {result : Except Cancelled SchemaInfo}
    {s : SchemaState H} (h : Told c t context result s u) :
    u.traffic.progress? t.exchanges.length = some (.ended result) := by
  have hstage : u.stage? t.exchanges.length = some (.ended result u.elapsed) := by
    rw [stage?, h.call]
    rfl
  exact progress?_traffic hstage

theorem length_traffic (t : Dialogue H) : t.traffic.calls.length = t.exchanges.length :=
  List.length_map ..

/-- Nested calls are evaluated within dialogues as they are on the state, and told by steps. -/
def Tells (c : Collaborators H) (nested : SchemaState.Nested H) (evaluation : Evaluation H) :
    Prop :=
  ∀ context s result s', nested context s = some (result, s') → ∀ t : Dialogue H, t.state = s →
    ∃ u, evaluation context t = some (result, u) ∧ Told c t context result s' u

/-- A turn of a collaborator within a build is told by the steps of the build, where `wrap` puts the
turn into the build. -/
theorem Tells.run_turn {R : Type} {nested : SchemaState.Nested H} {evaluation : Evaluation H}
    (hnested : Tells c nested evaluation)
    (wrap : BuildTurn H R → Work H) (hsite : ∀ turn, (wrap turn).site = turn.state)
    (hresumes : ∀ state question resume site answer,
      (wrap (.ask state question resume)).Resumes site question answer (wrap (resume site answer)))
    {map number : Nat} {scope : Scope} {result : Except BuildError R} {s : SchemaState H}
    (turn : BuildTurn H R) :
    ∀ t : Dialogue H, t.stage? k = some (.building map scope number (wrap turn)) →
      t.state.site = turn.state →
      turn.run? (SchemaState.answering nested) (t.state.schemas, t.state.scopes.cache) =
        some (result, s.site, s.schemas, s.scopes.cache) →
      ∃ u, attend c evaluation k map scope number wrap turn t = some (result, u) ∧
        Reaches c k t u ∧ u.state = s ∧
        u.stage? k = some (.building map scope number (wrap (.done s.site result))) := by
  induction turn with
  | done state outcome =>
    intro t hstage hstate hrun
    simp only [Turn.run?, Option.some.injEq, Prod.mk.injEq] at hrun
    obtain ⟨rfl, rfl, hschemas, hcache⟩ := hrun
    exact ⟨t, rfl, .refl c k t, SchemaState.eq_of_parts hschemas hcache hstate, hstage⟩
  | ask state question resume ih =>
    intro t hstage hstate hrun
    simp only [Turn.run?] at hrun
    split at hrun
    · cases hrun
    rename_i told site rest hanswer
    -- The question is a call of its own, which is told first.
    unfold SchemaState.answering at hanswer
    split at hanswer
    · cases hanswer
    rename_i told' s' hcall
    cases hanswer
    obtain ⟨u, heval, hu⟩ := hnested question _ told s' hcall t
      (SchemaState.eq_of_parts rfl rfl hstate)
    have hk := lt_of_stage? hstage
    have hstage' : u.stage? k =
        some (.building map scope number (wrap (.ask state question resume))) :=
      (stage?_of_kept (hu.reaches.kept k hk)).trans hstage
    -- Then the turn goes on with the answer.
    let next := wrap (resume s'.site told)
    have hstep : Step c u (u.workOn c k map scope number next) :=
      .resume k t.exchanges.length map number scope _ next _ told u.elapsed hstage' hk hu.call rfl
        (by rw [hu.state]; exact hresumes ..)
    obtain ⟨v, hattend, hv, hvstate, hvstage⟩ := ih s'.site told
      (u.workOn c k map scope number next) (stage?_proceed (u := u.moveTo c _) hstage' _)
      (hsite _) (by rw [← hrun, ← hu.state]; rfl)
    have hasked := hu.reaches.of_lt hk
    have hresumed := hstep.reaches_proceed rfl (.of_schemas (.refl _) rfl)
    refine ⟨v, ?_, (hasked.trans hresumed).trans hv, hvstate, hvstage⟩
    simp only [attend, heval, hu.state]
    exact hattend

/-- The site may move on between the steps of the calls. -/
theorem reaches_withSite (t : Dialogue H) (site : Site H) :
    Reaches c k t (t.moveTo c (t.state.withSite site)) :=
  ⟨(Step.meanwhile t.state.schemas t.state.scopes.cache.perFile site (.refl _) (.refl _)).steady
    (.of_schemas (.refl _) rfl), fun _ _ => rfl, fun exchange h => ⟨exchange.stage, h⟩⟩

theorem reaches_note (t : Dialogue H) (entry : Entry) : Reaches c k t (t.note c entry) :=
  reaches_withSite t (t.state.site.note entry)

section Build

variable {nested : SchemaState.Nested H} {evaluation : Evaluation H} {map number : Nat}
  {scope : Scope} {s s' : SchemaState H}

/-- Assembling and checking a schema is told by the steps of its build. -/
theorem Tells.run_assemble (hnested : Tells c nested evaluation) {registry : RegistryInfo}
    {result : Except BuildError (Schema × List SchemaError)}
    (hassemble : SchemaState.assemble c nested registry.registry s = some (result, s'))
    (hstate : t.state = s)
    (hstage : t.stage? k =
      some (.building map scope number (.collecting (.done s.site (.ok registry))))) :
    ∃ u work, attendAssembly c evaluation k map scope number registry t = some (result, u) ∧
      Reaches c k t u ∧ u.state = s' ∧
      u.stage? k = some (.building map scope number work) ∧
      work.outcome? number = some (SchemaState.outcomeOf registry number result) := by
  unfold SchemaState.assemble at hassemble
  split at hassemble
  · rename_i problem hproblem
    cases hassemble
    refine ⟨t, _, ?_, .refl c k t, hstate, hstage, ?_⟩
    · simp only [attendAssembly, hproblem]
    · simp only [Work.outcome?, hproblem]
  · rename_i schema hschema
    have hstep := Step.collected (c := c) k map number scope s.site registry schema hstage hschema
    have hrun : ∀ {outcome s''},
        SchemaState.runStep nested (c.validate schema) s = some (outcome, s'') →
          ∃ u, attend c evaluation k map scope number (.checking registry schema)
              (c.validate schema t.state.site) (t.workOn c k map scope number
                (.checking registry schema (c.validate schema t.state.site))) =
              some (outcome, u) ∧
            Reaches c k t u ∧ u.state = s'' ∧ u.stage? k =
              some (.building map scope number
                (.checking registry schema (.done s''.site outcome))) := by
      intro outcome s'' hvalidate
      obtain ⟨u, hattend, hu, hustate, hustage⟩ := hnested.run_turn (.checking registry schema)
        (fun _ => rfl) (fun _ _ _ _ _ => .checking _ _ _ _) (c.validate schema t.state.site)
        (t.workOn c k map scope number
          (.checking registry schema (c.validate schema t.state.site)))
        (stage?_proceed (u := t.moveTo c _) hstage _) rfl
        (by rw [← SchemaState.run?_of_runStep hvalidate, ← hstate]; rfl)
      have hcollected := hstep.reaches_proceed rfl (.of_schemas (.refl _) rfl)
      exact ⟨u, hattend, hcollected.trans hu, hustate, hustage⟩
    split at hassemble
    · cases hassemble
    · rename_i hvalidate
      cases hassemble
      obtain ⟨u, hattend, hu, hustate, hustage⟩ := hrun hvalidate
      exact ⟨u, _, by simp only [attendAssembly, hschema, hattend], hu, hustate, hustage, rfl⟩
    · rename_i hvalidate
      cases hassemble
      obtain ⟨u, hattend, hu, hustate, hustage⟩ := hrun hvalidate
      exact ⟨u, _, by simp only [attendAssembly, hschema, hattend], hu, hustate, hustage, rfl⟩

/-- A build is told by its steps, up to its outcome. -/
theorem Tells.run_build (hnested : Tells c nested evaluation) {context : Option FileRef}
    {outcome : Except Cancelled SchemaInfo}
    (hbuild : SchemaState.build c nested context scope s = some (outcome, s'))
    (hstate : t.state = s.numbered.withSite (c.registryInfo context s.site).state)
    (hstage : t.stage? k = some (.building map scope (s.schemas.lastBuildId + 1)
      (.collecting (c.registryInfo context s.site)))) :
    ∃ u work, attendBuild c evaluation k map scope (s.schemas.lastBuildId + 1) context
        (c.registryInfo context s.site) t = some (outcome, u) ∧
      Reaches c k t u ∧ u.state = s' ∧
      u.stage? k = some (.building map scope (s.schemas.lastBuildId + 1) work) ∧
      work.outcome? (s.schemas.lastBuildId + 1) = some outcome := by
  have hrun : ∀ {result s''},
      SchemaState.runStep nested (c.registryInfo context) s.numbered = some (result, s'') →
        ∃ u, attend c evaluation k map scope (s.schemas.lastBuildId + 1) .collecting
            (c.registryInfo context s.site) t = some (result, u) ∧
          Reaches c k t u ∧ u.state = s'' ∧ u.stage? k =
            some (.building map scope (s.schemas.lastBuildId + 1)
              (.collecting (.done s''.site result))) := by
    intro result s'' hregistry
    exact hnested.run_turn .collecting (fun _ => rfl) (fun _ _ _ _ _ => .collecting _ _) _ t hstage
      (by rw [hstate]; rfl) (by rw [← SchemaState.run?_of_runStep hregistry, hstate]; rfl)
  simp only [SchemaState.build] at hbuild
  split at hbuild
  · cases hbuild
  · rename_i hregistry
    cases hbuild
    obtain ⟨u, hattend, hu, hustate, hustage⟩ := hrun hregistry
    exact ⟨u, _, by simp only [attendBuild, hattend], hu, hustate, hustage, rfl⟩
  · rename_i e s₁ hfailed hregistry
    cases hbuild
    obtain ⟨u, hattend, hu, rfl, hustage⟩ := hrun hregistry
    cases e with
    | cancelled => exact absurd rfl hfailed
    | internal message =>
      exact ⟨_, _, by simp only [attendBuild, hattend], hu.trans (reaches_note u _), rfl, hustage,
        rfl⟩
  · rename_i registry s₁ hregistry
    obtain ⟨u, hattend, hu, hustate, hustage⟩ := hrun hregistry
    -- What comes after the definitions are collected ends in one of three ways, with its notes.
    split at hbuild
    · cases hbuild
    · rename_i hassemble
      cases hbuild
      obtain ⟨v, work, hassembly, hv, hvstate, hvstage, houtcome⟩ :=
        hnested.run_assemble hassemble hustate hustage
      exact ⟨v, work, by simp only [attendBuild, hattend, hassembly], hu.trans hv, hvstate, hvstage,
        houtcome⟩
    · rename_i e s₂ hfailed hassemble
      cases hbuild
      obtain ⟨v, work, hassembly, hv, rfl, hvstage, houtcome⟩ :=
        hnested.run_assemble hassemble hustate hustage
      cases e with
      | cancelled => exact absurd rfl hfailed
      | internal message =>
        have hnoted := (reaches_note v (.buildFailed (.internal message))).trans
          (reaches_note (c := c) (k := k) _ (.buildCompleted context scope))
        exact ⟨_, work, by simp only [attendBuild, hattend, hassembly],
          (hu.trans hv).trans hnoted, rfl, hvstage, houtcome⟩
    · rename_i schema errors s₂ hassemble
      cases hbuild
      obtain ⟨v, work, hassembly, hv, rfl, hvstage, houtcome⟩ :=
        hnested.run_assemble hassemble hustate hustage
      exact ⟨_, work, by simp only [attendBuild, hattend, hassembly],
        (hu.trans hv).trans (reaches_note v _), rfl, hvstage, houtcome⟩

end Build

/-- A call that begins is the next one. -/
theorem getElem?_found (c : Collaborators H) (context : Option FileRef) (info : SchemaInfo)
    (t : Dialogue H) : (t.found c context info).exchanges[t.exchanges.length]? =
      some (t.exchange context (.ended (.ok info) (t.entered c context).elapsed)) :=
  List.getElem?_concat_length

theorem getElem?_begun (c : Collaborators H) (context : Option FileRef) (t : Dialogue H) :
    (t.begun c context).exchanges[t.exchanges.length]? =
      some (t.exchange context (t.opening c context)) :=
  List.getElem?_concat_length

theorem stage?_begun (c : Collaborators H) (context : Option FileRef) (t : Dialogue H) :
    (t.begun c context).stage? t.exchanges.length = some (t.opening c context) := by
  rw [stage?, getElem?_begun, Option.map_some]
  rfl

/-- The build that a call begins is told by its steps, up to its outcome. -/
theorem Tells.run_begun {nested : SchemaState.Nested H} {evaluation : Evaluation H}
    (hnested : Tells c nested evaluation) {context : Option FileRef}
    {outcome : Except Cancelled SchemaInfo} {s : SchemaState H}
    (hbuild : SchemaState.build c nested context (t.scope c context) (t.entered c context).state =
      some (outcome, s)) :
    ∃ u work, attendBuild c evaluation t.exchanges.length (t.map c context) (t.scope c context)
        (t.number c context) context (c.registryInfo context (t.entered c context).state.site)
        (t.begun c context) = some (outcome, u) ∧
      Reaches c t.exchanges.length (t.begun c context) u ∧ u.state = s ∧
      u.stage? t.exchanges.length =
        some (.building (t.map c context) (t.scope c context) (t.number c context) work) ∧
      work.outcome? (t.number c context) = some outcome :=
  hnested.run_build hbuild rfl (stage?_begun c context t)

/-- A step in which a call begins leaves the calls before it alone. -/
theorem Step.reaches_append (h : Step c t u) {exchange : Exchange H}
    (hu : u.exchanges = t.exchanges ++ [exchange]) (hretains : t.state.Retains u.state) :
    Reaches c t.exchanges.length t u := by
  refine ⟨h.steady hretains, fun j hj => ?_, fun old hold => ?_⟩
  · rw [hu, List.getElem?_append_left hj]
  · rw [List.getElem?_eq_none (Nat.le_refl _)] at hold
    cases hold

/-- Entering the current map touches no scope. -/
theorem scopes_entered (c : Collaborators H) (context : Option FileRef) (t : Dialogue H) :
    (t.entered c context).state.scopes.cache =
      (t.state.scopes.scopeFor c context .resolve).2.cache :=
  (SchemaState.currentMap_same _).2.1

/-- Resolving a scope and entering the current map drop nothing, and neither does beginning a
build. -/
theorem retains_entered (c : Collaborators H) (context : Option FileRef) (t : Dialogue H) :
    t.state.Retains (t.entered c context).state where
  schemas := SchemaState.retains_currentMap (t.resolved c context).state
  cells := by
    rw [scopes_entered]
    exact ScopeState.length_perFile_scopeFor t.state.scopes context .resolve

theorem retains_begun (c : Collaborators H) (context : Option FileRef) (t : Dialogue H) :
    t.state.Retains (t.begun c context).state :=
  have hentered := retains_entered c context t
  ⟨⟨hentered.schemas.entries, hentered.schemas.capacity⟩, hentered.cells⟩

/-- What is told of a call that began a build, once the build is over. -/
theorem Told.of_begun {context : Option FileRef} {result : Except Cancelled SchemaInfo}
    (hnone : (t.entered c context).state.schemas.lookup? (t.map c context) (t.scope c context) =
      none)
    (hbuild : Reaches c t.exchanges.length (t.begun c context) u)
    (hend : Step c u (proceed t.exchanges.length (.ended result v.elapsed) v))
    (hv : v.exchanges = u.exchanges) (hretains : u.state.Retains v.state) :
    Told c t context result v.state (proceed t.exchanges.length (.ended result v.elapsed) v) := by
  have hbegun := (Step.miss context hnone).reaches_append rfl (retains_begun c context t)
  have hended := hbuild.trans (hend.reaches_proceed hv hretains)
  refine ⟨⟨_, .miss hnone, hended.steady⟩, hbegun.trans hended, rfl, ?_⟩
  obtain ⟨stage, hstage⟩ := hbuild.further _ (getElem?_begun c context t)
  rw [getElem?_proceed (hv ▸ hstage)]
  rfl

/-- A call is evaluated within a dialogue as it is on the state, and told by its steps, however deep
the calls nest that are asked for in it. -/
theorem tells_schemaFor (c : Collaborators H) (depth : Nat) :
    Tells c (SchemaState.schemaFor c depth) (evaluate c depth) := by
  induction depth with
  | zero =>
    intro context s result s' h
    cases h
  | succ depth ih =>
    rintro context s result s' h t rfl
    simp only [SchemaState.schemaFor] at h
    split at h
    · rename_i info hfound
      cases h
      have hlookup : (t.entered c context).state.schemas.lookup? (t.map c context)
          (t.scope c context) = some info := hfound
      have hstep : Step c t (t.found c context info) := .hit context info hlookup
      have hreaches := hstep.reaches_append rfl (retains_entered c context t)
      exact ⟨_, by simp only [evaluate, hlookup], ⟨_, .hit info hlookup, .here⟩, hreaches, rfl,
        getElem?_found c context info t⟩
    · rename_i hnone
      have hlookup : (t.entered c context).state.schemas.lookup? (t.map c context)
          (t.scope c context) = none := hnone
      split at h
      · cases h
      · rename_i cancelled _ hbuild
        cases h
        cases cancelled
        obtain ⟨u, work, hattend, hu, rfl, hstage, houtcome⟩ := ih.run_begun hbuild
        have hend := Step.cancel (c := c) _ _ _ _ work hstage houtcome
        have htold := Told.of_begun hlookup hu hend rfl (.refl _)
        exact ⟨_, by simp only [evaluate, hlookup, hattend]; rfl, htold⟩
      · rename_i info _ hbuild
        cases h
        obtain ⟨u, work, hattend, hu, rfl, hstage, houtcome⟩ := ih.run_begun hbuild
        have hend := Step.publish (c := c) _ _ _ _ work info hstage houtcome
        have htold := Told.of_begun hlookup hu hend rfl
          (.of_schemas (SchemaCache.retains_publish ..) rfl)
        exact ⟨_, by simp only [evaluate, hlookup, hattend]; rfl, htold⟩

/-- A call that comes to an end is evaluated within every dialogue that is in its state. -/
theorem exists_told {depth : Nat} {context : Option FileRef} {result : Except Cancelled SchemaInfo}
    {s : SchemaState H} (h : SchemaState.schemaFor c depth context t.state = some (result, s)) :
    ∃ u, evaluate c depth context t = some (result, u) ∧ Told c t context result s u :=
  tells_schemaFor c depth context t.state result s h t rfl

end Dialogue

end SchemaEngine
