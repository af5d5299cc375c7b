import SchemaEngine.Proofs.Schema.Assembled
import SchemaEngine.Proofs.Schema.Sharing

/-!
# Outcomes of completed builds

A build that is not cancelled ends with a schema that can be used, whatever was reported to it, and
its errors tell what was. The first step that fails leaves one error on the empty schema; the issues
of a validation leave one error on the schema that was checked. What has been collected is kept in
either case. A schema with errors is published and found as any other one.

## Main definitions

* `SchemaInfo.Usable`: what a build can end with.
* `SchemaState.Checks`: no step of a build fails.
* `SchemaState.Completes`: how a build ends, by the first step that fails.
* `SchemaState.Labels`: an outcome tells what was reported to its build.
* `Dialogue.Usable`: the invariant.

## Main results

* `SchemaState.build_eq_ok_iff`: the outcomes of builds that complete.
* `SchemaState.Completes.labels`: each of them tells what was reported.
* `Dialogue.Step.usable`, `Dialogue.Run.usable`: nothing but usable schemas is held or returned.
* `completed_builds_usable`: all of it.
-/

set_option autoImplicit false

namespace SchemaEngine

/-! ### What a build can end with -/

namespace SchemaInfo

variable {info : SchemaInfo}

/-- What a build can end with: the empty schema with the error of a step that failed, or the schema
of the registry, with the issues of its validation. -/
inductive Usable : SchemaInfo → Prop
  | failed (message : String) (registry : RegistryInfo) (number : Nat) :
      Usable (SchemaState.failed (.internal message) registry number)
  | assembled (registry : RegistryInfo) (schema : Schema) (issues : List ValidationIssue)
      (number : Nat) : Schema.ofRegistry registry.registry = .ok schema →
        Usable ⟨schema, SchemaState.errorsOf issues, registry, number⟩

/-- A usable schema has a query root, which is an object type. -/
theorem Usable.exists_queryType? (h : info.Usable) :
    ∃ t, info.schema.queryType? = some t ∧ t.kind = .object := by
  cases h with
  | failed => exact ⟨.object "Query", rfl, rfl⟩
  | assembled registry schema issues number hschema => exact Schema.exists_queryType? hschema

theorem length_errorsOf_le (issues : List ValidationIssue) :
    (SchemaState.errorsOf issues).length ≤ 1 := by
  unfold SchemaState.errorsOf
  split
  · exact Nat.zero_le 1
  · exact Nat.le_refl 1

/-- It has one error at most. -/
theorem Usable.length_errors_le (h : info.Usable) : info.errors.length ≤ 1 := by
  cases h with
  | failed => exact Nat.le_refl 1
  | assembled registry schema issues => exact length_errorsOf_le issues

/-- An outcome is valid if and only if it has no errors at all. -/
theorem isValid_iff (info : SchemaInfo) : info.isValid = true ↔ info.allErrors = [] := by
  simp [isValid, allErrors, and_comm]

end SchemaInfo

/-! ### How a build ends -/

namespace SchemaState

variable {H : Type} {c : Collaborators H} {nested : Nested H} {context : Option FileRef}
  {scope : Scope} {s : SchemaState H} {info : SchemaInfo} {message : String}
  {registry : RegistryInfo} {schema : Schema} {issues : List ValidationIssue}

/-- The issues of a validation are one error, in their order, if there are any. -/
theorem errorsOf_eq_singleton_iff {error : SchemaError} :
    errorsOf issues = [error] ↔ issues ≠ [] ∧ error = .invalidSchema issues := by
  cases issues with
  | nil => simp [errorsOf]
  | cons issue issues => simp [errorsOf, eq_comm]

theorem errorsOf_eq_nil_iff : errorsOf issues = [] ↔ issues = [] := by
  cases issues <;> simp [errorsOf]

/-- No step of a build fails: definitions are collected, they make a schema, and whoever checks it
reports some issues, or none. -/
def Checks (c : Collaborators H) (nested : Nested H) (context : Option FileRef)
    (s : SchemaState H) (registry : RegistryInfo) (schema : Schema)
    (issues : List ValidationIssue) : Prop :=
  ∃ collected after,
    runStep nested (c.registryInfo context) s.numbered = some (.ok registry, collected) ∧
    Schema.ofRegistry registry.registry = .ok schema ∧
    runStep nested (c.validate schema) collected = some (.ok issues, after)

/-- How a build ends that is not cancelled, by the first step that fails. -/
inductive Completes (c : Collaborators H) (nested : Nested H) (context : Option FileRef)
    (s : SchemaState H) : SchemaInfo → Prop
  | uncollected (message : String) (after : SchemaState H) :
      runStep nested (c.registryInfo context) s.numbered =
          some (.error (.internal message), after) →
        Completes c nested context s
          (failed (.internal message) {} (s.schemas.lastBuildId + 1))
  | unassembled (registry : RegistryInfo) (collected : SchemaState H) (problem : RootProblem) :
      runStep nested (c.registryInfo context) s.numbered = some (.ok registry, collected) →
      Schema.ofRegistry registry.registry = .error problem →
        Completes c nested context s
          (failed (.internal problem.message) registry (s.schemas.lastBuildId + 1))
  | unchecked (registry : RegistryInfo) (collected : SchemaState H) (schema : Schema)
      (message : String) (after : SchemaState H) :
      runStep nested (c.registryInfo context) s.numbered = some (.ok registry, collected) →
      Schema.ofRegistry registry.registry = .ok schema →
      runStep nested (c.validate schema) collected = some (.error (.internal message), after) →
        Completes c nested context s
          (failed (.internal message) registry (s.schemas.lastBuildId + 1))
  | checked (registry : RegistryInfo) (schema : Schema) (issues : List ValidationIssue) :
      Checks c nested context s registry schema issues →
        Completes c nested context s
          ⟨schema, errorsOf issues, registry, s.schemas.lastBuildId + 1⟩

/-- The outcomes of builds that complete. -/
theorem build_eq_ok_iff (scope : Scope) :
    (∃ after, build c nested context scope s = some (.ok info, after)) ↔
      Completes c nested context s info := by
  constructor
  · rintro ⟨after, hbuild⟩
    simp only [build] at hbuild
    split at hbuild
    · cases hbuild
    · cases hbuild
    · rename_i e collected hother hcollect
      cases hbuild
      cases e with
      | cancelled => exact absurd rfl hother
      | internal message => exact .uncollected message _ hcollect
    rename_i registry collected hcollect
    split at hbuild
    · cases hbuild
    · cases hbuild
    · rename_i e assembled hother hassemble
      cases hbuild
      cases e with
      | cancelled => exact absurd rfl hother
      | internal message =>
        unfold assemble at hassemble
        split at hassemble
        · rename_i problem hproblem
          cases hassemble
          exact .unassembled registry _ problem hcollect hproblem
        rename_i schema hschema
        split at hassemble <;> cases hassemble
        rename_i hcheck
        exact .unchecked registry collected schema message _ hcollect hschema hcheck
    · rename_i schema errors assembled hassemble
      cases hbuild
      unfold assemble at hassemble
      split at hassemble
      · cases hassemble
      rename_i made hschema
      split at hassemble <;> cases hassemble
      rename_i issues hcheck
      exact .checked registry _ issues ⟨collected, _, hcollect, hschema, hcheck⟩
  · intro hcompletes
    cases hcompletes with
    | uncollected message after hcollect =>
      simp only [numbered] at hcollect
      simp only [build, hcollect]
      exact ⟨_, rfl⟩
    | unassembled registry collected problem hcollect hproblem =>
      simp only [numbered] at hcollect
      simp only [build, hcollect, assemble, hproblem]
      exact ⟨_, rfl⟩
    | unchecked registry collected schema message after hcollect hschema hcheck =>
      simp only [numbered] at hcollect
      simp only [build, hcollect, assemble, hschema, hcheck]
      exact ⟨_, rfl⟩
    | checked registry schema issues hchecks =>
      obtain ⟨collected, after, hcollect, hschema, hcheck⟩ := hchecks
      simp only [numbered] at hcollect
      simp only [build, hcollect, assemble, hschema, hcheck]
      exact ⟨_, rfl⟩

/-- A build ends in one way. -/
theorem Completes.unique {info' : SchemaInfo} (h : Completes c nested context s info)
    (h' : Completes c nested context s info') : info = info' := by
  obtain ⟨after, hbuild⟩ := (build_eq_ok_iff .empty).mpr h
  obtain ⟨after', hbuild'⟩ := (build_eq_ok_iff .empty).mpr h'
  cases hbuild.symm.trans hbuild'
  rfl

theorem Completes.usable (h : Completes c nested context s info) : info.Usable := by
  cases h with
  | uncollected message => exact .failed message _ _
  | unassembled registry collected problem => exact .failed problem.message _ _
  | unchecked registry collected schema message => exact .failed message _ _
  | checked registry schema issues hchecks =>
    obtain ⟨collected, after, -, hschema, -⟩ := hchecks
    exact .assembled registry schema issues _ hschema

/-- A failure that is reported completes a build with the empty schema. -/
theorem Reports.completes (h : Reports c nested context s (.internal message)) :
    ∃ registry, Completes c nested context s
      (failed (.internal message) registry (s.schemas.lastBuildId + 1)) := by
  cases h with
  | collecting e after hcollect => exact ⟨_, .uncollected message after hcollect⟩
  | assembling registry collected problem hcollect hproblem =>
    exact ⟨_, .unassembled registry collected problem hcollect hproblem⟩
  | checking registry collected schema e after hcollect hschema hcheck =>
    exact ⟨_, .unchecked registry collected schema message after hcollect hschema hcheck⟩

/-- A build completes if and only if a failure is reported to it or no step fails. -/
theorem exists_completes_iff : (∃ info, Completes c nested context s info) ↔
    (∃ message, Reports c nested context s (.internal message)) ∨
      ∃ registry schema issues, Checks c nested context s registry schema issues := by
  constructor
  · rintro ⟨info, hcompletes⟩
    cases hcompletes with
    | uncollected message after hcollect => exact .inl ⟨message, .collecting _ after hcollect⟩
    | unassembled registry collected problem hcollect hproblem =>
      exact .inl ⟨problem.message, .assembling registry collected problem hcollect hproblem⟩
    | unchecked registry collected schema message after hcollect hschema hcheck =>
      exact .inl ⟨message, .checking registry collected schema _ after hcollect hschema hcheck⟩
    | checked registry schema issues hchecks => exact .inr ⟨registry, schema, issues, hchecks⟩
  · rintro (⟨message, hreports⟩ | ⟨registry, schema, issues, hchecks⟩)
    · obtain ⟨registry, hcompletes⟩ := hreports.completes
      exact ⟨_, hcompletes⟩
    · exact ⟨_, .checked registry schema issues hchecks⟩

/-- Collecting fails, or what it has found is kept. -/
theorem Completes.collects (h : Completes c nested context s info) :
    (∃ message after, runStep nested (c.registryInfo context) s.numbered =
      some (.error (.internal message), after)) ∨
    ∃ after, runStep nested (c.registryInfo context) s.numbered =
      some (.ok info.registry, after) := by
  cases h with
  | uncollected message after hfailed => exact .inl ⟨message, after, hfailed⟩
  | unassembled registry collected problem hcollect => exact .inr ⟨collected, hcollect⟩
  | unchecked registry collected schema message after hcollect => exact .inr ⟨collected, hcollect⟩
  | checked registry schema issues hchecks =>
    obtain ⟨collected, after, hcollect, -⟩ := hchecks
    exact .inr ⟨collected, hcollect⟩

/-- An outcome tells what was reported to its build. -/
structure Labels (c : Collaborators H) (nested : Nested H) (context : Option FileRef)
    (s : SchemaState H) (info : SchemaInfo) : Prop where
  /-- The outcome has the number of its build. -/
  number : info.buildId = s.schemas.lastBuildId + 1
  /-- The error of a failure stands on the empty schema, if and only if a step of the build has
  failed with it, after those before it had not. -/
  failed_iff : ∀ message, info.errors = [.internal message] ∧ info.schema = .empty ↔
    Reports c nested context s (.internal message)
  /-- There is no such error on another schema. -/
  empty : ∀ message, info.errors = [.internal message] → info.schema = .empty
  /-- What has been collected is kept, with its errors. -/
  collected : ∀ registry after,
    runStep nested (c.registryInfo context) s.numbered = some (.ok registry, after) →
      info.registry = registry
  /-- So there is nothing in it if and only if collecting has failed, or has found nothing. -/
  registry_eq_empty_iff : info.registry = {} ↔
    (∃ message after, runStep nested (c.registryInfo context) s.numbered =
      some (.error (.internal message), after)) ∨
    ∃ after, runStep nested (c.registryInfo context) s.numbered = some (.ok {}, after)
  /-- An error of a validation holds its issues, in their order, if and only if there are some. -/
  invalid_iff : ∀ issues, info.errors = [.invalidSchema issues] ↔
    issues ≠ [] ∧ ∃ registry schema, Checks c nested context s registry schema issues
  /-- There are no errors if and only if no step has failed and there are no issues. -/
  valid_iff : info.errors = [] ↔
    ∃ registry schema, Checks c nested context s registry schema []
  /-- If no step has failed the schema is that of the registry. -/
  checked : ∀ registry schema issues, Checks c nested context s registry schema issues →
    info.schema = schema ∧ Schema.ofRegistry info.registry.registry = .ok schema

/-- Each outcome tells what was reported. -/
theorem Completes.labels (h : Completes c nested context s info) :
    Labels c nested context s info := by
  -- A build ends in one way, so whatever is reported fixes the outcome.
  have hchecked : ∀ {registry schema issues}, Checks c nested context s registry schema issues →
      info = ⟨schema, errorsOf issues, registry, s.schemas.lastBuildId + 1⟩ :=
    fun hchecks => h.unique (.checked _ _ _ hchecks)
  have hcollected : ∀ {registry after},
      runStep nested (c.registryInfo context) s.numbered = some (.ok registry, after) →
        info.registry = registry := by
    intro registry after hcollect
    rcases h.collects with ⟨message, after, hfailed⟩ | ⟨after', hcollect'⟩
    · cases hfailed.symm.trans hcollect
    · cases hcollect'.symm.trans hcollect
      rfl
  constructor
  case number => cases h <;> rfl
  case failed_iff =>
    refine fun message => ⟨fun ⟨herrors, _⟩ => ?failed, fun hreports => ?reported⟩
    case failed =>
      cases h with
      | uncollected message after hcollect =>
        cases herrors
        exact .collecting _ after hcollect
      | unassembled registry collected problem hcollect hproblem =>
        cases herrors
        exact .assembling registry collected problem hcollect hproblem
      | unchecked registry collected schema message after hcollect hschema hcheck =>
        cases herrors
        exact .checking registry collected schema _ after hcollect hschema hcheck
      | checked registry schema issues hchecks =>
        cases (errorsOf_eq_singleton_iff.mp herrors).2
    case reported =>
      obtain ⟨registry, hcompletes⟩ := hreports.completes
      cases h.unique hcompletes
      exact ⟨rfl, rfl⟩
  case empty =>
    intro message herrors
    cases h with
    | checked registry schema issues hchecks => cases (errorsOf_eq_singleton_iff.mp herrors).2
    | _ => rfl
  case collected => exact fun registry after => hcollected
  case registry_eq_empty_iff =>
    constructor
    · intro hempty
      rcases h.collects with hfailed | ⟨after, hcollect⟩
      · exact .inl hfailed
      · exact .inr ⟨after, hempty ▸ hcollect⟩
    · rintro (⟨message, after, hfailed⟩ | ⟨after, hcollect⟩)
      · rw [h.unique (.uncollected message after hfailed)]
        rfl
      · exact hcollected hcollect
  case invalid_iff =>
    refine fun issues => ⟨fun herrors => ?invalid, ?issues⟩
    case invalid =>
      cases h with
      | checked registry schema reported hchecks =>
        obtain ⟨hsome, hissues⟩ := errorsOf_eq_singleton_iff.mp herrors
        cases hissues
        exact ⟨hsome, registry, schema, hchecks⟩
      | _ => cases herrors
    case issues =>
      rintro ⟨hsome, registry, schema, hchecks⟩
      rw [hchecked hchecks]
      exact errorsOf_eq_singleton_iff.mpr ⟨hsome, rfl⟩
  case valid_iff =>
    constructor
    · intro herrors
      cases h with
      | checked registry schema issues hchecks =>
        obtain rfl := errorsOf_eq_nil_iff.mp herrors
        exact ⟨registry, schema, hchecks⟩
      | _ => cases herrors
    · rintro ⟨registry, schema, hchecks⟩
      rw [hchecked hchecks]
      exact errorsOf_eq_nil_iff.mpr rfl
  case checked =>
    intro registry schema issues hchecks
    rw [hchecked hchecks]
    obtain ⟨collected, after, -, hschema, -⟩ := hchecks
    exact ⟨rfl, hschema⟩

/-- A call finds what is held for its scope, if neither stamp moves while that is resolved. -/
theorem schemaFor_of_held? (h : s.schemas.Guarded)
    (hstill : c.advance s.site (s.resolveScope c context).2.site = 0)
    (hscope : (s.resolveScope c context).1.same scope = true)
    (hheld : s.held? c scope = some info) (depth : Nat) :
    schemaFor c (depth + 1) context s = some (.ok info, s.opened c context) := by
  have hfound : ((s.resolveScope c context).2.currentMap c).2.schemas.lookup?
      ((s.resolveScope c context).2.currentMap c).1 (s.resolveScope c context).1 = some info := by
    rw [held?_eq_of_still h scope hstill] at hheld
    rw [SchemaCache.lookup?_congr hscope, ← hheld, SchemaCache.lookup?, entries_currentMap]
    rfl
  simp only [schemaFor, hfound]
  rfl

end SchemaState

/-! ### What is held and returned -/

/-- What is known of a call that has come so far: what it checks was assembled, and what it returns
is usable. -/
def Stage.Usable {H : Type} : Stage H → Prop
  | .building _ _ _ (.checking registry schema _) =>
    Schema.ofRegistry registry.registry = .ok schema
  | .ended (.ok info) _ => info.Usable
  | _ => True

/-- What a failed step leaves behind is usable, unless the build is cancelled. -/
theorem SchemaState.usable_outcomeOf_error {registry : RegistryInfo} {number : Nat} {e : BuildError}
    {info : SchemaInfo} (h : outcomeOf registry number (.error e) = .ok info) : info.Usable := by
  cases e with
  | cancelled => cases h
  | internal message =>
    cases h
    exact .failed message registry number

/-- The outcome of a build that is over is usable. -/
theorem Stage.Usable.outcome {H : Type} {map number : Nat} {scope : Scope} {work : Work H}
    {info : SchemaInfo} (h : (Stage.building map scope number work).Usable)
    (houtcome : work.outcome? number = some (.ok info)) : info.Usable := by
  match work, h, houtcome with
  | .collecting (.done _ (.error e)), _, houtcome =>
    exact SchemaState.usable_outcomeOf_error (Option.some.inj houtcome)
  | .collecting (.done _ (.ok registry)), _, houtcome =>
    simp only [Work.outcome?] at houtcome
    split at houtcome
    · exact SchemaState.usable_outcomeOf_error (Option.some.inj houtcome)
    · cases houtcome
  | .checking registry schema (.done _ (.error e)), _, houtcome =>
    exact SchemaState.usable_outcomeOf_error (Option.some.inj houtcome)
  | .checking registry schema (.done _ (.ok issues)), hschema, houtcome =>
    cases houtcome
    exact .assembled registry schema issues number hschema

namespace Dialogue

variable {H : Type} {c : Collaborators H} {t u w : Dialogue H} {context : Option FileRef}
  {s : SchemaState H} {info : SchemaInfo} {k : Nat} {stage : Stage H}

/-- Nothing but usable schemas is held or returned. -/
structure Usable (t : Dialogue H) : Prop where
  entries : ∀ m, ∀ entry ∈ t.state.schemas.entries m, entry.info.Usable
  stages : ∀ exchange ∈ t.exchanges, exchange.stage.Usable

theorem Usable.of_stage? (h : t.Usable) (hk : t.stage? k = some stage) : stage.Usable := by
  obtain ⟨exchange, hexchange, rfl⟩ := Option.map_eq_some_iff.mp hk
  exact h.stages exchange (List.mem_of_getElem? hexchange)

theorem Usable.lookup? (h : t.Usable) {m : Nat} {scope : Scope}
    (hfound : t.state.schemas.lookup? m scope = some info) : info.Usable := by
  obtain ⟨entry, hentry, -, rfl⟩ := SchemaCache.mem_of_lookup? hfound
  exact h.entries m entry hentry

/-- A call comes further. -/
theorem Usable.proceed (h : t.Usable) (hstage : stage.Usable) (k : Nat)
    (hentries : ∀ m, ∀ entry ∈ u.state.schemas.entries m, entry.info.Usable)
    (hexchanges : u.exchanges = t.exchanges) : (proceed k stage u).Usable where
  entries := hentries
  stages := by
    intro exchange hexchange
    simp only [Dialogue.proceed, hexchanges] at hexchange
    rcases mem_modify_cases hexchange with hold | ⟨old, hold, rfl⟩
    · exact h.stages exchange hold
    · exact hstage

/-- A call begins. -/
theorem Usable.append (h : t.Usable) (exchange : Exchange H) (hstage : exchange.stage.Usable)
    (hentries : ∀ m, u.state.schemas.entries m = t.state.schemas.entries m)
    (hexchanges : u.exchanges = t.exchanges ++ [exchange]) : u.Usable where
  entries := fun m entry hentry => h.entries m entry (hentries m ▸ hentry)
  stages := by
    intro other hother
    rw [hexchanges] at hother
    rcases List.mem_append.mp hother with hold | hnew
    · exact h.stages other hold
    · rw [List.mem_singleton.mp hnew]
      exact hstage

/-- Entering the current map adds no entry. -/
theorem entries_entered (c : Collaborators H) (context : Option FileRef) (t : Dialogue H)
    (m : Nat) : (t.entered c context).state.schemas.entries m = t.state.schemas.entries m :=
  SchemaState.entries_currentMap (t.resolved c context).state m

/-- One step keeps the invariant. -/
theorem Step.usable (hstep : Step c t u) (h : t.Usable) : u.Usable := by
  cases hstep with
  | hit context info hfound =>
    have hinfo : info.Usable := by
      obtain ⟨entry, hentry, -, rfl⟩ := SchemaCache.mem_of_lookup? hfound
      exact h.entries _ entry (entries_entered c context t _ ▸ hentry)
    exact h.append (t.exchange context (.ended (.ok info) _)) hinfo
      (entries_entered c context t) rfl
  | miss context hnone =>
    exact h.append (t.exchange context (t.opening c context)) trivial
      (entries_entered c context t) rfl
  | resume k j map number scope work next asked answer closed hk hlater hasked hended hresumes =>
    refine h.proceed ?_ k h.entries rfl
    cases hresumes with
    | collecting => trivial
    | checking registry schema state resume =>
      have hschema : Schema.ofRegistry registry.registry = .ok schema := h.of_stage? hk
      exact hschema
  | collected k map number scope site registry schema hk hschema =>
    have hstage : (Stage.building map scope number (.checking registry schema
        (c.validate schema t.state.site))).Usable := hschema
    exact h.proceed hstage k h.entries rfl
  | cancel k map number scope work hk houtcome =>
    have hstage : (Stage.ended (.error .mk) t.elapsed : Stage H).Usable := trivial
    exact h.proceed hstage k h.entries rfl
  | publish k map number scope work info hk houtcome =>
    have hinfo : info.Usable := (h.of_stage? hk).outcome houtcome
    have hreturned : (t.state.schemas.publish map scope info).1.Usable := by
      rcases SchemaCache.publish_eq map scope info t.state.schemas with hown | hfirst
      · rw [hown]
        exact hinfo
      · exact h.lookup? hfirst
    have hstage : (Stage.ended (.ok (t.state.schemas.publish map scope info).1) t.elapsed :
      Stage H).Usable := hreturned
    refine h.proceed hstage k (fun m entry hentry => ?_) rfl
    rcases SchemaCache.mem_entries_publish hentry with hold | ⟨-, rfl⟩
    · exact h.entries m entry hold
    · exact hinfo
  | meanwhile schemas kept site hthinned hkept =>
    exact ⟨fun m entry hentry => h.entries m entry (hthinned.entries m hentry), h.stages⟩

theorem Run.usable (hrun : Run c t u) (h : t.Usable) : u.Usable := by
  induction hrun with
  | here => exact h
  | step _ hstep ih => exact hstep.usable ih

theorem usable_new {capacity : UInt64} (hs : s.schemas = { capacity := capacity }) :
    ({ state := s } : Dialogue H).Usable where
  entries := by simp [hs, SchemaCache.entries]
  stages := nofun

/-- That map is the current one as long as neither stamp moves. -/
theorem Told.freshMap_later (h : Told c t context (.ok info) s u)
    (hguarded : t.state.schemas.Guarded) (hroom : t.state.schemas.capacity ≠ 0)
    (hw : Steady c u w) (hstill : w.elapsed = t.elapsed) :
    w.state.freshMap c = some (t.map c context) := by
  have hsteady : Steady c t u := h.reaches.steady
  have hfirst : t.elapsed ≤ u.elapsed := hsteady.run.traffic.elapsed_le
  have hsecond : u.elapsed ≤ w.elapsed := hw.run.traffic.elapsed_le
  have hfresh := (h.freshMap hguarded hroom (by omega)).1
  exact hw.run.traffic.freshMap (hsteady.run.traffic.guarded hguarded)
    (show w.elapsed = u.elapsed by omega) hfresh

end Dialogue

open SchemaState Dialogue in
/-- Every completed build yields a schema that can be used, with the right errors.

* Whatever is asked in it, a build completes if and only if a step of it fails that does not report
  cancellation, or no step fails at all. Its outcome tells what was reported: the first failure
  stands as the only error on the empty schema, the issues of a validation as the only error on the
  schema of the registry, and what was collected is kept with its errors.
* All errors are those of the registry, in their order, and then those of the schema; an outcome is
  valid if and only if there are none.
* In every state of a new cache nothing but such schemas is held or returned, and each of them has
  a query root, which is an object type, and one error at most.
* Whatever its errors are, the outcome of a build is published, unless a call that is nested in it
  has published for its scope: what the call returns is held in its map, as long as no entry is
  dropped, and every call for that scope finds it, without a build, while that map is current, that
  is, while neither stamp moves. -/
theorem completed_builds_usable {H : Type} {c : Collaborators H} {s : SchemaState H}
    {capacity : UInt64} (hs : s.schemas = { capacity := capacity }) :
    (∀ (nested : Nested H) (context : Option FileRef) (scope : Scope) (now : SchemaState H),
        ((∃ info after, build c nested context scope now = some (.ok info, after)) ↔
          (∃ message, Reports c nested context now (.internal message)) ∨
            ∃ registry schema issues, Checks c nested context now registry schema issues) ∧
        ∀ info after, build c nested context scope now = some (.ok info, after) →
          info.Usable ∧ Labels c nested context now info) ∧
      (∀ info : SchemaInfo,
        info.allErrors = info.registry.errors.map .registry ++ info.errors ∧
          (info.isValid = true ↔ info.allErrors = []) ∧
          (info.Usable → info.errors.length ≤ 1 ∧
            ∃ t, info.schema.queryType? = some t ∧ t.kind = .object)) ∧
      (∀ t : Dialogue H, Run c { state := s } t →
        (∀ m, ∀ entry ∈ t.state.schemas.entries m, entry.info.Usable) ∧
          ∀ k info closed, t.stage? k = some (.ended (.ok info) closed) → info.Usable) ∧
      (∀ (t : Dialogue H) (depth : Nat) (context : Option FileRef) (built : SchemaInfo)
        (after : SchemaState H), Run c { state := s } t → t.state.Misses c context →
        build c (schemaFor c depth) context (t.scope c context) (t.state.opened c context) =
          some (.ok built, after) →
        ∃ info now u, schemaFor c (depth + 1) context t.state = some (.ok info, now) ∧
          evaluate c (depth + 1) context t = some (.ok info, u) ∧
          Told c t context (.ok info) now u ∧
          info = (after.schemas.lookup? (t.map c context) (t.scope c context)).getD built ∧
          (t.state.schemas.capacity ≠ 0 → ∀ w, Steady c u w →
            w.state.schemas.lookup? (t.map c context) (t.scope c context) = some info ∧
            (w.elapsed = t.elapsed → w.state.freshMap c = some (t.map c context)) ∧
            (w.state.freshMap c = some (t.map c context) →
              w.state.held? c (t.scope c context) = some info ∧
              ∀ (again : Option FileRef) (depth' : Nat),
                (w.scope c again).same (t.scope c context) = true →
                c.advance w.state.site (w.state.resolveScope c again).2.site = 0 →
                  ∃ found, schemaFor c (depth' + 1) again w.state = some (.ok info, found) ∧
                    found.schemas.lastBuildId = w.state.schemas.lastBuildId))) := by
  refine ⟨fun nested context scope now => ⟨?completes, fun info after hbuild => ?labels⟩,
    fun info => ⟨rfl, info.isValid_iff, fun husable =>
      ⟨husable.length_errors_le, husable.exists_queryType?⟩⟩, fun t hrun => ?usable, ?cached⟩
  case completes =>
    rw [← exists_completes_iff]
    exact exists_congr fun info => build_eq_ok_iff scope
  case labels =>
    have hcompletes : Completes c nested context now info :=
      (build_eq_ok_iff scope).mp ⟨after, hbuild⟩
    exact ⟨hcompletes.usable, hcompletes.labels⟩
  case usable =>
    have husable := hrun.usable (usable_new hs)
    exact ⟨husable.entries, fun k info closed hk => husable.of_stage? hk⟩
  case cached =>
    intro t depth context built after hrun hmiss hbuild
    obtain ⟨info, now, hcall, hinfo⟩ := schemaFor_of_build hmiss hbuild
    obtain ⟨u, heval, htold⟩ := exists_told hcall
    refine ⟨info, now, u, hcall, heval, htold, hinfo, fun hroom w hw => ?_⟩
    have hnew : ({ state := s } : Dialogue H).state.schemas.Guarded :=
      hs ▸ SchemaCache.guarded_new capacity
    have horderly : t.traffic.Orderly := hrun.traffic.orderly (Traffic.orderly_new hs)
    have hguarded : t.state.schemas.Guarded := hrun.traffic.guarded hnew
    have hguardedw : w.state.schemas.Guarded :=
      (htold.reaches.steady.trans hw).run.traffic.guarded hguarded
    -- The map that the call has entered holds the schema; all calls look there while it is current.
    have hkept := htold.kept horderly hroom hw
    refine ⟨hkept, htold.freshMap_later hguarded hroom hw, fun hfresh => ?_⟩
    have hheld : w.state.held? c (t.scope c context) = some info := by
      rw [held?, hfresh, Option.bind_some]
      exact hkept
    exact ⟨hheld, fun again depth' hscope hadvance =>
      ⟨_, schemaFor_of_held? hguardedw hadvance hscope hheld depth', (currentMap_same _).1⟩⟩

section Example

open SchemaState Dialogue

/-- Definitions that were collected, although one of them is a duplicate. -/
def duplicated : RegistryInfo where
  registry := .made [.add (.object "Query")]
  errors := [⟨"type is declared twice", none⟩]

/-- Collaborators of which the one that checks schemas fails. -/
def failingCollaborators : Collaborators Bool :=
  { hesitantCollaborators with
    registryInfo := fun _ site => .done site (.ok duplicated)
    validate := fun _ site => .done site (.error (.internal "no rules")) }

/-- The failure is told after the problem of the registry, and the schema is held. -/
theorem completed_builds_usable_failed_check :
    ∃ info now, schemaFor failingCollaborators 1 none hesitantStart = some (.ok info, now) ∧
      info.schema = .empty ∧ info.registry = duplicated ∧
      info.allErrors.map (·.message) =
        ["Registry error: type is declared twice", "Schema build error: no rules"] ∧
      now.held? failingCollaborators .empty = some info := by
  let start : Dialogue Bool := { state := hesitantStart }
  obtain ⟨-, -, -, hcached⟩ :=
    completed_builds_usable (c := failingCollaborators) (s := hesitantStart) rfl
  obtain ⟨info, now, u, hcall, -, htold, hinfo, hkept⟩ :=
    hcached start 0 none (failed (.internal "no rules") duplicated 1) _ .here rfl rfl
  obtain ⟨-, -, hfound⟩ := hkept (by decide) u .here
  refine ⟨info, now, hcall, ?_⟩
  rw [htold.state] at hfound
  cases hcall
  exact ⟨rfl, rfl, by decide, (hfound (by decide)).1⟩

end Example

end SchemaEngine
