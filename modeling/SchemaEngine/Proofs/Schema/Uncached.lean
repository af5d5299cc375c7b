import SchemaEngine.Proofs.Schema.Evaluation
import SchemaEngine.Proofs.Scope.Stillness

/-!
# Schemas without a cache

Where definitions are collected by scope and stamps, and a schema is checked by what it is, the
schema that is visible from a file is a function of the stamps. Whoever collects or checks may ask
for other schemas and move stamps meanwhile; only what comes of a turn during which no stamp moves,
and in which the answers are right, has to be what the function says.

## Main definitions

* `Turn.Settles`: what comes of a turn, as long as all is still.
* `SchemaInfo.content`: a schema without the number of its build.
* `SchemaAnswers`: the answers that schemas are made of, as functions of stamps.
* `SchemaAnswers.fresh`: a build of collaborators that answer so at once, where nothing is kept.
* `SchemaAnswers.Of`: the collaborators give these answers.
* `Work.Right`: what is known of a build as long as all is still.

## Main results

* `SchemaAnswers.fresh_eq`: what a fresh build comes to.
* `Work.Right.outcome`: a build comes to the same while all is still.
-/

set_option autoImplicit false

namespace SchemaEngine

/-- What comes of a turn is as told, as long as it goes on at still places with right answers. -/
def Turn.Settles {σ Q A R : Type} (still : σ → Prop) (right : Q → A → Prop) (told : R → Prop) :
    Turn σ Q A R → Prop
  | .done state result => still state → told result
  | .ask state question resume => still state →
    ∀ state' answer, still state' → right question answer →
      (resume state' answer).Settles still right told

/-- A schema with its errors and its registry, without the number of its build. -/
def SchemaInfo.content (info : SchemaInfo) : Schema × List SchemaError × RegistryInfo :=
  (info.schema, info.errors, info.registry)

/-- But for the number, what comes of a build does not depend on the number. -/
theorem SchemaState.content_outcomeOf (registry : RegistryInfo) (number number' : Nat)
    (result : Except BuildError (Schema × List SchemaError)) :
    (outcomeOf registry number result).map SchemaInfo.content =
      (outcomeOf registry number' result).map SchemaInfo.content := by
  unfold outcomeOf
  split <;> rfl

/-- The answers that schemas are made of, as functions of stamps: what the scopes are, what is
collected in a scope, and what is found wrong with a schema. -/
structure SchemaAnswers where
  scopes : ScopeAnswers
  registry : Scope → Epoch → Except BuildError RegistryInfo
  validation : Schema → Except BuildError (List ValidationIssue)
  registry_same : ∀ {scope scope' : Scope}, scope.same scope' = true → ∀ epoch,
    registry scope epoch = registry scope' epoch

namespace SchemaAnswers

variable {H : Type} (a : SchemaAnswers) (c : Collaborators H) (blank : ScopeCache)

/-- What comes of a registry: the schema that it makes, checked. -/
def assembled (registry : RegistryInfo) (number : Nat) : Except Cancelled SchemaInfo :=
  match Schema.ofRegistry registry.registry with
  | .error problem => SchemaState.outcomeOf registry number (.error (.internal problem.message))
  | .ok schema =>
    SchemaState.outcomeOf registry number
      ((a.validation schema).map fun issues => (schema, SchemaState.errorsOf issues))

/-- What comes of a build for a scope. -/
def outcome (scope : Scope) (epoch : Epoch) (number : Nat) : Except Cancelled SchemaInfo :=
  match a.registry scope epoch with
  | .error e => SchemaState.outcomeOf {} number (.error e)
  | .ok registry => a.assembled registry number

/-- The schema of a scope. -/
def schemaOf (scope : Scope) (epoch : Epoch) :
    Except Cancelled (Schema × List SchemaError × RegistryInfo) :=
  (a.outcome scope epoch 1).map SchemaInfo.content

/-- The scope of a call. -/
def scopeAt (context : Option FileRef) (site : Site H) : Scope :=
  a.scopes.scopeFor blank c context .resolve site

/-- The schema that is visible from a file, at a site. -/
def visible (context : Option FileRef) (site : Site H) :
    Except Cancelled (Schema × List SchemaError × RegistryInfo) :=
  a.schemaOf (a.scopeAt c blank context site) (c.epoch site)

/-- Collaborators that give these answers at once. -/
def prompt : Collaborators H :=
  { c with
    registryInfo := fun context site =>
      .done site (a.registry (a.scopeAt c blank context site) (c.epoch site))
    validate := fun schema site => .done site (a.validation schema) }

/-- A fresh build of the schema that is visible from a file: nothing is kept, and nobody asks. -/
def fresh (context : Option FileRef) (site : Site H) : Option (Except Cancelled SchemaInfo) :=
  ((⟨{}, ⟨blank, site⟩⟩ : SchemaState H).build (a.prompt c blank) (fun _ _ => none) context
    (a.scopeAt c blank context site)).map (·.1)

variable {a c blank}

/-- What a fresh build comes to. -/
theorem fresh_eq (context : Option FileRef) (site : Site H) :
    a.fresh c blank context site =
      some (a.outcome (a.scopeAt c blank context site) (c.epoch site) 1) := by
  have hsite : ∀ schemas : SchemaCache,
      (⟨schemas, ⟨blank, site⟩⟩ : SchemaState H).site = site := fun _ => rfl
  unfold fresh outcome
  simp only [SchemaState.build, SchemaState.runStep, prompt, Turn.run?, hsite]
  cases hregistry : a.registry (a.scopeAt c blank context site) (c.epoch site) with
  | error e => cases e <;> rfl
  | ok registry =>
    simp only [SchemaState.assemble, assembled]
    cases hschema : Schema.ofRegistry registry.registry with
    | error problem => rfl
    | ok schema =>
      simp only [SchemaState.runStep, Turn.run?]
      cases a.validation schema with
      | error e => cases e <;> rfl
      | ok issues => rfl

/-- The schema that is visible from a file is that of a fresh build. -/
theorem fresh_content (context : Option FileRef) (site : Site H) :
    (a.fresh c blank context site).map (·.map SchemaInfo.content) =
      some (a.visible c blank context site) := by
  rw [fresh_eq]
  rfl

/-- The scope of a call is read off the stamps. -/
theorem scopeAt_of_stamp_eq {x y : Site H} (h : c.stamp x = c.stamp y) (context : Option FileRef) :
    a.scopeAt c blank context x = a.scopeAt c blank context y := by
  have hepoch : c.epoch x = c.epoch y := Collaborators.epoch_eq fun d _ => congrFun h d
  cases context with
  | none => rfl
  | some file => simp only [scopeAt, ScopeAnswers.scopeFor, h, hepoch]

/-- Scopes that are the same have the same schema. -/
theorem schemaOf_same {scope scope' : Scope} (h : scope.same scope' = true) (epoch : Epoch) :
    a.schemaOf scope epoch = a.schemaOf scope' epoch := by
  rw [schemaOf, schemaOf, outcome, outcome, a.registry_same h]

section Settled

variable (a c blank) (epoch : Epoch)

/-- In an epoch, a question is answered with the schema that is visible at some moment of it. -/
def Answered (question : Option FileRef) (answer : Except Cancelled SchemaInfo) : Prop :=
  ∃ site, c.epoch site = epoch ∧
    answer.map SchemaInfo.content = a.visible c blank question site

/-- What comes of a turn in an epoch is as told, as long as the epoch lasts. -/
def Settles {R : Type} (told : Except BuildError R) (turn : BuildTurn H R) : Prop :=
  Turn.Settles (fun site => c.epoch site = epoch) (a.Answered c blank epoch) (· = told) turn

end Settled

/-- The collaborators give these answers, and answering the questions that scopes are made of moves
no stamp. Nothing is said of a turn in which the configuration or the file structure moves. -/
structure Of (c : Collaborators H) (blank : ScopeCache) (a : SchemaAnswers) : Prop where
  still : c.Still
  scopes : a.scopes.Of c
  registry : ∀ context site, a.Settles c blank (c.epoch site)
    (a.registry (a.scopeAt c blank context site) (c.epoch site)) (c.registryInfo context site)
  validation : ∀ schema site,
    a.Settles c blank (c.epoch site) (a.validation schema) (c.validate schema site)

end SchemaAnswers

/-! ### Builds while all is still -/

namespace Work

variable {H : Type} {a : SchemaAnswers} {c : Collaborators H} {blank : ScopeCache} {scope : Scope}
  {epoch : Epoch} {work next : Work H}

/-- What is known of a build for a scope, as long as an epoch lasts. -/
def Right (a : SchemaAnswers) (c : Collaborators H) (blank : ScopeCache) (scope : Scope)
    (epoch : Epoch) : Work H → Prop
  | collecting turn => a.Settles c blank epoch (a.registry scope epoch) turn
  | checking registry schema turn =>
    a.registry scope epoch = .ok registry ∧ Schema.ofRegistry registry.registry = .ok schema ∧
      a.Settles c blank epoch (a.validation schema) turn

/-- A build goes on with a right answer. -/
theorem Right.resumes (h : work.Right a c blank scope epoch) (hwork : c.epoch work.site = epoch)
    {site : Site H} (hsite : c.epoch site = epoch) {question : Option FileRef}
    {answer : Except Cancelled SchemaInfo} (hanswer : a.Answered c blank epoch question answer)
    (hresumes : work.Resumes site question answer next) : next.Right a c blank scope epoch := by
  cases hresumes with
  | collecting state resume => exact h hwork site answer hsite hanswer
  | checking registry schema state resume =>
    obtain ⟨hregistry, hschema, hsettles⟩ := h
    exact ⟨hregistry, hschema, hsettles hwork site answer hsite hanswer⟩

/-- The schema that was collected is checked. -/
theorem Right.collected (ha : a.Of c blank) {site now : Site H} {registry : RegistryInfo}
    {schema : Schema}
    (h : (collecting (.done site (.ok registry))).Right a c blank scope epoch)
    (hsite : c.epoch site = epoch) (hnow : c.epoch now = epoch)
    (hschema : Schema.ofRegistry registry.registry = .ok schema) :
    (checking registry schema (c.validate schema now)).Right a c blank scope epoch := by
  have hvalidation := ha.validation schema now
  rw [hnow] at hvalidation
  exact ⟨(h hsite).symm, hschema, hvalidation⟩

/-- A build comes to the schema of its scope. -/
theorem Right.outcome (h : work.Right a c blank scope epoch) (hwork : c.epoch work.site = epoch)
    {number : Nat} {outcome : Except Cancelled SchemaInfo}
    (houtcome : work.outcome? number = some outcome) :
    outcome.map SchemaInfo.content = a.schemaOf scope epoch := by
  rw [SchemaAnswers.schemaOf, SchemaAnswers.outcome]
  unfold outcome? at houtcome
  split at houtcome
  · rename_i state e
    have hregistry : .error e = a.registry scope epoch := h hwork
    obtain rfl := Option.some.inj houtcome
    rw [← hregistry]
    exact SchemaState.content_outcomeOf ..
  · rename_i state registry
    have hregistry : .ok registry = a.registry scope epoch := h hwork
    rw [← hregistry]
    split at houtcome
    · rename_i problem hproblem
      obtain rfl := Option.some.inj houtcome
      simp only [SchemaAnswers.assembled, hproblem]
      exact SchemaState.content_outcomeOf ..
    · cases houtcome
  · rename_i registry schema state result
    obtain ⟨hregistry, hschema, hsettles⟩ := h
    have hvalidation : result = a.validation schema := hsettles hwork
    obtain rfl := Option.some.inj houtcome
    rw [hregistry]
    simp only [SchemaAnswers.assembled, hschema, hvalidation]
    exact SchemaState.content_outcomeOf ..
  · cases houtcome

end Work

end SchemaEngine
