import SchemaEngine.Proofs.Schema.Registration

/-!
# Root types that are refused

A registry makes a schema unless one of its root types is bad: the schema definition names a type
that is not defined, or one that is not an object type, or a type of a default name is not an object
type. The first operation with a bad root is the one that is told.

One bad root is overlooked. Roots are looked up among the types of the schema and not in the
registry, and a query type that is missing is among them already when the other roots are looked up.
So a schema definition may name it for another operation, although the registry does not define it.

## Main definitions

* `Registry.BadRoot`: a root type that should be refused.
* `Registry.Overlooks`: the query type that is added counts as defined.
* `Registry.Refuses`: a bad root that is not overlooked.
* `Operation.before`: the operations whose roots are looked up earlier.

## Main results

* `Schema.find?_typesOf`: the types of a schema.
* `Schema.rootOf_eq_error_iff`: why the root of one operation is refused.
* `Schema.ofRegistry_eq_error_iff`: the first operation that is refused is told.
* `RootProblem.message_inj`: the text of a problem tells the whole problem.
* `bad_roots_refused`: which registries make no schema, and why.
* `added_query_named_as_mutation`: a bad root that is overlooked.
-/

set_option autoImplicit false

namespace SchemaEngine

/-! ### Bad roots -/

/-- The operations whose roots are looked up before that of another one. -/
def Operation.before : Operation → List Operation
  | query => []
  | mutation => [query]
  | subscription => [query, mutation]

/-- Of two operations one has its root looked up first. -/
theorem Operation.trichotomy (operation other : Operation) :
    operation = other ∨ operation ∈ other.before ∨ other ∈ operation.before := by
  cases operation <;> cases other <;> decide

namespace Registry

variable {registry : Registry} {problem : RootProblem} {name : String}

/-- A root type that should be refused: one that the schema definition names and that is not
defined or is not an object type, or one of a default name that is not an object type. -/
inductive BadRoot (registry : Registry) : RootProblem → Prop
  | undefined (operation : Operation) (name : String) :
      registry.namedRoot? operation = some name → registry.get? name = none →
        BadRoot registry ⟨operation, name, .undefined⟩
  | notObject (operation : Operation) (name : String) (t : TypeDefinition) :
      registry.namedRoot? operation = some name → registry.get? name = some t → t.kind ≠ .object →
        BadRoot registry ⟨operation, name, .notObject⟩
  | defaultNotObject (operation : Operation) (t : TypeDefinition) :
      registry.namedRoot? operation = none → registry.get? operation.defaultRoot = some t →
        t.kind ≠ .object → BadRoot registry ⟨operation, operation.defaultRoot, .notObject⟩

/-- The query type that is added where the schema definition names none counts as defined. -/
def Overlooks (registry : Registry) (problem : RootProblem) : Prop :=
  registry.namedRoot? .query = none ∧ problem.name = Operation.query.defaultRoot ∧
    problem.fault = .undefined

/-- A bad root that is not overlooked. -/
structure Refuses (registry : Registry) (problem : RootProblem) : Prop where
  bad : registry.BadRoot problem
  seen : ¬ registry.Overlooks problem

/-- The query type that is added unless the registry defines one. -/
def added? (registry : Registry) (name : String) : Option TypeDefinition :=
  if registry.namedRoot? .query = none ∧ Operation.query.defaultRoot = name then
    some (.object Operation.query.defaultRoot)
  else none

theorem kind_of_added? {t : TypeDefinition} (h : registry.added? name = some t) :
    t.kind = .object := by
  unfold added? at h
  split at h <;> cases h
  rfl

end Registry

namespace Schema

variable {registry : Registry} {problem : RootProblem} {operation : Operation} {name : String}
  {types : List TypeDefinition} {t : TypeDefinition}

/-! ### The types of a schema -/

/-- The types of a schema are those of the registry, and perhaps a query type. -/
theorem find?_typesOf (h : registry.Ordered) (name : String) :
    TypeDefinition.find? (typesOf registry) name =
      (registry.get? name).or (registry.added? name) := by
  unfold typesOf Registry.added?
  cases hquery : registry.namedRoot? .query with
  | some root => simp [Registry.get?]
  | none =>
    refine (TypeDefinition.find?_insert h _ name).trans (congrArg (Option.or _) ?_)
    by_cases hname : Operation.query.defaultRoot = name <;> simp [TypeDefinition.object, hname]

theorem find?_typesOf_of_defined (h : registry.Ordered) (hdefined : registry.get? name = some t) :
    TypeDefinition.find? (typesOf registry) name = some t := by
  rw [find?_typesOf h, hdefined, Option.some_or]

/-- What is no object type is defined by the registry. -/
theorem get?_of_not_object (h : registry.Ordered)
    (hfind : TypeDefinition.find? (typesOf registry) name = some t) (hkind : t.kind ≠ .object) :
    registry.get? name = some t := by
  rw [find?_typesOf h, Option.or_eq_some_iff] at hfind
  rcases hfind with hdefined | ⟨-, hadded⟩
  · exact hdefined
  · exact absurd (Registry.kind_of_added? hadded) hkind

theorem increasing_typesOf (h : registry.Ordered) :
    Sorted.Increasing TypeDefinition.order (typesOf registry) := by
  unfold typesOf
  split
  · exact h
  · exact Sorted.increasing_insert h

/-! ### One root -/

theorem requireRoot_of_undefined (h : TypeDefinition.find? types name = none) :
    requireRoot types operation name = .error ⟨operation, name, .undefined⟩ := by
  simp only [requireRoot, h]

theorem requireRoot_of_object (h : TypeDefinition.find? types name = some t)
    (hkind : t.kind = .object) : requireRoot types operation name = .ok name := by
  simp only [requireRoot, h, if_pos hkind]

theorem requireRoot_of_not_object (h : TypeDefinition.find? types name = some t)
    (hkind : t.kind ≠ .object) :
    requireRoot types operation name = .error ⟨operation, name, .notObject⟩ := by
  simp only [requireRoot, h, if_neg hkind]

/-- The root of an operation, which only queries must have. -/
def rootOf (registry : Registry) (types : List TypeDefinition) :
    Operation → Except RootProblem (Option String)
  | .query => (queryRoot registry types).map some
  | operation => optionalRoot registry types operation

/-- A root that the schema definition names is required. -/
theorem rootOf_of_named (h : registry.namedRoot? operation = some name) :
    rootOf registry types operation = (requireRoot types operation name).map some := by
  cases operation <;> simp only [rootOf, queryRoot, optionalRoot, h]

/-- So is the type of the default name, if there is one. -/
theorem rootOf_of_defined (h : registry.namedRoot? operation = none)
    (hdefined : TypeDefinition.find? types operation.defaultRoot = some t) :
    rootOf registry types operation =
      (requireRoot types operation operation.defaultRoot).map some := by
  cases operation <;> simp only [rootOf, queryRoot, optionalRoot, h, hdefined]

/-- An operation other than queries has no root if there is no such type. -/
theorem rootOf_of_absent (h : registry.namedRoot? operation = none) (hother : operation ≠ .query)
    (hnone : TypeDefinition.find? types operation.defaultRoot = none) :
    rootOf registry types operation = .ok none := by
  cases operation with
  | query => exact absurd rfl hother
  | mutation => simp only [rootOf, optionalRoot, h, hnone]
  | subscription => simp only [rootOf, optionalRoot, h, hnone]

/-- A root that is required is refused if it is undefined or not an object type. -/
theorem requireRoot_eq_error (h : (requireRoot types operation name).map some = .error problem) :
    problem = ⟨operation, name, .undefined⟩ ∧ TypeDefinition.find? types name = none ∨
      problem = ⟨operation, name, .notObject⟩ ∧
        ∃ t, TypeDefinition.find? types name = some t ∧ t.kind ≠ .object := by
  cases hfind : TypeDefinition.find? types name with
  | none =>
    rw [requireRoot_of_undefined hfind] at h
    cases h
    exact .inl ⟨rfl, rfl⟩
  | some t =>
    by_cases hkind : t.kind = .object
    · rw [requireRoot_of_object hfind hkind] at h
      cases h
    · rw [requireRoot_of_not_object hfind hkind] at h
      cases h
      exact .inr ⟨rfl, t, rfl, hkind⟩

/-- A root that is required and found is an object type. -/
theorem requireRoot_eq_ok {root : Option String}
    (h : (requireRoot types operation name).map some = .ok root) :
    root = some name ∧ ∃ t, TypeDefinition.find? types name = some t ∧ t.kind = .object := by
  cases hfind : TypeDefinition.find? types name with
  | none =>
    rw [requireRoot_of_undefined hfind] at h
    cases h
  | some t =>
    by_cases hkind : t.kind = .object
    · rw [requireRoot_of_object hfind hkind] at h
      cases h
      exact ⟨rfl, t, rfl, hkind⟩
    · rw [requireRoot_of_not_object hfind hkind] at h
      cases h

/-- A bad root that is not overlooked is refused. -/
theorem rootOf_of_refuses (h : registry.Ordered) (hrefuses : registry.Refuses problem) :
    rootOf registry (typesOf registry) problem.operation = .error problem := by
  obtain ⟨hbad, hseen⟩ := hrefuses
  cases hbad with
  | undefined operation name hnamed hnone =>
    have hadded : registry.added? name = none :=
      if_neg fun ⟨hquery, hname⟩ => hseen ⟨hquery, hname.symm, rfl⟩
    have hfind : TypeDefinition.find? (typesOf registry) name = none := by
      rw [find?_typesOf h, hnone, hadded, Option.none_or]
    rw [rootOf_of_named hnamed, requireRoot_of_undefined hfind]
    rfl
  | notObject operation name t hnamed hdefined hkind =>
    have hfind := find?_typesOf_of_defined h hdefined
    rw [rootOf_of_named hnamed, requireRoot_of_not_object hfind hkind]
    rfl
  | defaultNotObject operation t hnamed hdefined hkind =>
    have hfind := find?_typesOf_of_defined h hdefined
    rw [rootOf_of_defined hnamed hfind, requireRoot_of_not_object hfind hkind]
    rfl

/-- A root that is refused is bad, and not overlooked. -/
theorem refuses_of_rootOf (h : registry.Ordered)
    (hroot : rootOf registry (typesOf registry) operation = .error problem) :
    registry.Refuses problem ∧ problem.operation = operation := by
  cases hnamed : registry.namedRoot? operation with
  | some name =>
    rw [rootOf_of_named hnamed] at hroot
    rcases requireRoot_eq_error hroot with ⟨rfl, hnone⟩ | ⟨rfl, t, hfind, hkind⟩
    · rw [find?_typesOf h, Option.or_eq_none_iff] at hnone
      refine ⟨⟨.undefined _ _ hnamed hnone.1, ?_⟩, rfl⟩
      rintro ⟨hquery, hname, -⟩
      rw [Registry.added?, if_pos ⟨hquery, hname.symm⟩] at hnone
      cases hnone.2
    · exact ⟨⟨.notObject _ _ t hnamed (get?_of_not_object h hfind hkind) hkind,
        fun hover => nomatch hover.2.2⟩, rfl⟩
  | none =>
    cases hfind : TypeDefinition.find? (typesOf registry) operation.defaultRoot with
    | some t =>
      rw [rootOf_of_defined hnamed hfind] at hroot
      rcases requireRoot_eq_error hroot with ⟨-, hnone⟩ | ⟨rfl, t', hfind', hkind⟩
      · cases hfind.symm.trans hnone
      · exact ⟨⟨.defaultNotObject _ t' hnamed (get?_of_not_object h hfind' hkind) hkind,
          fun hover => nomatch hover.2.2⟩, rfl⟩
    | none =>
      by_cases hquery : operation = .query
      · -- A query type that is missing has been added.
        subst hquery
        rw [find?_typesOf h, Option.or_eq_none_iff, Registry.added?, if_pos ⟨hnamed, rfl⟩] at hfind
        cases hfind.2
      · rw [rootOf_of_absent hnamed hquery hfind] at hroot
        cases hroot

/-- The root of an operation is refused if and only if it is bad and not overlooked. -/
theorem rootOf_eq_error_iff (h : registry.Ordered) :
    rootOf registry (typesOf registry) operation = .error problem ↔
      registry.Refuses problem ∧ problem.operation = operation :=
  ⟨refuses_of_rootOf h, fun ⟨hrefuses, hoperation⟩ => hoperation ▸ rootOf_of_refuses h hrefuses⟩

/-! ### All roots -/

/-- The name of the root of an operation. -/
def rootName? (schema : Schema) : Operation → Option String
  | .query => some schema.query
  | .mutation => schema.mutation
  | .subscription => schema.subscription

/-- A registry makes a schema of its roots and types if no root is refused. -/
theorem ofRegistry_eq_ok_iff {schema : Schema} :
    ofRegistry registry = .ok schema ↔
      (∀ operation, rootOf registry (typesOf registry) operation =
        .ok (schema.rootName? operation)) ∧ schema.types = typesOf registry := by
  constructor
  · intro hschema
    simp only [ofRegistry] at hschema
    split at hschema
    · cases hschema
    rename_i query hquery
    split at hschema
    · cases hschema
    rename_i mutation hmutation
    split at hschema
    · cases hschema
    rename_i subscription hsubscription
    cases hschema
    refine ⟨fun operation => ?_, rfl⟩
    cases operation with
    | query =>
      rw [rootOf, hquery]
      rfl
    | mutation => exact hmutation
    | subscription => exact hsubscription
  · rintro ⟨hroots, htypes⟩
    have hquery : queryRoot registry (typesOf registry) = .ok schema.query := by
      have hroot := hroots .query
      unfold rootOf at hroot
      cases hquery : queryRoot registry (typesOf registry) <;> rw [hquery] at hroot <;> cases hroot
      rfl
    have hmutation : optionalRoot registry (typesOf registry) .mutation = .ok schema.mutation :=
      hroots .mutation
    have hsubscription :
        optionalRoot registry (typesOf registry) .subscription = .ok schema.subscription :=
      hroots .subscription
    simp only [ofRegistry, hquery, hmutation, hsubscription]
    rw [← htypes]

/-- A registry that makes a schema has no root that is refused. -/
theorem not_refuses_of_ok (h : registry.Ordered) {schema : Schema}
    (hschema : ofRegistry registry = .ok schema) : ¬ registry.Refuses problem := by
  intro hrefuses
  cases ((ofRegistry_eq_ok_iff.mp hschema).1 _).symm.trans (rootOf_of_refuses h hrefuses)

/-- Where a root is refused and all earlier ones are found, that is the first problem. -/
theorem eq_iff_first_refused (h : registry.Ordered) {first : RootProblem}
    (hroot : rootOf registry (typesOf registry) operation = .error first)
    (hearlier : ∀ earlier ∈ operation.before, ∃ root,
      rootOf registry (typesOf registry) earlier = .ok root) :
    first = problem ↔ registry.Refuses problem ∧
      ∀ other, registry.Refuses other → other.operation ∉ problem.operation.before := by
  obtain ⟨hfirst, rfl⟩ := (rootOf_eq_error_iff h).mp hroot
  have hfound : ∀ other, registry.Refuses other → other.operation ∉ first.operation.before := by
    intro other hother hbefore
    obtain ⟨root, hok⟩ := hearlier _ hbefore
    cases hok.symm.trans (rootOf_of_refuses h hother)
  constructor
  · rintro rfl
    exact ⟨hfirst, hfound⟩
  · rintro ⟨hrefuses, hnone⟩
    rcases problem.operation.trichotomy first.operation with hsame | hbefore | hafter
    · have hproblem := rootOf_of_refuses h hrefuses
      rw [hsame, hroot] at hproblem
      exact Except.error.inj hproblem
    · exact absurd hbefore (hfound problem hrefuses)
    · exact absurd hafter (hnone first hfirst)

/-- A registry makes no schema if a root is refused, and the first operation is told. -/
theorem ofRegistry_eq_error_iff (h : registry.Ordered) :
    ofRegistry registry = .error problem ↔ registry.Refuses problem ∧
      ∀ other, registry.Refuses other → other.operation ∉ problem.operation.before := by
  cases hquery : queryRoot registry (typesOf registry) with
  | error first =>
    have hroot : rootOf registry (typesOf registry) .query = .error first := by
      rw [rootOf, hquery]
      rfl
    simp only [ofRegistry, hquery, Except.error.injEq]
    exact eq_iff_first_refused h hroot nofun
  | ok query =>
    have hqueryRoot : rootOf registry (typesOf registry) .query = .ok (some query) := by
      rw [rootOf, hquery]
      rfl
    cases hmutation : optionalRoot registry (typesOf registry) .mutation with
    | error first =>
      have hroot : rootOf registry (typesOf registry) .mutation = .error first := hmutation
      simp only [ofRegistry, hquery, hmutation, Except.error.injEq]
      refine eq_iff_first_refused h hroot fun earlier hbefore => ?_
      cases List.mem_singleton.mp hbefore
      exact ⟨_, hqueryRoot⟩
    | ok mutation =>
      cases hsubscription : optionalRoot registry (typesOf registry) .subscription with
      | error first =>
        have hroot : rootOf registry (typesOf registry) .subscription = .error first :=
          hsubscription
        simp only [ofRegistry, hquery, hmutation, hsubscription, Except.error.injEq]
        refine eq_iff_first_refused h hroot fun earlier hbefore => ?_
        have hcases : earlier = .query ∨ earlier = .mutation := by
          simpa [Operation.before] using hbefore
        rcases hcases with rfl | rfl
        · exact ⟨_, hqueryRoot⟩
        · exact ⟨_, hmutation⟩
      | ok subscription =>
        have hschema : ofRegistry registry =
            .ok ⟨query, mutation, subscription, typesOf registry⟩ := by
          simp only [ofRegistry, hquery, hmutation, hsubscription]
        rw [hschema]
        exact iff_of_false nofun fun hrefuses => not_refuses_of_ok h hschema hrefuses.1

end Schema

/-! ### What is told -/

namespace RootProblem

/-- The letter that the text of a problem begins with. -/
def initial (problem : RootProblem) : Char :=
  match problem.operation with
  | .query => 'q'
  | .mutation => 'm'
  | .subscription => 's'

/-- The letter that it ends with. -/
def final (problem : RootProblem) : Char :=
  match problem.fault with
  | .undefined => 'd'
  | .notObject => 'e'

theorem head?_message (problem : RootProblem) :
    problem.message.toList.head? = some problem.initial := by
  obtain ⟨operation, name, fault⟩ := problem
  cases operation <;> simp [message, initial, Operation.keyword]

theorem getLast?_message (problem : RootProblem) :
    problem.message.toList.getLast? = some problem.final := by
  obtain ⟨operation, name, fault⟩ := problem
  cases fault <;> simp [message, final, List.getLast?_append, List.getLast?_cons]

/-- The text of a problem tells its operation, its name and its fault. -/
theorem message_inj {problem other : RootProblem} (h : problem.message = other.message) :
    problem = other := by
  have hinitial : problem.initial = other.initial :=
    Option.some.inj (by rw [← head?_message, ← head?_message, h])
  have hfinal : problem.final = other.final :=
    Option.some.inj (by rw [← getLast?_message, ← getLast?_message, h])
  obtain ⟨operation, name, fault⟩ := problem
  obtain ⟨operation', name', fault'⟩ := other
  obtain rfl : operation = operation' := by
    revert hinitial
    cases operation <;> cases operation' <;> simp [initial]
  obtain rfl : fault = fault' := by
    revert hfinal
    cases fault <;> cases fault' <;> simp [final]
  have hname : name = name' := by simpa [message] using h
  rw [hname]

end RootProblem

open Registry in
/-- Which registries make no schema, and why. After any additions of definitions and settings of the
schema definition:

* a problem is told if and only if it is a bad root that is not overlooked, and no operation whose
  root is looked up before has one;
* so the registry makes no schema if and only if it has a bad root that is not overlooked;
* the text of a problem tells its operation, its name and its fault. -/
theorem bad_roots_refused (changes : List Change) :
    (∀ problem, Schema.ofRegistry (made changes) = .error problem ↔
        (made changes).Refuses problem ∧
          ∀ other, (made changes).Refuses other → other.operation ∉ problem.operation.before) ∧
      ((∃ problem, Schema.ofRegistry (made changes) = .error problem) ↔
        ∃ problem, (made changes).BadRoot problem ∧ ¬ (made changes).Overlooks problem) ∧
      ∀ problem other : RootProblem, problem.message = other.message → problem = other := by
  have hordered : (made changes).Ordered := ordered_made changes
  refine ⟨fun _ => Schema.ofRegistry_eq_error_iff hordered, ⟨?fails, ?bad⟩,
    fun _ _ => RootProblem.message_inj⟩
  case fails =>
    rintro ⟨problem, hproblem⟩
    obtain ⟨⟨hbad, hseen⟩, -⟩ := (Schema.ofRegistry_eq_error_iff hordered).mp hproblem
    exact ⟨problem, hbad, hseen⟩
  case bad =>
    rintro ⟨problem, hbad, hseen⟩
    cases hschema : Schema.ofRegistry (made changes) with
    | error first => exact ⟨first, rfl⟩
    | ok schema => exact absurd ⟨hbad, hseen⟩ (Schema.not_refuses_of_ok hordered hschema)

section Example

/-- A schema definition that names a mutation type which is defined nowhere, and no query type. -/
def mutationNamedQuery : Registry :=
  .made [.define { mutation := some "Query" }]

/-- The query type that is added counts as the mutation type that is not defined. -/
theorem added_query_named_as_mutation :
    mutationNamedQuery.namedRoot? .mutation = some "Query" ∧
      mutationNamedQuery.get? "Query" = none ∧
      mutationNamedQuery.BadRoot ⟨.mutation, "Query", .undefined⟩ ∧
      Schema.ofRegistry mutationNamedQuery =
        .ok ⟨"Query", some "Query", none, [.object "Query"]⟩ :=
  ⟨rfl, rfl, .undefined .mutation "Query" rfl rfl, by decide⟩

end Example

end SchemaEngine
