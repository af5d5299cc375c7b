import SchemaEngine.Proofs.Schema.Roots
import SchemaEngine.Proofs.Scope.Sameness

/-!
# Schemas that are assembled

A schema holds what was defined last under each name, and perhaps a query type that was added. Its
roots are object types that it defines itself. What a schema is made of is only looked up by name,
so changes with the same last definitions make the same schema, in whatever order they came.

## Main definitions

* `Schema.rootType?`: the root type of an operation.
* `Registry.lastNamed?`: the root that the last schema definition names.
* `Schema.WellFormed`: what a schema is after some changes.

## Main results

* `Schema.rootOf_of_rooted`, `Schema.rootOf_of_not_rooted`: which operations must have a root.
* `Schema.exists_queryType?`: queries have a root in any case.
* `Schema.wellFormed_of_ok`: a schema that is assembled is well formed.
* `Schema.exists_ok_of_alike`: definitions that are alike make schemas that are alike.
* `assembled_schema_well_formed`: both.
-/

set_option autoImplicit false

namespace SchemaEngine

/-- The default names of the roots are different. -/
theorem Operation.defaultRoot_inj {operation other : Operation} :
    operation.defaultRoot = other.defaultRoot ↔ operation = other := by
  cases operation <;> cases other <;> decide

namespace Registry

variable {registry : Registry} {operation : Operation}

/-- The root type that the last schema definition names. -/
def lastNamed? (changes : List Change) (operation : Operation) : Option String :=
  (lastDefined? changes).bind fun definition => definition.root? operation

theorem namedRoot?_made (changes : List Change) (operation : Operation) :
    (made changes).namedRoot? operation = lastNamed? changes operation := by
  rw [namedRoot?, schemaDefinition_made, lastNamed?]

/-- The name of the root of an operation, if it has one. -/
def rootName (registry : Registry) (operation : Operation) : String :=
  (registry.namedRoot? operation).getD operation.defaultRoot

/-- An operation has a root: it is a query, or a root is named, or there is one of the default
name. -/
def Rooted (registry : Registry) (operation : Operation) : Prop :=
  operation = .query ∨ (registry.namedRoot? operation).isSome ∨
    (registry.get? operation.defaultRoot).isSome

/-- The type that is added has the default name of a query root. -/
theorem added?_defaultRoot (h : operation ≠ .query) :
    registry.added? operation.defaultRoot = none :=
  if_neg fun hadded => h (Operation.defaultRoot_inj.mp hadded.2).symm

end Registry

namespace Schema

variable {registry registry' : Registry} {operation : Operation} {name : String}
  {types types' : List TypeDefinition} {schema : Schema} {changes changes' : List Registry.Change}
  {R : TypeDefinition → TypeDefinition → Prop}

/-! ### Roots that are found -/

/-- The root type of an operation. -/
def rootType? (schema : Schema) : Operation → Option TypeDefinition
  | .query => schema.queryType?
  | .mutation => schema.mutationType?
  | .subscription => schema.subscriptionType?

/-- The root type is the type of the root's name. -/
theorem rootType?_eq (schema : Schema) (operation : Operation) :
    schema.rootType? operation = (schema.rootName? operation).bind schema.type? := by
  cases operation <;> rfl

/-- The query root is required in any case. -/
theorem rootOf_query : rootOf registry types .query =
    (requireRoot types .query (registry.rootName .query)).map some := by
  cases hnamed : registry.namedRoot? .query <;>
    simp only [rootOf, queryRoot, Registry.rootName, hnamed, Option.getD_none, Option.getD_some]

/-- Queries have a root, which is an object type. -/
theorem exists_queryType? (hschema : ofRegistry registry = .ok schema) :
    ∃ t, schema.queryType? = some t ∧ t.kind = .object := by
  obtain ⟨hroots, htypes⟩ := ofRegistry_eq_ok_iff.mp hschema
  have hroot := hroots .query
  rw [rootOf_query] at hroot
  obtain ⟨hname, t, hfind, hkind⟩ := requireRoot_eq_ok hroot
  refine ⟨t, ?_, hkind⟩
  rw [queryType?, Option.some.inj hname, type?, htypes, hfind]

/-- Where an operation must have a root it is required. -/
theorem rootOf_of_rooted (h : registry.Ordered) (hrooted : registry.Rooted operation) :
    rootOf registry (typesOf registry) operation =
      (requireRoot (typesOf registry) operation (registry.rootName operation)).map some := by
  cases hnamed : registry.namedRoot? operation with
  | some name => rw [rootOf_of_named hnamed, Registry.rootName, hnamed, Option.getD_some]
  | none =>
    rcases hrooted with rfl | hsome | hdefined
    · exact rootOf_query
    · rw [hnamed] at hsome
      cases hsome
    · obtain ⟨t, hdefined⟩ := Option.isSome_iff_exists.mp hdefined
      rw [rootOf_of_defined hnamed (find?_typesOf_of_defined h hdefined), Registry.rootName, hnamed,
        Option.getD_none]

/-- Otherwise it has none. -/
theorem rootOf_of_not_rooted (h : registry.Ordered) (hnot : ¬ registry.Rooted operation) :
    rootOf registry (typesOf registry) operation = .ok none := by
  simp only [Registry.Rooted, not_or, Bool.not_eq_true, Option.isSome_eq_false_iff,
    Option.isNone_iff_eq_none] at hnot
  obtain ⟨hother, hnamed, hnone⟩ := hnot
  refine rootOf_of_absent hnamed hother ?_
  rw [find?_typesOf h, hnone, Registry.added?_defaultRoot hother, Option.none_or]

/-- The root of an operation that must have one is an object type of its name. -/
theorem rootType?_of_rooted (h : registry.Ordered) (hschema : ofRegistry registry = .ok schema)
    (hrooted : registry.Rooted operation) :
    ∃ t, schema.rootType? operation = some t ∧ t.kind = .object ∧
      t.name = registry.rootName operation := by
  obtain ⟨hroots, htypes⟩ := ofRegistry_eq_ok_iff.mp hschema
  have hroot := hroots operation
  rw [rootOf_of_rooted h hrooted] at hroot
  obtain ⟨hname, t, hfind, hkind⟩ := requireRoot_eq_ok hroot
  refine ⟨t, ?_, hkind, (TypeDefinition.mem_of_find? hfind).2⟩
  rw [rootType?_eq, hname, Option.bind_some, type?, htypes, hfind]

theorem rootType?_of_not_rooted (h : registry.Ordered)
    (hschema : ofRegistry registry = .ok schema) (hnot : ¬ registry.Rooted operation) :
    schema.rootType? operation = none := by
  have hroot := (ofRegistry_eq_ok_iff.mp hschema).1 operation
  rw [rootOf_of_not_rooted h hnot] at hroot
  rw [rootType?_eq, ← Except.ok.inj hroot, Option.bind_none]

open Registry in
/-- A schema is well formed after some changes. -/
structure WellFormed (changes : List Change) (schema : Schema) : Prop where
  /-- A name has the definition that was added last. If none was added and the last schema
  definition names no query root there is a query type without fields. -/
  type?_eq : ∀ name, schema.type? name = (lastAdded? changes name).or
    (if lastNamed? changes .query = none ∧ "Query" = name then some (.object "Query") else none)
  /-- The types are listed by name. -/
  sorted : schema.types.Pairwise fun s t => s.name < t.name
  /-- Every definition that counts is listed, and no other one. -/
  mem_types_iff : ∀ t, t ∈ schema.types ↔ schema.type? t.name = some t
  /-- Queries have a root type; other operations have one if it is named or if there is one of the
  default name. -/
  isSome_rootType?_iff : ∀ operation, (schema.rootType? operation).isSome ↔
    operation = .query ∨ (lastNamed? changes operation).isSome ∨
      (lastAdded? changes operation.defaultRoot).isSome
  /-- Every root is an object type of the name that it should have. -/
  root : ∀ operation t, schema.rootType? operation = some t →
    t.kind = .object ∧ t.name = (lastNamed? changes operation).getD operation.defaultRoot

/-- A schema that is assembled after some changes is well formed. -/
theorem wellFormed_of_ok (hschema : ofRegistry (.made changes) = .ok schema) :
    WellFormed changes schema := by
  have hordered := Registry.ordered_made changes
  have htypes := (ofRegistry_eq_ok_iff.mp hschema).2
  have hincreasing : Sorted.Increasing TypeDefinition.order schema.types :=
    htypes ▸ increasing_typesOf hordered
  have hrooted : ∀ operation, (Registry.made changes).Rooted operation ↔
      operation = .query ∨ (Registry.lastNamed? changes operation).isSome ∨
        (Registry.lastAdded? changes operation.defaultRoot).isSome := by
    intro operation
    rw [Registry.Rooted, Registry.namedRoot?_made, Registry.get?_made]
  refine ⟨fun name => ?types, ?sorted, fun t => ?listed, fun operation => ?rooted,
    fun operation t ht => ?root⟩
  case types =>
    rw [type?, htypes, find?_typesOf hordered, Registry.get?_made, Registry.added?,
      Registry.namedRoot?_made]
    rfl
  case sorted => exact hincreasing.imp fun hlt => compareOfLessAndEq_eq_lt.mp hlt
  case listed =>
    rw [type?, TypeDefinition.find?_eq_some_iff hincreasing, and_iff_left rfl]
  case rooted =>
    rw [← hrooted]
    by_cases h : (Registry.made changes).Rooted operation
    · obtain ⟨t, ht, -⟩ := rootType?_of_rooted hordered hschema h
      simp [ht, h]
    · simp [rootType?_of_not_rooted hordered hschema h, h]
  case root =>
    by_cases h : (Registry.made changes).Rooted operation
    · obtain ⟨root, hroot, hkind, hname⟩ := rootType?_of_rooted hordered hschema h
      cases ht.symm.trans hroot
      rw [Registry.rootName, Registry.namedRoot?_made] at hname
      exact ⟨hkind, hname⟩
    · rw [rootType?_of_not_rooted hordered hschema h] at ht
      cases ht

/-! ### Definitions that are alike -/

/-- Two registries name the same roots and define the same names alike. -/
structure Alike (R : TypeDefinition → TypeDefinition → Prop) (registry registry' : Registry) :
    Prop where
  named : ∀ operation, registry.namedRoot? operation = registry'.namedRoot? operation
  defined : ∀ name, Option.Rel R (registry.get? name) (registry'.get? name)

theorem Alike.rooted_iff (h : Alike R registry registry') (operation : Operation) :
    registry.Rooted operation ↔ registry'.Rooted operation := by
  rw [Registry.Rooted, Registry.Rooted, h.named,
    isSome_eq_of_rel (h.defined operation.defaultRoot)]

/-- Their schemas hold the same names, too. -/
theorem Alike.find?_typesOf (h : Alike R registry registry') (hrefl : ∀ t, R t t)
    (hregistry : registry.Ordered) (hregistry' : registry'.Ordered) (name : String) :
    Option.Rel R (TypeDefinition.find? (typesOf registry) name)
      (TypeDefinition.find? (typesOf registry') name) := by
  have hadded : registry.added? name = registry'.added? name := by
    rw [Registry.added?, Registry.added?, h.named]
  rw [Schema.find?_typesOf hregistry, Schema.find?_typesOf hregistry', ← hadded]
  exact rel_or (h.defined name) (rel_self hrefl _)

/-- A root is only looked up by its name, and only its kind matters. -/
theorem requireRoot_congr (hkind : ∀ {s t}, R s t → s.kind = t.kind)
    (h : Option.Rel R (TypeDefinition.find? types name) (TypeDefinition.find? types' name)) :
    requireRoot types operation name = requireRoot types' operation name := by
  unfold requireRoot
  revert h
  generalize TypeDefinition.find? types name = found
  generalize TypeDefinition.find? types' name = found'
  rintro (hR | _)
  · simp only [hkind hR]
  · rfl

/-- Registries that are alike make schemas with the same roots, whose types are alike one by one. -/
theorem exists_ok_of_alike (hrefl : ∀ t, R t t) (hkind : ∀ {s t}, R s t → s.kind = t.kind)
    (h : Alike R registry registry') (hregistry : registry.Ordered)
    (hregistry' : registry'.Ordered) (hschema : ofRegistry registry = .ok schema) :
    ∃ types, ofRegistry registry' = .ok { schema with types := types } ∧
      List.Forall₂ R schema.types types := by
  have hfind := h.find?_typesOf hrefl hregistry hregistry'
  obtain ⟨hroots, htypes⟩ := ofRegistry_eq_ok_iff.mp hschema
  -- The names of the roots do not depend on the definitions, so only the types may differ.
  refine ⟨typesOf registry', ofRegistry_eq_ok_iff.mpr ⟨fun operation => ?roots, rfl⟩, ?types⟩
  case roots =>
    have hsame : rootOf registry' (typesOf registry') operation =
        rootOf registry (typesOf registry) operation := by
      by_cases hrooted : registry.Rooted operation
      · have hname : registry.rootName operation = registry'.rootName operation := by
          rw [Registry.rootName, Registry.rootName, h.named]
        rw [rootOf_of_rooted hregistry hrooted,
          rootOf_of_rooted hregistry' ((h.rooted_iff operation).mp hrooted), hname,
          requireRoot_congr hkind (hfind _)]
      · rw [rootOf_of_not_rooted hregistry hrooted,
          rootOf_of_not_rooted hregistry' (mt (h.rooted_iff operation).mpr hrooted)]
    rw [hsame, hroots]
    cases operation <;> rfl
  case types =>
    rw [htypes]
    exact TypeDefinition.forall₂_of_find? (increasing_typesOf hregistry)
      (increasing_typesOf hregistry') hfind

/-- Registries with the same definitions make the same schema. -/
theorem ofRegistry_eq_ok_of_alike (h : Alike Eq registry registry')
    (hregistry : registry.Ordered) (hregistry' : registry'.Ordered)
    (hschema : ofRegistry registry = .ok schema) : ofRegistry registry' = .ok schema := by
  obtain ⟨types, hok, htypes⟩ :=
    exists_ok_of_alike (fun _ => rfl) (congrArg _) h hregistry hregistry' hschema
  rw [List.forall₂_eq_eq_eq] at htypes
  rw [hok, ← htypes]

/-- Schemas with the same roots are the same if their types are, one by one. -/
theorem same_of_forall₂ {types : List TypeDefinition}
    (h : List.Forall₂ (fun s t : TypeDefinition => s.same t = true) schema.types types) :
    schema.same { schema with types := types } = true := by
  rw [List.forall₂_iff_zip] at h
  simp only [same, beq_self_eq_true, Bool.true_and, Bool.and_eq_true, beq_iff_eq, List.all_eq_true]
  exact ⟨h.1, fun pair hpair => h.2 hpair⟩

end Schema

namespace TypeDefinition

/-- A definition is the same as itself. -/
theorem same_refl (t : TypeDefinition) : t.same t = true := by
  obtain ⟨name, kind, fields, _ | file⟩ := t
  · simp [same, FileRef.sameOption]
  · simp [same, FileRef.sameOption, FileRef.same_refl]

theorem kind_of_same {s t : TypeDefinition} (h : s.same t = true) : s.kind = t.kind := by
  simp only [same, Bool.and_eq_true, beq_iff_eq] at h
  exact h.1.1.2

end TypeDefinition

open Registry Schema in
/-- A schema that is assembled is well formed and depends on the last definitions only. Let some
changes make a registry that makes a schema. Then

* every name has the definition that was added last, and the query type that is added where the
  schema definition names no query root and none was added is the only other one; they are listed by
  name; the operations that must have a root have an object type of the right name;
* other changes, in whatever order, that define the same names the same at last, and the same
  schema definition, make the same schema, literally or under other spellings of the files. -/
theorem assembled_schema_well_formed {changes : List Change} {schema : Schema}
    (hschema : ofRegistry (made changes) = .ok schema) :
    WellFormed changes schema ∧
      ∀ changes', lastDefined? changes' = lastDefined? changes →
        ((∀ name, lastAdded? changes' name = lastAdded? changes name) →
          ofRegistry (made changes') = .ok schema) ∧
        ((∀ name, Option.Rel (fun s t => s.same t = true) (lastAdded? changes name)
            (lastAdded? changes' name)) →
          ∃ schema', ofRegistry (made changes') = .ok schema' ∧ schema.same schema' = true) := by
  refine ⟨wellFormed_of_ok hschema, fun changes' hdefined => ?_⟩
  have hnamed : ∀ operation,
      (made changes).namedRoot? operation = (made changes').namedRoot? operation := by
    intro operation
    rw [namedRoot?_made, namedRoot?_made, lastNamed?, lastNamed?, hdefined]
  refine ⟨fun hadded => ?equal, fun hadded => ?same⟩
  case equal =>
    refine ofRegistry_eq_ok_of_alike ⟨hnamed, fun name => ?_⟩ (ordered_made _) (ordered_made _)
      hschema
    rw [get?_made, get?_made, hadded]
    exact rel_self (fun _ => rfl) _
  case same =>
    have halike : Alike (fun s t => s.same t = true) (made changes) (made changes') :=
      ⟨hnamed, fun name => by rw [get?_made, get?_made]; exact hadded name⟩
    obtain ⟨types, hok, htypes⟩ := exists_ok_of_alike TypeDefinition.same_refl
      TypeDefinition.kind_of_same halike (ordered_made _) (ordered_made _) hschema
    exact ⟨_, hok, same_of_forall₂ htypes⟩

section Example

open Registry Schema

/-- A type is defined twice, and the schema definition names it for mutations. -/
def redefined : List Change :=
  [.add ⟨"Edit", .union, [], none⟩, .define { mutation := some "Edit" },
    .add (.object "Subscription"), .add ⟨"Edit", .object, [⟨"undo", "Boolean"⟩], none⟩]

/-- The same last definitions in another order. -/
def redefinedBackward : List Change :=
  [.define {}, .add ⟨"Edit", .object, [⟨"undo", "Boolean"⟩], none⟩, .add (.object "Subscription"),
    .define { mutation := some "Edit" }]

/-- The names of both have the same last definition. -/
theorem lastAdded?_redefined (name : String) :
    lastAdded? redefinedBackward name = lastAdded? redefined name := by
  simp only [lastAdded?, redefined, redefinedBackward, List.reverse_cons, List.reverse_nil,
    List.nil_append, List.cons_append, List.findSome?_cons, List.findSome?_nil, Change.added?]
  by_cases hedit : "Edit" = name
  · subst hedit
    rfl
  · simp only [hedit, if_false]

/-- Both make one schema, with a query type that was added. -/
theorem assembled_schema_well_formed_redefined :
    ∃ schema, ofRegistry (made redefined) = .ok schema ∧ WellFormed redefined schema ∧
      ofRegistry (made redefinedBackward) = .ok schema ∧
      schema.rootType? .query = some (.object "Query") ∧
      (schema.rootType? .mutation).map (·.fields.length) = some 1 ∧
      schema.types.map (·.name) = ["Edit", "Query", "Subscription"] := by
  obtain ⟨schema, hschema⟩ : ∃ schema, ofRegistry (made redefined) = .ok schema :=
    ⟨⟨"Query", some "Edit", some "Subscription", _⟩, rfl⟩
  obtain ⟨hwell, hagain⟩ := assembled_schema_well_formed hschema
  refine ⟨schema, hschema, hwell, (hagain redefinedBackward rfl).1 lastAdded?_redefined, ?_⟩
  cases hschema
  decide

end Example

end SchemaEngine
