import SchemaEngine.Schema.Registry

/-!
# Assembling a schema

A schema is a set of types with a query root and perhaps a mutation and a subscription root. Roots
that the schema definition names must be defined; a root that it does not name is the type of the
default name, if there is one, and a missing query type is added without fields. Every root must be
an object type.

## Main definitions

* `Operation`: the three operations that have a root type.
* `RootProblem`: why a root type is refused.
* `Schema`: an assembled schema, with its root types.
* `Schema.ofRegistry`: the schema of a registry.
-/

set_option autoImplicit false

namespace SchemaEngine

/-- The operations that have a root type. -/
inductive Operation where
  | query
  | mutation
  | subscription
  deriving Repr, DecidableEq

namespace Operation

/-- The operation in words. -/
def keyword : Operation → String
  | query => "query"
  | mutation => "mutation"
  | subscription => "subscription"

/-- The name of the root type where the schema definition names none. -/
def defaultRoot : Operation → String
  | query => "Query"
  | mutation => "Mutation"
  | subscription => "Subscription"

end Operation

/-- The root type that a schema definition names for an operation. -/
def SchemaDefinition.root? (definition : SchemaDefinition) : Operation → Option String
  | .query => definition.query
  | .mutation => definition.mutation
  | .subscription => definition.subscription

/-- The root type that the schema definition of a registry, if it has one, names. -/
def Registry.namedRoot? (registry : Registry) (operation : Operation) : Option String :=
  registry.schemaDefinition.bind fun definition => definition.root? operation

/-- What is wrong with a root type. -/
inductive RootFault where
  | undefined
  | notObject
  deriving Repr, DecidableEq

/-- A root type that is refused. -/
structure RootProblem where
  operation : Operation
  name : String
  fault : RootFault
  deriving Repr, DecidableEq

/-- The problem in words. -/
def RootProblem.message (problem : RootProblem) : String :=
  problem.operation.keyword ++ " root type `" ++ problem.name ++
    match problem.fault with
    | .undefined => "` is not defined"
    | .notObject => "` must be an object type"

/-- A schema: root types and all types, sorted by name. -/
structure Schema where
  query : String
  mutation : Option String
  subscription : Option String
  types : List TypeDefinition
  deriving Repr, DecidableEq

namespace Schema

/-- The smallest schema: a query type without fields. -/
def empty : Schema :=
  ⟨"Query", none, none, [.object "Query"]⟩

/-- The definition of a name. -/
def type? (schema : Schema) (name : String) : Option TypeDefinition :=
  TypeDefinition.find? schema.types name

/-- The root type of queries. -/
def queryType? (schema : Schema) : Option TypeDefinition :=
  schema.type? schema.query

/-- The root type of mutations. -/
def mutationType? (schema : Schema) : Option TypeDefinition :=
  schema.mutation.bind schema.type?

/-- The root type of subscriptions. -/
def subscriptionType? (schema : Schema) : Option TypeDefinition :=
  schema.subscription.bind schema.type?

/-- Whether two schemas are equal, files by component. -/
def same (s t : Schema) : Bool :=
  s.query == t.query && s.mutation == t.mutation && s.subscription == t.subscription &&
    s.types.length == t.types.length && (s.types.zip t.types).all fun pair => pair.1.same pair.2

/-- The named root of an operation, which must be an object type. -/
def requireRoot (types : List TypeDefinition) (operation : Operation) (name : String) :
    Except RootProblem String :=
  match TypeDefinition.find? types name with
  | none => .error ⟨operation, name, .undefined⟩
  | some t => if t.kind = .object then .ok name else .error ⟨operation, name, .notObject⟩

/-- The types of the schema of a registry: a query type is added where neither the schema definition
nor the registry has one. -/
def typesOf (registry : Registry) : List TypeDefinition :=
  match registry.namedRoot? .query with
  | some _ => registry.types
  | none => Sorted.insert TypeDefinition.order (.object Operation.query.defaultRoot) registry.types

/-- The query root of a schema with these types. -/
def queryRoot (registry : Registry) (types : List TypeDefinition) : Except RootProblem String :=
  match registry.namedRoot? .query with
  | some name => requireRoot types .query name
  | none => requireRoot types .query Operation.query.defaultRoot

/-- The root of an operation that a schema need not have. -/
def optionalRoot (registry : Registry) (types : List TypeDefinition) (operation : Operation) :
    Except RootProblem (Option String) :=
  match registry.namedRoot? operation with
  | some name => (requireRoot types operation name).map some
  | none =>
    match TypeDefinition.find? types operation.defaultRoot with
    | some _ => (requireRoot types operation operation.defaultRoot).map some
    | none => .ok none

/-- The schema of a registry. Of several problems the first one is told: of the query, the mutation,
the subscription root. -/
def ofRegistry (registry : Registry) : Except RootProblem Schema :=
  let types := typesOf registry
  match queryRoot registry types with
  | .error problem => .error problem
  | .ok query =>
    match optionalRoot registry types .mutation with
    | .error problem => .error problem
    | .ok mutation =>
      match optionalRoot registry types .subscription with
      | .error problem => .error problem
      | .ok subscription => .ok ⟨query, mutation, subscription, types⟩

end Schema

end SchemaEngine
