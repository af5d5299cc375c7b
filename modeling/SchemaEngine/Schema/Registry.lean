import SchemaEngine.Order.Sorted
import SchemaEngine.Path.FileRef

/-!
# Registries of type definitions

A registry holds the type definitions that are visible in one scope, at most one for each name, and
perhaps a schema definition, which names root types.

## Main definitions

* `TypeDefinition`: a named type with its fields.
* `SchemaDefinition`: the root types that are named explicitly.
* `Registry`: the definitions, with `Registry.add` and `Registry.get?`.
* `RegistryInfo`: a registry with the problems found while it was collected.
-/

set_option autoImplicit false

namespace SchemaEngine

/-- The kinds of types. -/
inductive TypeKind where
  | object
  | interface
  | union
  | enumeration
  | inputObject
  | scalar
  deriving Repr, DecidableEq

/-- A field of a type. -/
structure FieldDefinition where
  name : String
  /-- The type of the field, without list and non-null marks. -/
  typeName : String
  deriving Repr, DecidableEq

/-- A type that is declared somewhere. -/
structure TypeDefinition where
  name : String
  kind : TypeKind
  fields : List FieldDefinition := []
  /-- The file that declares the type, if it is known. -/
  source : Option FileRef := none
  deriving Repr, DecidableEq

/-- Whether two files, which may be absent, are the same. -/
def FileRef.sameOption : Option FileRef → Option FileRef → Bool
  | none, none => true
  | some f, some g => f.same g
  | _, _ => false

namespace TypeDefinition

/-- An object type without fields. -/
def object (name : String) : TypeDefinition :=
  ⟨name, .object, [], none⟩

/-- Whether two definitions are equal, files by component. -/
def same (s t : TypeDefinition) : Bool :=
  s.name == t.name && s.kind == t.kind && s.fields == t.fields &&
    FileRef.sameOption s.source t.source

/-- Definitions by name. -/
def order (s t : TypeDefinition) : Ordering :=
  compare s.name t.name

end TypeDefinition

/-- The definition of a name among definitions. -/
def TypeDefinition.find? (types : List TypeDefinition) (name : String) : Option TypeDefinition :=
  types.find? fun t => t.name == name

/-- The root types that a schema definition names. -/
structure SchemaDefinition where
  query : Option String := none
  mutation : Option String := none
  subscription : Option String := none
  deriving Repr, DecidableEq

/-- The type definitions of one scope. -/
structure Registry where
  /-- The definitions, sorted by name. -/
  types : List TypeDefinition := []
  schemaDefinition : Option SchemaDefinition := none
  deriving Repr, DecidableEq

namespace Registry

/-- The definition of a name. -/
def get? (registry : Registry) (name : String) : Option TypeDefinition :=
  TypeDefinition.find? registry.types name

/-- Adds a definition; one of the same name gives way. -/
def add (registry : Registry) (definition : TypeDefinition) : Registry :=
  { registry with types := Sorted.replace TypeDefinition.order definition registry.types }

/-- Sets the schema definition. -/
def define (registry : Registry) (definition : SchemaDefinition) : Registry :=
  { registry with schemaDefinition := some definition }

/-- The number of definitions. -/
def size (registry : Registry) : Nat :=
  registry.types.length

/-- The registry of the listed definitions. -/
def ofList (types : List TypeDefinition) : Registry :=
  types.foldl add {}

end Registry

/-- A problem found while definitions were collected. -/
structure RegistryError where
  message : String
  file : Option FileRef := none
  deriving Repr, DecidableEq

/-- A registry and the problems found while it was collected. -/
structure RegistryInfo where
  registry : Registry := {}
  errors : List RegistryError := []
  deriving Repr, DecidableEq

end SchemaEngine
