import SchemaEngine.Scope.Algebra

/-!
# Scopes of project configurations

A project configuration may give the files that it owns two scopes, one to resolve names in and one
to assemble schemas from.

## Main definitions

* `Flavor`: which of the two scopes is asked for.
* `ProjectConfig.scopeOf`: the scope that a configuration gives.
-/

set_option autoImplicit false

namespace SchemaEngine

/-- Which scope is asked for. -/
inductive Flavor where
  /-- The scope that names are resolved in. -/
  | resolve
  /-- The scope that schemas are assembled from. -/
  | schema
  deriving Repr, DecidableEq

/-- The flavor in words. -/
def Flavor.describe : Flavor → String
  | resolve => "Resolve"
  | schema => "Schema"

/-- The part of a project configuration that scopes depend on. -/
structure ProjectConfig where
  /-- The scope that names are resolved in. -/
  scope : Option Scope := none
  /-- The scope that schemas are assembled from. -/
  schemaScope : Option Scope := none
  deriving Repr

/-- The scope that a configuration gives its files. -/
def ProjectConfig.scopeOf (config : ProjectConfig) : Flavor → Option Scope
  | .resolve => config.scope
  | .schema => config.schemaScope

end SchemaEngine
