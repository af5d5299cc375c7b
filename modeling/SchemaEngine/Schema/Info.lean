import SchemaEngine.Schema.Assembly

/-!
# Outcomes of schema builds

A build ends with a schema and the errors found on the way, or it is cancelled. Errors never stand
in the way of a schema: where a step fails the schema is the empty one.

## Main definitions

* `BuildError`: why a step of a build fails.
* `SchemaError`: an error attached to a schema.
* `SchemaInfo`: the outcome of a build.
* `SchemaInfo.allErrors`, `SchemaInfo.isValid`: the errors of the registry and of the schema.
-/

set_option autoImplicit false

namespace SchemaEngine

/-- Why a step of a build fails. -/
inductive BuildError where
  /-- The build was called off. -/
  | cancelled
  /-- The step failed, for a reason in words. -/
  | internal (message : String)
  deriving Repr, DecidableEq

namespace BuildError

/-- The error in words. -/
def message : BuildError → String
  | cancelled => "Schema build was cancelled"
  | internal text => text

/-- Whether the build was called off. -/
def isCancellation : BuildError → Bool
  | cancelled => true
  | internal _ => false

end BuildError

/-- The signal that surrounding work was torn down. -/
inductive Cancelled where
  | mk
  deriving Repr, DecidableEq

/-- The signal in words. -/
def Cancelled.message (_ : Cancelled) : String :=
  "operation was cancelled"

/-- A problem that validation reports. -/
structure ValidationIssue where
  /-- The rule that is broken. -/
  rule : String
  message : String
  deriving Repr, DecidableEq

/-- The issue in words. -/
def ValidationIssue.display (issue : ValidationIssue) : String :=
  issue.message ++ " [" ++ issue.rule ++ "]"

/-- An error attached to a schema. -/
inductive SchemaError where
  /-- What validation reports. -/
  | invalidSchema (issues : List ValidationIssue)
  /-- A problem found while definitions were collected. -/
  | registry (error : RegistryError)
  /-- The schema could not be assembled. -/
  | internal (message : String)
  deriving Repr, DecidableEq

namespace SchemaError

/-- The error in words. -/
def message : SchemaError → String
  | invalidSchema issues => "Invalid schema: " ++ "; ".intercalate (issues.map (·.display))
  | registry error => "Registry error: " ++ error.message
  | internal text => "Schema build error: " ++ text

/-- The error that a failed step leaves on the schema. -/
def ofBuildError (error : BuildError) : SchemaError :=
  .internal error.message

end SchemaError

/-- The outcome of a build. How long the build took is not told, for nothing depends on it. -/
structure SchemaInfo where
  schema : Schema
  /-- The errors of assembly and validation. -/
  errors : List SchemaError
  /-- The registry that the schema was built from. -/
  registry : RegistryInfo
  /-- The number of the build, counted from one. -/
  buildId : Nat
  deriving Repr, DecidableEq

namespace SchemaInfo

/-- Whether neither the registry nor the schema has errors. -/
def isValid (info : SchemaInfo) : Bool :=
  info.errors.isEmpty && info.registry.errors.isEmpty

/-- The errors of the registry, then those of the schema. -/
def allErrors (info : SchemaInfo) : List SchemaError :=
  info.registry.errors.map .registry ++ info.errors

end SchemaInfo

end SchemaEngine
