import SchemaEngine.Host.Site
import SchemaEngine.Host.Turn

/-!
# Collaborators

The engine works with answers that others give: who knows the project configuration, the files, the
libraries, the type definitions, the rules of schemas and the open documents. Questions that are
answered by looking read the world of the collaborators; all others may change the site, and those
that take a turn may call the engine back.

## Main definitions

* `Resolver`, `FileIndex`, `DocumentStorage`: what is asked of one collaborator.
* `Collaborators`: all of them.
* `Dependency`: the stamps that cached values depend on.
-/

set_option autoImplicit false

namespace SchemaEngine

/-- How a piece of work ends. -/
inductive Outcome where
  | finished
  /-- It breaks down halfway. -/
  | crashed
  deriving Repr, DecidableEq

/-- Who discovers and resolves project configurations. -/
structure Resolver (H : Type) where
  /-- A stamp that moves with every completed reload. -/
  stamp : H → Stamp
  /-- The configuration that owns a file. -/
  projectConfig : FileRef → Site H → Option ProjectConfig × Site H
  /-- Whether there is any configuration file. -/
  hasConfigFiles : Site H → Bool × Site H
  /-- The directories that hold configuration files. -/
  directories : H → List FileRef
  /-- The configuration file in a directory. -/
  configFileIn : FileRef → Site H → Option FileRef × Site H
  /-- Requests a reload of the configuration. -/
  reload : Site H → Outcome × Site H

/-- Who knows the files. -/
structure FileIndex (H : Type) where
  /-- Whether a file still exists. -/
  isValid : H → FileRef → Bool
  isDirectory : H → FileRef → Bool
  /-- Whether a file belongs to the project. -/
  isInProject : H → FileRef → Bool
  /-- A stamp that moves when the file is modified. -/
  stamp : H → FileRef → Stamp

/-- What may happen while a document is being saved. -/
inductive SaveEvent where
  /-- A document is edited. -/
  | edited (document : DocumentId)
  /-- Flushing is called off. -/
  | cancelled
  deriving Repr, DecidableEq

/-- Who keeps the open documents. -/
structure DocumentStorage (H : Type) where
  /-- The file behind an open document. -/
  fileOf : H → DocumentId → Option FileRef
  /-- Writes a document to its file; false if there is nothing to write. -/
  save : DocumentId → Site H → Turn (Site H) SaveEvent Bool (Except StorageError Bool)

/-- A step of a schema build. It may ask for the schema that is visible from a file. -/
abbrev BuildTurn (H R : Type) :=
  Turn (Site H) (Option FileRef) (Except Cancelled SchemaInfo) (Except BuildError R)

/-- All whom the engine asks. -/
structure Collaborators (H : Type) where
  resolver : Resolver H
  files : FileIndex H
  documents : DocumentStorage H
  /-- The directories of each library. -/
  libraries : Site H → List (List Path) × Site H
  /-- Collects the type definitions that are visible from a file. -/
  registryInfo : Option FileRef → Site H → BuildTurn H RegistryInfo
  /-- Checks the structure of a schema. -/
  validate : Schema → Site H → BuildTurn H (List ValidationIssue)

/-- The stamps that cached values depend on. -/
inductive Dependency where
  /-- The project configuration. -/
  | configuration
  /-- Which files there are. -/
  | fileStructure
  /-- The content of one file. -/
  | file (file : FileRef)
  deriving Repr, DecidableEq

/-- The present stamp of a dependency. -/
def Collaborators.stamp {H : Type} (c : Collaborators H) (site : Site H) : Dependency → Stamp
  | .configuration => c.resolver.stamp site.host
  | .fileStructure => site.generation
  | .file f => c.files.stamp site.host f

end SchemaEngine
