import SchemaEngine.Scope.Cache

/-!
# Schemas by scope

One schema is built for each scope and kept in a map. The map itself is the value of a memo cell
that depends on the project configuration and the file structure together: when one of them moves
the whole map is left behind and an empty one begins.

A build may ask for other schemas before it ends. It then publishes into the map that was current
when it began, even if that one was left behind meanwhile; maps are therefore numbered, and the cell
holds the number of the current one. Of several outcomes for one scope in one map, the first that is
published is the one that everybody gets.

## Main definitions

* `SchemaCache`: the maps and the cell, with `SchemaCache.lookup?` and `SchemaCache.publish`.
* `SchemaState.schemaFor`: the schema that is visible from a file.
* `SchemaState.isCached`, `SchemaState.cachedEntries`: what the current map holds.
-/

set_option autoImplicit false

namespace SchemaEngine

/-- The outcome of a build, under the scope that it was built for. -/
structure ScopedSchema where
  scope : Scope
  info : SchemaInfo
  deriving Repr

/-- The schemas that are kept. -/
structure SchemaCache where
  /-- How many schemas of a map are kept. -/
  capacity : UInt64 := 256
  /-- The number of the current map. -/
  current : Cell Dependency Nat :=
    ⟨"schema map", [.combined [.single .configuration, .single .fileStructure]], none⟩
  /-- The maps by number; the entries of each, the oldest one first. -/
  maps : List (List ScopedSchema) := []
  /-- The number of the last build that began. -/
  lastBuildId : Nat := 0

namespace SchemaCache

/-- What a map holds for a scope. -/
def find? (entries : List ScopedSchema) (scope : Scope) : Option SchemaInfo :=
  (entries.find? fun entry => entry.scope.same scope).map (·.info)

/-- The entries of a map. -/
def entries (cache : SchemaCache) (map : Nat) : List ScopedSchema :=
  (cache.maps[map]?).getD []

/-- What a numbered map holds for a scope. -/
def lookup? (cache : SchemaCache) (map : Nat) (scope : Scope) : Option SchemaInfo :=
  find? (cache.entries map) scope

/-- Publishes an outcome in a map. What the map holds for the scope already stays, and is returned
instead. A map without room for any entry stays empty. -/
def publish (map : Nat) (scope : Scope) (info : SchemaInfo) (cache : SchemaCache) :
    SchemaInfo × SchemaCache :=
  match cache.lookup? map scope with
  | some first => (first, cache)
  | none =>
    if cache.capacity = 0 then (info, cache)
    else
      (info,
        { cache with maps := cache.maps.modify map fun entries => entries ++ [⟨scope, info⟩] })

/-- Drops the entries of a map that go beyond the capacity. -/
def trim (map : Nat) (cache : SchemaCache) : SchemaCache :=
  { cache with maps := cache.maps.modify map fun entries => entries.take cache.capacity.toNat }

/-- The cache in words; the schemas are not told. -/
def describe (cache : SchemaCache) : String :=
  Shown.record "SchemaCache" [
    ("capacity", toString cache.capacity),
    ("schema_map", cache.current.describe),
    ("last_build_id", toString cache.lastBuildId)]

end SchemaCache

/-- The schemas, and the scopes and the site that they are built from. -/
structure SchemaState (H : Type) where
  schemas : SchemaCache
  scopes : ScopeState H

namespace SchemaState

variable {H : Type}

/-- The site that schemas are built at. -/
def site (s : SchemaState H) : Site H :=
  s.scopes.site

/-- The state with another site. -/
def withSite (site : Site H) (s : SchemaState H) : SchemaState H :=
  { s with scopes := { s.scopes with site := site } }

/-- Adds an entry to the journal. -/
def note (entry : Entry) (s : SchemaState H) : SchemaState H :=
  s.withSite (s.site.note entry)

/-- The place of the number of the current map. -/
def mapPlace (c : Collaborators H) : Place (SchemaState H) Dependency Nat where
  cell s := s.schemas.current
  put cell s := { s with schemas := { s.schemas with current := cell } }
  read s := c.stamp s.site
  note label stamps s := s.note (.recomputed label stamps.stamps)

/-- Begins an empty map. -/
def startMap (s : SchemaState H) : Nat × SchemaState H :=
  let s := s.note .schemaMapStarted
  (s.schemas.maps.length, { s with schemas := { s.schemas with maps := s.schemas.maps ++ [[]] } })

/-- The number of the current map; an empty one begins where the last one is stale. -/
def currentMap (c : Collaborators H) (s : SchemaState H) : Nat × SchemaState H :=
  (mapPlace c).get startMap s

/-- The stamp that the maps depend on. -/
def dependencyStamp (c : Collaborators H) (s : SchemaState H) : Stamp :=
  Source.stamp (c.stamp s.site) (.combined [.single .configuration, .single .fileStructure])

/-- The scope that names are resolved in. -/
def resolveScope (c : Collaborators H) (context : Option FileRef) (s : SchemaState H) :
    Scope × SchemaState H :=
  let (scope, scopes) := s.scopes.scopeFor c context .resolve
  (scope, { s with scopes := scopes })

/-- How a schema that is asked for in the middle of a build is obtained. -/
abbrev Nested (H : Type) :=
  Option FileRef → SchemaState H → Option (Except Cancelled SchemaInfo × SchemaState H)

/-- Runs a step of a build; the schemas that it asks for are obtained through `nested`. -/
def runStep {R : Type} (nested : Nested H) (step : Site H → BuildTurn H R) (s : SchemaState H) :
    Option (Except BuildError R × SchemaState H) :=
  let answer := fun context site (rest : SchemaCache × ScopeCache) =>
    match nested context ⟨rest.1, ⟨rest.2, site⟩⟩ with
    | none => none
    | some (told, s) => some (told, s.site, (s.schemas, s.scopes.cache))
  match (step s.site).run? answer (s.schemas, s.scopes.cache) with
  | none => none
  | some (result, site, schemas, cache) => some (result, ⟨schemas, ⟨cache, site⟩⟩)

/-- The errors that the issues of a validation leave on the schema. -/
def errorsOf (issues : List ValidationIssue) : List SchemaError :=
  if issues.isEmpty then [] else [.invalidSchema issues]

/-- Assembles the schema of a registry and has it validated. -/
def assemble (c : Collaborators H) (nested : Nested H) (registry : Registry) (s : SchemaState H) :
    Option (Except BuildError (Schema × List SchemaError) × SchemaState H) :=
  match Schema.ofRegistry registry with
  | .error problem => some (.error (.internal problem.message), s)
  | .ok schema =>
    match runStep nested (c.validate schema) s with
    | none => none
    | some (.error e, s) => some (.error e, s)
    | some (.ok issues, s) => some (.ok (schema, errorsOf issues), s)

/-- The outcome of a build that failed before there was a schema. -/
def failed (error : BuildError) (registry : RegistryInfo) (buildId : Nat) : SchemaInfo :=
  ⟨.empty, [.ofBuildError error], registry, buildId⟩

/-- Builds the schema that is visible from a file in the given scope. -/
def build (c : Collaborators H) (nested : Nested H) (context : Option FileRef) (scope : Scope)
    (s : SchemaState H) : Option (Except Cancelled SchemaInfo × SchemaState H) :=
  let buildId := s.schemas.lastBuildId + 1
  let s := { s with schemas := { s.schemas with lastBuildId := buildId } }
  match runStep nested (c.registryInfo context) s with
  | none => none
  | some (.error .cancelled, s) => some (.error .mk, s)
  | some (.error e, s) => some (.ok (failed e {} buildId), s.note (.buildFailed e))
  | some (.ok registry, s) =>
    match assemble c nested registry.registry s with
    | none => none
    | some (.error .cancelled, s) => some (.error .mk, s)
    | some (.error e, s) =>
      some (.ok (failed e registry buildId),
        (s.note (.buildFailed e)).note (.buildCompleted context scope))
    | some (.ok (schema, errors), s) =>
      some (.ok ⟨schema, errors, registry, buildId⟩, s.note (.buildCompleted context scope))

/-- The schema that is visible from a file: the one that the current map holds for the scope of the
file, or else a new one, which is published there. A build that is cancelled publishes nothing. The
answers of builds that ask for schemas may nest as deep as `depth`; deeper ones are not obtained. -/
def schemaFor (c : Collaborators H) : Nat → Nested H
  | 0, _, _ => none
  | depth + 1, context, s =>
    let (scope, s) := resolveScope c context s
    let (map, s) := currentMap c s
    match s.schemas.lookup? map scope with
    | some info => some (.ok info, s)
    | none =>
      match build c (schemaFor c depth) context scope s with
      | none => none
      | some (.error cancelled, s) => some (.error cancelled, s)
      | some (.ok info, s) =>
        let (info, schemas) := s.schemas.publish map scope info
        some (.ok info, { s with schemas := schemas })

/-- The number of the current map, unless it is stale. -/
def freshMap (c : Collaborators H) (s : SchemaState H) : Option Nat :=
  s.schemas.current.peek (c.stamp s.site)

/-- Whether the current map holds a schema for a scope. -/
def isCached (c : Collaborators H) (scope : Scope) (s : SchemaState H) : Bool :=
  match s.freshMap c with
  | none => false
  | some map => (s.schemas.lookup? map scope).isSome

/-- The number of schemas in the current map, after what goes beyond the capacity was dropped. -/
def cachedEntries (c : Collaborators H) (s : SchemaState H) : Nat × SchemaState H :=
  match s.freshMap c with
  | none => (0, s)
  | some map =>
    let schemas := s.schemas.trim map
    ((schemas.entries map).length, { s with schemas := schemas })

end SchemaState

end SchemaEngine
