import SchemaEngine.Change.Dispatcher
import SchemaEngine.Schema.Cache

/-!
# The parts of a workspace together

The caches, the watcher and the executor work at one site. Each of them is described on the part of
the state that it needs; here the parts are put together, and their operations are given on the
whole.

## Main definitions

* `Engine`: all parts.
* `Engine.onSchemas`, `Engine.onScopes`, `Engine.onWatcher`: an operation of a part on the whole.
* `Engine.schemaFor`, `Engine.scopeFor`, `Engine.filesChanged`: what a workspace is asked most.
-/

set_option autoImplicit false

namespace SchemaEngine

/-- The parts of a workspace, and the site that they share. -/
structure Engine (J H : Type) where
  schemas : SchemaCache := {}
  scopes : ScopeCache
  watcher : Watcher := {}
  executor : Executor (Job J) := {}
  site : Site H

namespace Engine

variable {J H α : Type}

/-- The scopes at their site. -/
def scopeState (engine : Engine J H) : ScopeState H :=
  ⟨engine.scopes, engine.site⟩

/-- The schemas at their site. -/
def schemaState (engine : Engine J H) : SchemaState H :=
  ⟨engine.schemas, engine.scopeState⟩

/-- The watcher at its site. -/
def watcherState (engine : Engine J H) : WatcherState H :=
  ⟨engine.watcher, engine.site⟩

/-- The watcher and the executor. -/
def dispatcher (engine : Engine J H) : Dispatcher J H :=
  ⟨engine.executor, engine.watcherState⟩

/-- The engine with other scopes. -/
def withScopes (s : ScopeState H) (engine : Engine J H) : Engine J H :=
  { engine with scopes := s.cache, site := s.site }

/-- The engine with other schemas. -/
def withSchemas (s : SchemaState H) (engine : Engine J H) : Engine J H :=
  { engine.withScopes s.scopes with schemas := s.schemas }

/-- The engine with another watcher. -/
def withWatcher (s : WatcherState H) (engine : Engine J H) : Engine J H :=
  { engine with watcher := s.watcher, site := s.site }

/-- The engine with another watcher and executor. -/
def withDispatcher (d : Dispatcher J H) (engine : Engine J H) : Engine J H :=
  { engine.withWatcher d.watch with executor := d.executor }

/-- An operation on the scopes. -/
def onScopes (f : ScopeState H → α × ScopeState H) (engine : Engine J H) : α × Engine J H :=
  let (a, s) := f engine.scopeState
  (a, engine.withScopes s)

/-- An operation on the schemas. -/
def onSchemas (f : SchemaState H → α × SchemaState H) (engine : Engine J H) : α × Engine J H :=
  let (a, s) := f engine.schemaState
  (a, engine.withSchemas s)

/-- An operation on the watcher. -/
def onWatcher (f : WatcherState H → α × WatcherState H) (engine : Engine J H) : α × Engine J H :=
  let (a, s) := f engine.watcherState
  (a, engine.withWatcher s)

/-- The schema that is visible from a file; `depth` bounds how deep the builds that it needs may
nest. -/
def schemaFor (c : Collaborators H) (depth : Nat) (context : Option FileRef)
    (engine : Engine J H) : Option (Except Cancelled SchemaInfo × Engine J H) :=
  match engine.schemaState.schemaFor c depth context with
  | some (result, s) => some (result, engine.withSchemas s)
  | none => none

/-- The scope of a file. -/
def scopeFor (c : Collaborators H) (file : Option FileRef) (flavor : Flavor)
    (engine : Engine J H) : Scope × Engine J H :=
  engine.onScopes fun s => s.scopeFor c file flavor

/-- Takes a batch of file events in. -/
def filesChanged (c : Collaborators H) (events : List FileEvent) (engine : Engine J H) :
    Bool × Engine J H :=
  engine.onWatcher fun s => s.filesChanged c events

/-- Makes a move of the watcher, its timers or the executor, if it is possible. -/
def make (c : Collaborators H) (jobs : HostJobs J H) (move : Move J) (engine : Engine J H) :
    Option (Engine J H) :=
  match engine.dispatcher.make c jobs move with
  | some d => some (engine.withDispatcher d)
  | none => none

end Engine

end SchemaEngine
