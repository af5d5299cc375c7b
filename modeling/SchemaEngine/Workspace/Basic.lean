import SchemaEngine.Config.Load
import SchemaEngine.Workspace.Engine

/-!
# Workspaces

A workspace is the engine of one project, set up by its settings. It is torn down in phases: first
timers and flushes are called off, then the jobs that are queued are waited for, and at last the
executor stops. Edits that are not written by then are lost.

## Main definitions

* `Engine.assemble`: an engine with the given options.
* `Workspace.init`: sets a workspace up.
* `Teardown`: how far the tearing down has come, with `Teardown.begin` and `Teardown.advance`.
-/

set_option autoImplicit false

namespace SchemaEngine

/-- An engine for the project at a root. -/
def Engine.assemble {J H : Type} (root : Path) (scopes : ScopeOptions) (schemaCapacity : UInt64)
    (watcher : WatcherOptions) (site : Site H) : Engine J H where
  schemas := { capacity := schemaCapacity }
  scopes := { root := root, options := scopes }
  watcher := { options := watcher }
  site := site

/-- The engine of one project. -/
structure Workspace (J H : Type) where
  root : Path
  settings : Settings
  engine : Engine J H

namespace Settings

/-- The options of scopes under settings. -/
def scopeOptions (settings : Settings) (root : Path) : ScopeOptions where
  fileTypes := Sorted.ofList compare settings.fileTypes
  metaScope := settings.metaScope root
  capacity := settings.scopeCacheCapacity

/-- The options of the watcher under settings. -/
def watcherOptions (settings : Settings) : WatcherOptions where
  names := settings.names
  debounceMs := settings.flushDebounceMs

end Settings

namespace Workspace

variable {J H : Type}

/-- Sets a workspace up. It needs something that runs its tasks, and settings that leave it
something to do. -/
def init (hasRuntime : Bool) (root : Path) (settings : Settings) (site : Site H) :
    Except EngineError (Workspace J H) :=
  if hasRuntime then
    match settings.problem with
    | some problem => .error (.config problem)
    | none =>
      let site := (site.note (.workspaceReady root)).note (.workspaceSettings settings)
      .ok ⟨root, settings,
        .assemble root (settings.scopeOptions root) settings.schemaCacheCapacity
          settings.watcherOptions site⟩
  else .error .noRuntime

/-- Whether timers and flushes were called off. -/
def isDisposed (workspace : Workspace J H) : Bool :=
  workspace.engine.watcher.cancelled

/-- The workspace in words. -/
def describe (workspace : Workspace J H) : String :=
  Shown.record "Workspace" [
    ("root", workspace.root.quoted),
    ("structure_generation", toString workspace.engine.site.generation),
    ("disposed", Shown.truth workspace.isDisposed)]

end Workspace

/-- How far the tearing down of a workspace has come. -/
inductive Teardown where
  /-- Timers and flushes are called off. -/
  | quieted
  /-- The queued jobs are waited for. -/
  | draining (ticket : Nat)
  /-- The executor is asked to stop. -/
  | stopping
  /-- Everything is over. -/
  | complete
  deriving Repr, DecidableEq

namespace Teardown

variable {J H : Type}

/-- Begins to tear a workspace down. -/
def begin (d : Dispatcher J H) : Teardown × Dispatcher J H :=
  (.quieted, d.cancel)

/-- Goes on to the next phase, if the present one is over. -/
def advance (root : Path) : Teardown → Dispatcher J H → Option (Teardown × Dispatcher J H)
  | .quieted, d =>
    let (ticket, d) := d.barrier
    some (.draining ticket, d)
  | .draining ticket, d =>
    if d.executor.released.contains ticket then some (.stopping, d.requestStop) else none
  | .stopping, d =>
    if d.executor.exited then some (.complete, d.note (.workspaceDisposed root)) else none
  | .complete, _ => none

end Teardown

end SchemaEngine
