import SchemaEngine.Change.Event
import SchemaEngine.Change.FlushQueue
import SchemaEngine.Config.Settings
import SchemaEngine.Document.Fault
import SchemaEngine.Schema.Info
import SchemaEngine.Scope.Project

/-!
# The journal

Everything that the engine reports about its work, in the order in which it happens. How long things
take is not reported.

## Main definitions

* `Level`: how important an entry is.
* `Entry`: an entry of the journal.
* `Entry.level`, `Entry.text`: its importance and its words.
-/

set_option autoImplicit false

namespace SchemaEngine

/-- How important an entry is. -/
inductive Level where
  | trace
  | debug
  | info
  | warn
  | error
  deriving Repr, DecidableEq

namespace Level

/-- All levels, the most important one first. -/
def all : List Level :=
  [error, warn, info, debug, trace]

/-- The place of a level, the least important one first. -/
def rank : Level → Nat
  | trace => 0
  | debug => 1
  | info => 2
  | warn => 3
  | error => 4

/-- The name of a level in lower case. -/
def name : Level → String
  | trace => "trace"
  | debug => "debug"
  | info => "info"
  | warn => "warn"
  | error => "error"

/-- The name of a level in upper case. -/
def label : Level → String
  | trace => "TRACE"
  | debug => "DEBUG"
  | info => "INFO"
  | warn => "WARN"
  | error => "ERROR"

/-- The level of a name in lower case. -/
def ofName? (name : String) : Option Level :=
  all.find? fun level => level.name == name

end Level

/-- An entry of the journal. -/
inductive Entry where
  /-- A memo cell was recomputed; the stamps are those recorded before. -/
  | recomputed (cell : String) (stamps : List UInt64)
  /-- The scope of a file is the one of its project configuration. -/
  | configuredScope (file : FileRef) (flavor : Flavor)
  /-- The scope of a file is the file alone. -/
  | loneFileScope (file : FileRef) (flavor : Flavor)
  /-- Schemas are collected anew. -/
  | schemaMapStarted
  /-- A step of a schema build failed. -/
  | buildFailed (error : BuildError)
  /-- A schema build ended; it was for a file, or for nobody in the given scope. -/
  | buildCompleted (requester : Option FileRef) (scope : Scope)
  /-- An event bears on the project configuration. -/
  | relevantChange (change : FileChange) (file : FileRef)
  /-- A change of files moved the file structure to a generation. -/
  | structureChanged (generation : UInt64)
  /-- The configuration is reloaded because a configuration file changed. -/
  | configurationChanged
  /-- The configuration is reloaded because the project roots changed. -/
  | rootsChanged
  /-- The project roots changed, but nothing is run any more. -/
  | rootsChangeIgnored
  /-- A configuration document was edited. -/
  | documentEdited (file : FileRef)
  /-- A flush was called off. -/
  | flushCancelled
  /-- An edit could not be written back. -/
  | saveFailed (file : FileRef) (error : StorageError)
  /-- A flush ended. -/
  | flushed (summary : FlushSummary)
  /-- A flush timer was called off. -/
  | timerCancelled
  /-- A flush was due, but nothing is run any more. -/
  | flushNotRun
  /-- A document was opened. -/
  | documentOpened (file : FileRef) (document : DocumentId)
  /-- A version of a document was written. -/
  | documentSaved (file : FileRef) (version : Nat)
  | executorStarted
  | executorStopped
  /-- A job broke down. -/
  | jobFailed
  /-- A workspace was set up. -/
  | workspaceReady (root : Path)
  /-- The settings that a workspace was set up with. -/
  | workspaceSettings (settings : Settings)
  /-- A workspace was torn down. -/
  | workspaceDisposed (root : Path)
  deriving Repr

namespace Entry

/-- How important an entry is. -/
def level : Entry → Level
  | recomputed .. => .trace
  | buildFailed .. | jobFailed => .error
  | saveFailed .. => .warn
  | configurationChanged | rootsChanged | flushed .. | workspaceReady .. | workspaceDisposed .. =>
    .info
  | _ => .debug

/-- A field of an entry. -/
def field (name value : String) : String :=
  " " ++ name ++ "=" ++ value

/-- The words of an entry. -/
def text : Entry → String
  | recomputed cell stamps =>
    "Recomputed memoized value" ++ field "cell" cell ++
      field "stamps" (Shown.sequence (stamps.map toString))
  | configuredScope file flavor =>
    "Using project configuration scope" ++ field "file" file.display ++
      field "flavor" flavor.describe
  | loneFileScope file flavor =>
    "File has no owning configuration, using file scope" ++ field "file" file.display ++
      field "flavor" flavor.describe
  | schemaMapStarted => "Schema dependencies changed, starting a new schema map"
  | buildFailed error => "Schema build error: " ++ error.message
  | buildCompleted (some file) _ => "Schema build completed in _ ms, requester: " ++ file.display
  | buildCompleted none scope => "Schema build completed in _ ms, requester: " ++ scope.describe
  | relevantChange change file =>
    "Configuration-relevant change: " ++ change.describe ++ " on " ++ file.display
  | structureChanged generation => "File structure changed, generation " ++ toString generation
  | configurationChanged => "Configuration file changed, reloading..."
  | rootsChanged => "Project roots changed, reloading configuration..."
  | rootsChangeIgnored => "Main executor stopped, ignoring roots change"
  | documentEdited file => "Configuration document edited: " ++ file.display
  | flushCancelled => "Flush cancelled, discarding remaining edits"
  | saveFailed file error => "Failed to save " ++ file.display ++ ": " ++ error.message
  | flushed summary => "Flushed watched configuration files: " ++ summary.describe
  | timerCancelled => "Flush timer cancelled"
  | flushNotRun => "Main executor stopped, flush not run"
  | documentOpened file document =>
    "Document opened: " ++ file.display ++ " as " ++ document.display
  | documentSaved file version =>
    "Document saved: " ++ file.display ++ " (version " ++ toString version ++ ")"
  | executorStarted => "Main executor started"
  | executorStopped => "Main executor stopped"
  | jobFailed => "Main executor job panicked"
  | workspaceReady root => "Workspace initialized at " ++ root.display
  | workspaceSettings settings => "Workspace configuration: " ++ settings.describe
  | workspaceDisposed root => "Workspace at " ++ root.display ++ " disposed"

/-- An entry as a line. -/
def line (entry : Entry) : String :=
  entry.level.label ++ " " ++ entry.text

/-- Whether an entry is at least as important as a level. -/
def reaches (entry : Entry) (level : Level) : Bool :=
  level.rank ≤ entry.level.rank

end Entry

end SchemaEngine
