import SchemaEngine.Session.World
import SchemaEngine.Workspace.Basic

/-!
# Steps of a session

What a host does with a workspace, one step after another, and what it is answered.

## Main definitions

* `DiskStep`: a change of the disk.
* `Step`: a step of a session.
* `Reply`: the answer to a step.
* `Refusal`: why a step has no answer.
-/

set_option autoImplicit false

namespace SchemaEngine.Session

/-- A change of the disk, or a look at it. -/
inductive DiskStep where
  /-- Writes a file, and makes the directories that it is in. -/
  | write (path : Path) (content : List UInt8) (modified : Int)
  | makeDirectory (path : Path)
  | touch (path : Path) (modified : Int)
  | remove (path : Path)
  | read (path : Path)
  deriving Repr

/-- What can be described. -/
inductive Described where
  | workspace
  | watcher
  | documents
  | executor
  | scopes
  | schemas
  deriving Repr, DecidableEq

/-- A step of a session. -/
inductive Step where
  | scope (file : Option FileRef) (flavor : Flavor)
  /-- Which paths the scope of a file contains. -/
  | scopeContains (file : Option FileRef) (flavor : Flavor) (paths : List Path)
  | globalScope
  | forget (file : FileRef)
  | scopeCount
  | schema (file : Option FileRef)
  | isCached (scope : Scope)
  | cachedEntries
  | dependencyStamp
  /-- Changes the scripts of the collaborators. -/
  | script (change : World → World)
  | advanceStructure
  | filesChanged (events : List FileEvent)
  | rootsChanged
  | documentChanged (document : DocumentId)
  | flush
  | sleep (milliseconds : Nat)
  | openFile (file : FileRef)
  | edit (document : DocumentId) (text : String)
  | save (document : DocumentId)
  | text (document : DocumentId)
  | isDirty (document : DocumentId)
  | close (document : DocumentId)
  | fileOf (document : DocumentId)
  | disk (step : DiskStep)
  /-- Asks the disk about a file. -/
  | look (file : FileRef)
  | submit (task : Task)
  | barrier
  | shutdown
  /-- Calls timers and flushes off. -/
  | cancel
  | dispose
  /-- Lets the workspace go without tearing it down. -/
  | drop
  | about
  | describe (what : Described)

/-- Why a step has no answer. -/
inductive Refusal where
  /-- The workspace is gone. -/
  | gone
  /-- A schema build was cancelled. -/
  | cancelled
  /-- A document cannot be opened, edited or saved. -/
  | storage (error : StorageError)
  /-- The schemas that builds ask for nest too deeply. -/
  | tooDeep
  deriving Repr

/-- The refusal in words. -/
def Refusal.message : Refusal → String
  | gone => "workspace is gone"
  | cancelled => Cancelled.mk.message
  | storage error => error.message
  | tooDeep => "schema builds nest too deeply"

/-- What the disk says about a file. -/
structure FileStatus where
  valid : Bool
  directory : Bool
  inProject : Bool
  stamp : Stamp
  deriving Repr

/-- The answer to a step. -/
inductive Reply where
  | nothing
  | truth (value : Bool)
  | truths (values : List Bool)
  | number (value : Nat)
  | scope (value : Scope)
  /-- A number of entries, and whether there is none. -/
  | size (value : Nat)
  | info (value : SchemaInfo)
  | summary (value : FlushSummary)
  | text (value : Option String)
  | file (value : Option FileRef)
  | status (value : FileStatus)
  /-- The text of a file, if it is text, if there is such a file. -/
  | content (value : Option (Option String))
  /-- The workspace: its root, whether it is disposed, its settings. -/
  | about (root : Path) (disposed : Bool) (settings : Settings)
  | refused (why : Refusal)
  deriving Repr

end SchemaEngine.Session
