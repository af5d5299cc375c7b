import SchemaEngine.Session.Step

/-!
# Running sessions

A session runs a workspace, or the engine of one, with scripted collaborators. Time stands still but
for sleeping. The tasks beside the host are the flush timers and the executor. A task that has
something to do is put in line, and after a step of the host the tasks run in this order until none
is left, unless the host does not wait for them.

## Main definitions

* `Setup`, `Session.start`: how a session begins.
* `Session.settle`: runs the tasks until none has anything to do.
* `Session.perform`: a step of the host.
* `Session.observe`: what can be seen of a session.
-/

set_option autoImplicit false

namespace SchemaEngine.Session

/-- A task beside the host. -/
inductive Side where
  | timers
  | executor
  deriving Repr, DecidableEq

/-- Where the settings of a workspace come from. -/
inductive SettingsSource where
  | standard
  | text (text : String)
  | value (value : Json)

/-- Why a session does not begin. -/
inductive StartError where
  | engine (error : EngineError)
  /-- The settings do not fit their fields. -/
  | mismatch (mismatch : Mismatch)
  deriving Repr

/-- The settings of a source. -/
def SettingsSource.load : SettingsSource → Except StartError Settings
  | .standard => .ok {}
  | .text source => (Settings.ofText source).mapError .engine
  | .value document => (Settings.decode document).mapError .mismatch

/-- What a session runs. -/
inductive Subject where
  /-- A workspace. -/
  | workspace (settings : SettingsSource) (hasRuntime : Bool)
  /-- The engine of a workspace alone. -/
  | parts (scopes : ScopeOptions) (schemaCapacity : UInt64) (watcher : WatcherOptions)

/-- How a session begins. -/
structure Setup where
  subject : Subject
  root : Path
  /-- Whether files are looked up on the disk. -/
  filesOnDisk : Bool
  disk : List DiskStep
  world : World

namespace DiskStep

/-- Makes the directories that a path is in. -/
def makeParents (path : Path) (disk : Disk) : Except IoFault Unit × Disk :=
  match path.parent with
  | some parent => disk.makeDirectories parent
  | none => (.ok (), disk)

/-- The answer to a step on the disk, and the disk after it. -/
def perform (step : DiskStep) (disk : Disk) : Reply × Disk :=
  match step with
  | write path content modified =>
    match makeParents path disk with
    | (.error _, disk) => (.truth false, disk)
    | (.ok (), disk) =>
      match disk.write path content with
      | (.error _, disk) => (.truth false, disk)
      | (.ok (), disk) => (.truth true, (disk.touch path modified).2)
  | makeDirectory path =>
    let (made, disk) := disk.makeDirectories path
    (.truth made.isOk, disk)
  | touch path modified =>
    let (found, disk) := disk.touch path modified
    (.truth found, disk)
  | remove path =>
    let (found, disk) := disk.remove path
    (.truth found, disk)
  | read path =>
    match disk.read path with
    | .error _ => (.content none, disk)
    | .ok content => (.content (some (Utf8.decode content)), disk)

end DiskStep

end SchemaEngine.Session

namespace SchemaEngine

/-- A session. -/
structure Session where
  root : Path
  filesOnDisk : Bool
  engine : Engine Session.Task Session.World
  /-- The settings of the workspace, if a workspace is run. -/
  settings : Option Settings
  /-- Whether the workspace is gone. -/
  gone : Bool := false
  /-- The tasks in line. -/
  line : List Session.Side := []

namespace Session

/-- The collaborators of a session. -/
def collaborators (session : Session) : Collaborators World :=
  World.collaborators (if session.filesOnDisk then some session.root else none)

/-- The watcher and the executor. -/
def dispatcher (session : Session) : Dispatcher Task World :=
  session.engine.dispatcher

/-- Changes the world of the collaborators. -/
def updateWorld (f : World → World) (session : Session) : Session :=
  { session with
    engine := { session.engine with site := World.update f session.engine.site } }

/-- Puts a task in line. -/
def enqueue (side : Side) (session : Session) : Session :=
  if session.line.contains side then session
  else { session with line := session.line ++ [side] }

/-- Whether a timer has something to do. -/
def timerIsDue (watcher : Watcher) (timer : Timer) : Bool :=
  watcher.cancelled || timer.expired || timer.deadline ≤ watcher.clock

/-- Goes on with another watcher and executor. A new timer, timers that have something to do and an
executor that has are put in line. -/
def goOn (d : Dispatcher Task World) (session : Session) : Session :=
  let before := session.engine.watcher.timers
  let watcher := d.watch.watcher
  let session := { session with engine := session.engine.withDispatcher d }
  let session :=
    if before != watcher.timers || watcher.timers.any (timerIsDue watcher) then
      if watcher.timers.isEmpty then session else session.enqueue .timers
    else session
  if d.executor.isReady then session.enqueue .executor else session

/-- What the first timer does, if it has something to do. -/
def fireTimer (d : Dispatcher Task World) : Option (Dispatcher Task World) :=
  match d.abandon 0 with
  | some d => some d
  | none => (d.expire 0).bind fun d => d.deliver 0

/-- Repeats a step as long as it does something, at most so many times. -/
def repeatStep {α : Type} (step : α → Option α) : Nat → α → α
  | 0, a => a
  | n + 1, a =>
    match step a with
    | some a => repeatStep step n a
    | none => a

/-- Runs a task until it has nothing to do. -/
def runSide (side : Side) (session : Session) : Session :=
  let d := session.dispatcher
  match side with
  | .timers => session.goOn (repeatStep fireTimer d.watch.watcher.timers.length d)
  | .executor =>
    session.goOn
      (repeatStep (fun d => d.poll session.collaborators World.runTask)
        (d.executor.queue.length + 2) d)

/-- How many tasks are run at most until none is left. -/
def patience (session : Session) : Nat :=
  8 * (session.engine.executor.queue.length + session.engine.watcher.timers.length +
    session.line.length + 2)

/-- Runs the tasks in line, at most so many. -/
def runLine : Nat → Session → Session
  | 0, session => session
  | n + 1, session =>
    match session.line with
    | [] => session
    | side :: line => runLine n (runSide side { session with line := line })

/-- Runs the tasks until none has anything to do. -/
def settle (session : Session) : Session :=
  runLine session.patience session

/-- Lets time pass, in one jump of the clock: timers that run out on the way are noticed after it,
and timers that are set then count from its end. -/
def sleep (milliseconds : Nat) (session : Session) : Session :=
  session.goOn (session.dispatcher.wait milliseconds)

/-- Begins a session. -/
def start (setup : Setup) : Except StartError Session :=
  let disk := setup.disk.foldl (fun disk step => (step.perform disk).2) setup.world.disk
  let site : Site World := { host := { setup.world with disk := disk } }
  match setup.subject with
  | .parts scopes capacity watcher =>
    .ok (settle
      { root := setup.root
        filesOnDisk := setup.filesOnDisk
        engine := .assemble setup.root scopes capacity watcher site
        settings := none
        line := [.executor] })
  | .workspace source hasRuntime =>
    match source.load with
    | .error e => .error e
    | .ok settings =>
      match Workspace.init hasRuntime setup.root settings site with
      | .error e => .error (.engine e)
      | .ok workspace =>
        .ok (settle
          { root := setup.root
            filesOnDisk := setup.filesOnDisk
            engine := workspace.engine
            settings := some settings
            line := [.executor] })

/-- Whether the engine of a workspace is run alone. -/
def isParts (session : Session) : Bool :=
  session.settings.isNone

/-- Makes a call of the watcher or the executor. -/
def call {α : Type} (f : Dispatcher Task World → α × Dispatcher Task World) (session : Session) :
    α × Session :=
  let (a, d) := f session.dispatcher
  (a, session.goOn d)

/-- Makes a call of the watcher. -/
def callWatcher {α : Type} (f : WatcherState World → α × WatcherState World)
    (session : Session) : α × Session :=
  session.call fun d =>
    let (a, watch) := f d.watch
    (a, { d with watch := watch })

/-- Makes a call of the caches, which have nothing to do with the tasks. -/
def callEngine {α : Type} (f : Engine Task World → α × Engine Task World) (session : Session) :
    α × Session :=
  let (a, engine) := f session.engine
  (a, { session with engine := engine })

/-- The workspace that is run. -/
def workspace? (session : Session) : Option (Workspace Task World) :=
  if session.gone then none
  else session.settings.map fun settings => ⟨session.root, settings, session.engine⟩

/-- Tears the workspace down, running the tasks between the phases. -/
def tearDown : Nat → Teardown → Session → Session
  | 0, _, session => session
  | n + 1, phase, session =>
    match phase.advance session.root session.dispatcher with
    | some (phase, d) => tearDown n phase (session.goOn d)
    | none => tearDown n phase session.settle

/-- Disposes of the workspace. -/
def dispose (session : Session) : Session :=
  let (phase, d) := Teardown.begin session.dispatcher
  { tearDown 6 phase (session.goOn d) with gone := true }

/-- The answer that a document call gives. -/
def replyOf {α : Type} (reply : α → Reply) : Except StorageError α → Reply
  | .ok a => reply a
  | .error e => .refused (.storage e)

/-- Changes the open documents. -/
def withDocuments (store : DocumentStore) (session : Session) : Session :=
  session.updateWorld fun w => { w with documents := store }

/-- The open documents. -/
def documents (session : Session) : DocumentStore :=
  session.engine.site.host.documents

/-- A part in words, if it is there. -/
def describe (session : Session) : Described → Option String
  | .workspace => session.workspace?.map (·.describe)
  | .watcher => some session.engine.watcher.describe
  | .documents => some session.documents.describe
  | .executor => if session.gone then none else some session.engine.executor.describe
  | .scopes => if session.gone then none else some session.engine.scopes.describe
  | .schemas => if session.gone then none else some session.engine.schemas.describe

/-- What the disk says about a file. -/
def statusOf (session : Session) (file : FileRef) : FileStatus :=
  let world := session.engine.site.host
  let index := FileIndex.ofDisk session.root World.disk
  ⟨index.isValid world file, index.isDirectory world file, index.isInProject world file,
    index.stamp world file⟩

/-- A step that needs no workspace. -/
def performAnyway (step : Step) (session : Session) : Reply × Session :=
  let c := session.collaborators
  match step with
  | .script change => (.nothing, session.updateWorld change)
  | .filesChanged events =>
    let (changed, session) := session.callWatcher fun s => s.filesChanged c events
    (.truth changed, session)
  | .rootsChanged =>
    let (_, session) := session.call fun d => ((), d.rootsChanged)
    (.nothing, session)
  | .documentChanged document =>
    let (taken, session) := session.callWatcher fun s => s.documentChanged c document
    (.truth taken, session)
  | .flush =>
    let (summary, session) := session.callWatcher fun s => s.flush c
    (.summary summary, session)
  | .sleep milliseconds => (.nothing, session.sleep milliseconds)
  | .openFile file =>
    let (opened, site) := World.shelf.openFile file session.engine.site
    (replyOf (fun document => .number document.number) opened,
      { session with engine := { session.engine with site := site } })
  | .edit document text =>
    let (version, store) := session.documents.edit document text
    (replyOf .number version, session.withDocuments store)
  | .save document =>
    let (saved, session) := session.callWatcher fun s => s.save c document
    (replyOf .truth saved, session)
  | .text document => (.text (session.documents.text? document), session)
  | .isDirty document => (.truth (session.documents.isDirty document), session)
  | .close document =>
    let (closed, store) := session.documents.close document
    (.truth closed, session.withDocuments store)
  | .fileOf document => (.file (session.documents.fileOf document), session)
  | .disk step =>
    let (reply, disk) := step.perform session.engine.site.host.disk
    (reply, session.updateWorld fun w => { w with disk := disk })
  | .look file => (.status (session.statusOf file), session)
  | .cancel =>
    if session.isParts then
      let (_, session) := session.call fun d => ((), d.cancel)
      (.nothing, session)
    else (.nothing, session)
  | .about =>
    match session.workspace? with
    | some workspace => (.about workspace.root workspace.isDisposed workspace.settings, session)
    | none => (.refused .gone, session)
  | .describe what =>
    match session.describe what with
    | some text => (.text (some text), session)
    | none => (.refused .gone, session)
  | .forget file =>
    if session.gone then (.nothing, session)
    else
      let (_, session) := session.callEngine fun e =>
        ((), { e with scopes := e.scopes.forget file })
      (.nothing, session)
  | .barrier =>
    if session.gone then (.nothing, session)
    else
      let (_, session) := session.call fun d => d.barrier
      (.nothing, session.settle)
  | .shutdown =>
    if session.gone then (.nothing, session)
    else
      let (_, session) := session.call fun d => ((), d.requestStop)
      (.nothing, session.settle)
  | .advanceStructure =>
    if session.isParts then
      let (generation, session) := session.callEngine fun e =>
        let site := e.site.advance
        (site.generation, { e with site := site })
      (.number generation.toNat, session)
    else (.nothing, session)
  | _ => (.refused .gone, session)

/-- A step of the host. -/
def perform (step : Step) (session : Session) : Reply × Session :=
  let c := session.collaborators
  if session.gone then performAnyway step session
  else
    match step with
    | .scope file flavor =>
      let (scope, session) := session.callEngine fun e => e.scopeFor c file flavor
      (.scope scope, session)
    | .scopeContains file flavor paths =>
      let (scope, session) := session.callEngine fun e => e.scopeFor c file flavor
      (.truths (paths.map scope.contains), session)
    | .globalScope =>
      let (scope, session) := session.callEngine fun e => e.onScopes fun s => s.globalScope c
      (.scope scope, session)
    | .scopeCount =>
      let (count, session) := session.callEngine fun e =>
        let scopes := e.scopes.trim
        (scopes.perFile.length, { e with scopes := scopes })
      (.size count, session)
    | .schema file =>
      match session.engine.schemaFor c session.engine.site.host.nestingDepth file with
      | none => (.refused .tooDeep, session)
      | some (.ok info, engine) => (.info info, { session with engine := engine })
      | some (.error _, engine) => (.refused .cancelled, { session with engine := engine })
    | .isCached scope => (.truth (session.engine.schemaState.isCached c scope), session)
    | .cachedEntries =>
      let (count, session) := session.callEngine fun e => e.onSchemas fun s => s.cachedEntries c
      (.number count, session)
    | .dependencyStamp =>
      (.number (session.engine.schemaState.dependencyStamp c).toNat, session)
    | .submit task =>
      let (accepted, session) := session.call fun d => d.submit (.host task)
      (.truth accepted, session)
    | .dispose =>
      if session.isParts then (.nothing, session) else (.nothing, session.dispose)
    | .drop =>
      if session.isParts then (.nothing, session)
      else
        let (_, session) := session.call fun d => ((), d.cancel)
        (.nothing, { session with gone := true })
    | step => performAnyway step session

/-- A step of the host, after which the tasks run unless the host does not wait for them. -/
def advance (step : Step) (waits : Bool) (session : Session) : Reply × Session :=
  let (reply, session) := session.perform step
  (reply, if waits then session.settle else session)

/-- What can be seen of a session. -/
structure Observation where
  /-- The generation of the file structure, unless the workspace is gone. -/
  generation : Option Stamp
  /-- The stamp of the configuration. -/
  configuration : Stamp
  counts : Counts
  saves : List DocumentId
  /-- How many edits wait. -/
  pending : Nat
  armed : Bool
  /-- Whether the executor runs, unless the workspace is gone. -/
  running : Option Bool
  jobs : List Json

/-- What can be seen of a session. -/
def observe (session : Session) : Observation :=
  let engine := session.engine
  let world := engine.site.host
  { generation := if session.gone then none else some engine.site.generation
    configuration := world.resolver.stamp
    counts := world.counts
    saves := world.saves
    pending := engine.watcher.queue.pending.length
    armed := engine.watcher.queue.armed
    running := if session.gone then none else some engine.executor.isRunning
    jobs := world.jobs }

/-- Takes the entries of the journal, in order, and the schemas that the registry builder was given
since they were taken last. -/
def collect (session : Session) : List Entry × List (Except Cancelled SchemaInfo) × Session :=
  let site := session.engine.site
  (site.journal.reverse, site.host.nested,
    { session with
      engine := { session.engine with
        site := World.update (fun w => { w with nested := [] }) { site with journal := [] } } })

end Session

end SchemaEngine
