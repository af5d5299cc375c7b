import SchemaEngine.Change.Executor
import SchemaEngine.Disk.Index
import SchemaEngine.Json.Value

/-!
# Scripted collaborators

Collaborators whose answers are laid down beforehand. They count how often they are asked; some of
them move stamps or ask the engine back when they are called, as the script says.

## Main definitions

* `ResolverScript`, `FilesScript`, `RegistryScript`, `ValidatorScript`: what they answer.
* `World`: the answers, the counts, the documents and the disk.
* `World.collaborators`: the collaborators.
-/

set_option autoImplicit false

namespace SchemaEngine.Session

/-- A project configuration and the files that it owns. -/
structure OwnedFiles where
  path : Path
  /-- Whether it owns everything below the path, or the path alone. -/
  below : Bool
  config : ProjectConfig
  deriving Repr

/-- Whether a file is owned. -/
def OwnedFiles.owns (owned : OwnedFiles) (file : FileRef) : Bool :=
  if owned.below then file.path.startsWith owned.path else file.path.same owned.path

/-- What a reload does after it was counted. -/
inductive ReloadEffect where
  /-- The stamp of the configuration moves. -/
  | advance
  | nothing
  | crash
  deriving Repr, DecidableEq

/-- The answers of the resolver. -/
structure ResolverScript where
  hasConfigFiles : Bool := false
  stamp : Stamp := 0
  /-- The project configurations; the first one that owns a file counts. -/
  configs : List OwnedFiles := []
  /-- The directories that are known to hold configuration files. -/
  directories : List FileRef := []
  /-- The configuration files in directories. -/
  configFiles : List (FileRef × FileRef) := []
  onReload : ReloadEffect := .advance
  deriving Repr

/-- The answers about files, where they do not come from the disk. -/
structure FilesScript where
  /-- The files that do not exist. -/
  invalid : List Path := []
  directories : List Path := []
  /-- The directories whose files belong to the project. -/
  roots : List Path := [Path.ofString "/project"]
  stamps : List (Path × Stamp) := []
  deriving Repr

/-- A stamp that is moved. -/
inductive Movement where
  | configuration
  | fileStructure
  deriving Repr, DecidableEq

/-- A schema that the registry builder asks for. -/
structure Reentry where
  file : Option FileRef
  /-- The last call that asks for it. -/
  untilCall : Nat
  deriving Repr

/-- What one call of the registry builder does. -/
structure RegistryAnswer where
  result : Except BuildError RegistryInfo := .ok {}
  moves : Option Movement := none
  reentry : Option Reentry := none

/-- The answers of the registry builder. -/
structure RegistryScript where
  /-- The answers for single files; the first one counts. -/
  byFile : List (Option FileRef × RegistryAnswer) := []
  /-- The answer for all others. -/
  otherwise : RegistryAnswer := {}

/-- The answer for a file. -/
def RegistryScript.answerFor (script : RegistryScript) (context : Option FileRef) :
    RegistryAnswer :=
  match script.byFile.find? fun entry => FileRef.sameOption entry.1 context with
  | some entry => entry.2
  | none => script.otherwise

/-- The answers of the validator. -/
structure ValidatorScript where
  result : Except BuildError (List ValidationIssue) := .ok []
  /-- Whether types without fields are issues too. -/
  fieldless : Bool := false
  moves : Option Movement := none

/-- The issues of a schema. -/
def ValidatorScript.issuesOf (script : ValidatorScript) (schema : Schema) :
    Except BuildError (List ValidationIssue) :=
  match script.result with
  | .error e => .error e
  | .ok issues =>
    let fieldless := (schema.types.filter fun t => t.fields.isEmpty).map fun t =>
      (⟨"fieldless", t.name⟩ : ValidationIssue)
    .ok (if script.fieldless then issues ++ fieldless else issues)

/-- How often the collaborators were asked. -/
structure Counts where
  resolve : Nat := 0
  find : Nat := 0
  hasConfigFiles : Nat := 0
  reloads : Nat := 0
  libraries : Nat := 0
  registry : Nat := 0
  validator : Nat := 0
  deriving Repr, DecidableEq

/-- A job of the host. -/
inductive Task where
  /-- A job that leaves a value. -/
  | leave (value : Json)
  | crash
  deriving Repr

/-- The world of the scripted collaborators. -/
structure World where
  resolver : ResolverScript := {}
  files : FilesScript := {}
  libraries : List (List Path) := []
  registry : RegistryScript := {}
  validator : ValidatorScript := {}
  /-- Whether collaborators may move the file structure, ask back and call flushing off. -/
  isOpen : Bool := false
  counts : Counts := {}
  documents : DocumentStore := {}
  disk : Disk := {}
  /-- The documents that are saved, or were to be. -/
  saves : List DocumentId := []
  /-- A document that is edited while the next one is being saved. -/
  editDuringSave : Option DocumentId := none
  /-- After how many written documents flushing is called off. -/
  cancelAfter : Option Nat := none
  /-- How many documents were written. -/
  written : Nat := 0
  /-- The values that jobs left. -/
  jobs : List Json := []
  /-- The schemas that the registry builder was given. -/
  nested : List (Except Cancelled SchemaInfo) := []

namespace World

/-- Changes the world at a site. -/
def update (f : World → World) (site : Site World) : Site World :=
  { site with host := f site.host }

/-- Changes the counts at a site. -/
def count (f : Counts → Counts) (site : Site World) : Site World :=
  update (fun w => { w with counts := f w.counts }) site

/-- Moves a stamp. -/
def move (movement : Option Movement) (site : Site World) : Site World :=
  match movement with
  | none => site
  | some .configuration =>
    update (fun w => { w with resolver := { w.resolver with stamp := w.resolver.stamp + 1 } }) site
  | some .fileStructure => if site.host.isOpen then site.advance else site

/-- The scripted resolver. -/
def configResolver : Resolver World where
  stamp w := w.resolver.stamp
  projectConfig file site :=
    ((site.host.resolver.configs.find? fun owned => owned.owns file).map (·.config),
      count (fun n => { n with resolve := n.resolve + 1 }) site)
  hasConfigFiles site :=
    (site.host.resolver.hasConfigFiles,
      count (fun n => { n with hasConfigFiles := n.hasConfigFiles + 1 }) site)
  directories w := w.resolver.directories
  configFileIn directory site :=
    ((site.host.resolver.configFiles.find? fun entry => entry.1.same directory).map (·.2),
      count (fun n => { n with find := n.find + 1 }) site)
  reload site :=
    let site := count (fun n => { n with reloads := n.reloads + 1 }) site
    match site.host.resolver.onReload with
    | .advance => (.finished, move (some .configuration) site)
    | .nothing => (.finished, site)
    | .crash => (.crashed, site)

/-- The scripted answers about files. -/
def fileIndex : FileIndex World where
  isValid w file := !w.files.invalid.any fun p => p.same file.path
  isDirectory w file := w.files.directories.any fun p => p.same file.path
  isInProject w file := w.files.roots.any fun root => file.path.startsWith root
  stamp w file :=
    match w.files.stamps.find? fun entry => entry.1.same file.path with
    | some entry => entry.2
    | none => 0

/-- The documents and the disk. -/
def shelf : Shelf World Disk where
  store w := w.documents
  world w := w.disk
  put store disk w := { w with documents := store, disk := disk }
  fs := Disk.fileSystem

/-- Saves a document, and calls flushing off if it was the last one to be written. -/
def saveAndCancel (document : DocumentId) (site : Site World) :
    Turn (Site World) SaveEvent Bool (Except StorageError Bool) :=
  match shelf.save document site with
  | (.ok true, site) =>
    let site := update (fun w => { w with written := w.written + 1 }) site
    if site.host.isOpen && site.host.cancelAfter = some site.host.written then
      .ask site .cancelled fun site _ => .done site (.ok true)
    else .done site (.ok true)
  | (result, site) => .done site result

/-- The scripted documents. -/
def storage : DocumentStorage World where
  fileOf w document := w.documents.fileOf document
  save document site :=
    let edit := site.host.editDuringSave
    let site := update
      (fun w => { w with saves := w.saves ++ [document], editDuringSave := none }) site
    match edit with
    | some edited => .ask site (.edited edited) fun site _ => saveAndCancel document site
    | none => saveAndCancel document site

/-- The scripted registry builder. -/
def registryInfo (context : Option FileRef) (site : Site World) : BuildTurn World RegistryInfo :=
  let site := count (fun n => { n with registry := n.registry + 1 }) site
  let answer := site.host.registry.answerFor context
  let site := move answer.moves site
  match answer.reentry with
  | none => .done site answer.result
  | some reentry =>
    if site.host.isOpen && site.host.counts.registry ≤ reentry.untilCall then
      .ask site reentry.file fun site told =>
        .done (update (fun w => { w with nested := w.nested ++ [told] }) site) answer.result
    else .done site answer.result

/-- The scripted validator. -/
def validate (schema : Schema) (site : Site World) : BuildTurn World (List ValidationIssue) :=
  let site := count (fun n => { n with validator := n.validator + 1 }) site
  let script := site.host.validator
  .done (move script.moves site) (script.issuesOf schema)

/-- The scripted collaborators; files are looked up by script, or on the disk under a root. -/
def collaborators (diskRoot : Option Path) : Collaborators World where
  resolver := configResolver
  files :=
    match diskRoot with
    | some root => .ofDisk root World.disk
    | none => fileIndex
  documents := storage
  libraries site :=
    (site.host.libraries, count (fun n => { n with libraries := n.libraries + 1 }) site)
  registryInfo := registryInfo
  validate := validate

/-- How tasks are run. -/
def runTask (task : Task) (site : Site World) : JobRun Task × Site World :=
  match task with
  | .leave value => ({}, update (fun w => { w with jobs := w.jobs ++ [value] }) site)
  | .crash => ({ outcome := .crashed }, site)

/-- How deep builds may ask for other schemas: no call after the last one that asks back does. -/
def nestingDepth (w : World) : Nat :=
  let bound := fun (answer : RegistryAnswer) => (answer.reentry.map (·.untilCall)).getD 0
  2 + (w.registry.byFile.map fun entry => bound entry.2).foldl max (bound w.registry.otherwise)

end World

end SchemaEngine.Session
