import SchemaEngine.Host.Collaborators
import SchemaEngine.Memo.Cell

/-!
# The scopes of files

The scope of a file is the one that its project configuration gives, or, where it gives none, the
file alone; in a workspace without any configuration file it is the whole project. To each of them
come the directories of the libraries and the meta scope, and the file types are restricted last.

Scopes are kept in memo cells, one for each file and flavor, and one for the whole project that all
files share. The cells of files are bounded in number; a cell that is dropped, or that there is no
room for, costs a computation.

## Main definitions

* `ScopeCache`: the cells, with `ScopeCache.forget` and `ScopeCache.trim`.
* `ScopeCache.complete`: the scope made of a base, libraries and the meta scope.
* `ScopeState.scopeFor`: the scope of a file.
* `ScopeState.globalScope`: the scope of the whole project.
-/

set_option autoImplicit false

namespace SchemaEngine

/-- What every scope has in common. -/
structure ScopeOptions where
  /-- The file types that are admitted, sorted. -/
  fileTypes : List String := Sorted.ofList compare defaultFileTypes
  /-- The scope that is visible from every file. -/
  metaScope : Scope := .empty
  /-- How many cells of files are kept. -/
  capacity : UInt64 := 10000
  deriving Repr

/-- The options in words. -/
def ScopeOptions.describe (options : ScopeOptions) : String :=
  Shown.record "ScopeOptions" [
    ("file_types", Shown.set (options.fileTypes.map Quoted.text)),
    ("meta_scope", options.metaScope.describe),
    ("capacity", toString options.capacity)]

/-- The cell of a file and a flavor. -/
structure FileScope where
  file : FileRef
  flavor : Flavor
  cell : Cell Dependency Scope

/-- Whether this is the cell of a file and a flavor. -/
def FileScope.isFor (entry : FileScope) (file : FileRef) (flavor : Flavor) : Bool :=
  entry.file.same file && entry.flavor == flavor

/-- The cells of scopes. -/
structure ScopeCache where
  /-- The root of the project. -/
  root : Path
  options : ScopeOptions := {}
  /-- The scope of the whole project. -/
  global : Cell Dependency Scope :=
    ⟨"global scope", [.single .configuration, .single .fileStructure], none⟩
  /-- The scopes of files, the oldest cell first. -/
  perFile : List FileScope := []

namespace ScopeCache

/-- A new cell for the scope of a file. -/
def newCell (file : FileRef) : Cell Dependency Scope :=
  ⟨"file scope", [.single (.file file), .single .configuration, .single .fileStructure], none⟩

/-- The cell of a file and a flavor, if there is one. -/
def cell? (cache : ScopeCache) (file : FileRef) (flavor : Flavor) :
    Option (Cell Dependency Scope) :=
  (cache.perFile.find? fun entry => entry.isFor file flavor).map (·.cell)

/-- Makes sure that a file has a cell for a flavor, unless there is no room for any cell. -/
def ensure (file : FileRef) (flavor : Flavor) (cache : ScopeCache) : ScopeCache :=
  match cache.cell? file flavor with
  | some _ => cache
  | none =>
    if cache.options.capacity = 0 then cache
    else { cache with perFile := cache.perFile ++ [⟨file, flavor, newCell file⟩] }

/-- Replaces the cell of a file and a flavor. -/
def setCell (file : FileRef) (flavor : Flavor) (cell : Cell Dependency Scope)
    (cache : ScopeCache) : ScopeCache :=
  { cache with
    perFile := cache.perFile.map fun entry =>
      if entry.isFor file flavor then { entry with cell := cell } else entry }

/-- Drops the cells of a file. -/
def forget (file : FileRef) (cache : ScopeCache) : ScopeCache :=
  { cache with perFile := cache.perFile.filter fun entry => !entry.file.same file }

/-- Drops the cells that go beyond the capacity. -/
def trim (cache : ScopeCache) : ScopeCache :=
  { cache with perFile := cache.perFile.take cache.options.capacity.toNat }

/-- The scope of a base: with it come libraries and the meta scope, and then only the admitted file
types stay. -/
def complete (cache : ScopeCache) (base : Scope) (libraries : List (List Path)) : Scope :=
  ((base.merge (.ofRoots libraries.flatten)).merge cache.options.metaScope).restrict
    cache.options.fileTypes

/-- The cache in words; the cells of files are not told. -/
def describe (cache : ScopeCache) : String :=
  Shown.record "ScopeCache" [
    ("project_root", cache.root.quoted),
    ("options", cache.options.describe),
    ("global", cache.global.describe)]

end ScopeCache

/-- The scopes and the site that they are computed from. -/
structure ScopeState (H : Type) where
  cache : ScopeCache
  site : Site H

namespace ScopeState

variable {H : Type}

/-- Notes that a cell was recomputed. -/
def noteRecomputed (label : String) (stamps : Snapshot Dependency) (s : ScopeState H) :
    ScopeState H :=
  { s with site := s.site.note (.recomputed label stamps.stamps) }

/-- The place of the scope of the whole project. -/
def globalPlace (c : Collaborators H) : Place (ScopeState H) Dependency Scope where
  cell s := s.cache.global
  put cell s := { s with cache := { s.cache with global := cell } }
  read s := c.stamp s.site
  note := noteRecomputed

/-- The place of the scope of a file. -/
def filePlace (c : Collaborators H) (file : FileRef) (flavor : Flavor) :
    Place (ScopeState H) Dependency Scope where
  cell s := (s.cache.cell? file flavor).getD (ScopeCache.newCell file)
  put cell s := { s with cache := s.cache.setCell file flavor cell }
  read s := c.stamp s.site
  note := noteRecomputed

/-- Computes the scope of a base, or of the whole project. -/
def create (c : Collaborators H) (base : Option Scope) (s : ScopeState H) : Scope × ScopeState H :=
  let (libraries, site) := c.libraries s.site
  let base := base.getD (.ofRoots [s.cache.root])
  (s.cache.complete base libraries, { s with site := site })

/-- The scope of the whole project. -/
def globalScope (c : Collaborators H) (s : ScopeState H) : Scope × ScopeState H :=
  (globalPlace c).get (create c none) s

/-- Computes the scope of a file. -/
def compute (c : Collaborators H) (file : FileRef) (flavor : Flavor) (s : ScopeState H) :
    Scope × ScopeState H :=
  let (config, site) := c.resolver.projectConfig file s.site
  match config.bind fun config => config.scopeOf flavor with
  | some scope =>
    create c (some scope) { s with site := site.note (.configuredScope file flavor) }
  | none =>
    let (hasConfigFiles, site) := c.resolver.hasConfigFiles site
    if hasConfigFiles then
      create c (some (.ofFile file.path)) { s with site := site.note (.loneFileScope file flavor) }
    else globalScope c { s with site := site }

/-- The scope of a file. Where no file is given there is nothing to see. -/
def scopeFor (c : Collaborators H) (file : Option FileRef) (flavor : Flavor) (s : ScopeState H) :
    Scope × ScopeState H :=
  match file with
  | none => (.empty, s)
  | some file =>
    (filePlace c file flavor).get (compute c file flavor)
      { s with cache := s.cache.ensure file flavor }

end ScopeState

end SchemaEngine
