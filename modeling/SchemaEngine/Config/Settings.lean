import SchemaEngine.Json.Writer
import SchemaEngine.Scope.Algebra

/-!
# Settings of a workspace

The tunable parts of a workspace with their defaults, the JSON object that they are saved as, and
the scope and the file names that they stand for.

## Main definitions

* `Settings`: the settings.
* `Settings.toJson`: the object that they are saved as.
* `Settings.metaScope`: the scope that is visible from every file.
* `ConfigFileNames`: the names of project configuration files.
-/

set_option autoImplicit false

namespace SchemaEngine

/-- The names that project configuration files have unless the settings say otherwise. -/
def defaultConfigFileNames : List String :=
  ["graphql.config.json", "graphql.config.yaml", "graphql.config.yml", ".graphqlrc",
    ".graphqlrc.json", ".graphqlrc.yaml", ".graphqlrc.yml"]

/-- The file types that scopes admit unless the settings say otherwise. -/
def defaultFileTypes : List String :=
  ["graphql", "graphqls", "gql"]

/-- The settings of a workspace. -/
structure Settings where
  /-- The names of project configuration files. -/
  configFileNames : List String := defaultConfigFileNames
  /-- The file types that every scope admits. -/
  fileTypes : List String := defaultFileTypes
  /-- How long an edited configuration file waits to be written back. -/
  flushDebounceMs : UInt64 := 3000
  /-- How many schemas are kept. -/
  schemaCacheCapacity : UInt64 := 256
  /-- How many scopes of single files are kept. -/
  scopeCacheCapacity : UInt64 := 10000
  /-- The least important messages that are logged. -/
  logLevel : String := "info"
  /-- The directories that are visible from every file. -/
  metaRoots : List String := []
  deriving Repr, DecidableEq

/-- The names of project configuration files, as a sorted set. -/
structure ConfigFileNames where
  names : List String
  deriving Repr, DecidableEq

namespace ConfigFileNames

/-- The set of the given names. -/
def ofList (names : List String) : ConfigFileNames :=
  ⟨Sorted.ofList compare names⟩

/-- The names that are known by default. -/
def standard : ConfigFileNames :=
  ofList defaultConfigFileNames

/-- Whether a name is in the set. -/
def contains (set : ConfigFileNames) (name : String) : Bool :=
  set.names.contains name

/-- Whether the name of a file is in the set. -/
def recognizes (set : ConfigFileNames) (file : FileRef) : Bool :=
  match file.name with
  | some name => set.contains name
  | none => false

/-- The set in words. -/
def describe (set : ConfigFileNames) : String :=
  Shown.record "ConfigFileNames" [("names", Shown.set (set.names.map Quoted.text))]

end ConfigFileNames

namespace Settings

/-- The object that the settings are saved as. -/
def toJson (s : Settings) : Json :=
  let texts := fun (ts : List String) => Json.array (ts.map .string)
  let count := fun (n : UInt64) => Json.ofNat n.toNat
  .object [
    ("configFileNames", texts s.configFileNames),
    ("fileTypes", texts s.fileTypes),
    ("flushDebounceMs", count s.flushDebounceMs),
    ("logLevel", .string s.logLevel),
    ("metaRoots", texts s.metaRoots),
    ("schemaCacheCapacity", count s.schemaCacheCapacity),
    ("scopeCacheCapacity", count s.scopeCacheCapacity)]

/-- The scope that is visible from every file: everything below the meta roots, read from the
project root. -/
def metaScope (s : Settings) (root : Path) : Scope :=
  .ofRoots (s.metaRoots.map fun text => root.join (Path.ofString text))

/-- The names of project configuration files. -/
def names (s : Settings) : ConfigFileNames :=
  .ofList s.configFileNames

/-- The settings in words. -/
def describe (s : Settings) : String :=
  let texts := fun (ts : List String) => Shown.sequence (ts.map Quoted.text)
  Shown.record "EngineConfig" [
    ("config_file_names", texts s.configFileNames),
    ("file_types", texts s.fileTypes),
    ("flush_debounce_ms", toString s.flushDebounceMs),
    ("schema_cache_capacity", toString s.schemaCacheCapacity),
    ("scope_cache_capacity", toString s.scopeCacheCapacity),
    ("log_level", Quoted.text s.logLevel),
    ("meta_roots", Shown.sequence (s.metaRoots.map fun text => (Path.ofString text).quoted))]

end Settings

end SchemaEngine
