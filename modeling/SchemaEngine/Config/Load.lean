import SchemaEngine.Config.Rules
import SchemaEngine.Disk.Fault
import SchemaEngine.Json.Reader

/-!
# Loading settings

A settings text goes through three stages: it must be JSON, the value must keep the rules of the
document, and each entry must give the value of its field. The rules admit whole numbers in
floating-point form, which the last stage refuses. An entry that is absent has its default.

## Main definitions

* `Settings.decode`: the settings that an object or a sequence holds; unknown keys do not count.
* `Settings.ofText`: the settings that a text holds.
* `EngineError`: why a workspace cannot be set up.
* `Settings.problem`: what keeps settings from being used.
-/

set_option autoImplicit false

namespace SchemaEngine

/-- What keeps a value from giving settings. -/
inductive Mismatch where
  /-- A value is not of the kind that its place holds. -/
  | kind (value : Json) (expected : String)
  /-- A value is of the right kind and outside the range of its place. -/
  | range (value : Json) (expected : String)
  /-- A sequence of this length has more items than there are fields. -/
  | length (count : Nat)
  deriving Repr

/-- A value by its kind. -/
def Mismatch.found : Json → String
  | .null => "null"
  | .bool b => "boolean `" ++ Shown.truth b ++ "`"
  | .number (.integer n) => "integer `" ++ String.ofList (Json.writeInt n) ++ "`"
  | .number (.real x) => "floating point `" ++ Decimal.format x ++ "`"
  | .string s => "string " ++ Quoted.text s
  | .array _ => "sequence"
  | .object _ => "map"

/-- The mismatch in words. -/
def Mismatch.message : Mismatch → String
  | .kind value expected => "invalid type: " ++ found value ++ ", expected " ++ expected
  | .range value expected => "invalid value: " ++ found value ++ ", expected " ++ expected
  | .length count =>
    "invalid length " ++ toString count ++ ", expected fewer elements in array"

/-- Why a configuration is refused. -/
inductive ConfigProblem where
  /-- The text is not JSON. -/
  | notJson (fault : Json.Fault) (text : String)
  /-- The document breaks a rule. -/
  | violation (v : Rules.Violation)
  /-- A value does not fit its field. -/
  | mismatch (m : Mismatch)
  /-- The settings admit no file type. -/
  | noFileType
  /-- The settings leave a cache no room. -/
  | noCapacity
  /-- A problem in words. -/
  | stated (message : String)
  deriving Repr

/-- The problem in words. -/
def ConfigProblem.message : ConfigProblem → String
  | .notJson fault text => "Invalid JSON: " ++ fault.message text
  | .violation v => "Config validation failed: " ++ v.message
  | .mismatch m => "Invalid config: " ++ m.message
  | .noFileType => "fileTypes must not be empty"
  | .noCapacity => "Cache capacities must be positive"
  | .stated text => text

/-- Why a workspace cannot be set up or torn down. -/
inductive EngineError where
  | config (problem : ConfigProblem)
  | runtime (message : String)
  | io (fault : IoFault)
  | internal (message : String)
  deriving Repr

namespace EngineError

/-- The error in words. -/
def message : EngineError → String
  | .config problem => "Configuration error: " ++ problem.message
  | .runtime text => "Runtime error: " ++ text
  | .io fault => "I/O error: " ++ fault.message
  | .internal text => "Internal error: " ++ text

/-- A workspace is set up where nothing could run its tasks. -/
def noRuntime : EngineError :=
  .runtime ("Workspace must be created inside a tokio runtime: there is no reactor running, " ++
    "must be called from the context of a Tokio 1.x runtime")

end EngineError

namespace Settings

/-- A text field. -/
def decodeText (expected : String) : Json → Except Mismatch String
  | .string text => .ok text
  | value => .error (.kind value expected)

/-- The items of a list field. -/
def decodeItems (expected : String) : List Json → Except Mismatch (List String)
  | [] => .ok []
  | item :: items =>
    match decodeText expected item with
    | .error m => .error m
    | .ok text =>
      match decodeItems expected items with
      | .error m => .error m
      | .ok texts => .ok (text :: texts)

/-- A list field. -/
def decodeTexts (expected : String) : Json → Except Mismatch (List String)
  | .array items => decodeItems expected items
  | value => .error (.kind value "a sequence")

/-- A number field. -/
def decodeCount : Json → Except Mismatch UInt64
  | .number (.integer n) =>
    if n < 0 || Nat.pow 2 64 ≤ n then .error (.range (.number (.integer n)) "u64")
    else .ok (UInt64.ofNat n.toNat)
  | value => .error (.kind value "u64")

/-- The keys of the fields, in the order in which a sequence gives them. -/
def keys : List String :=
  ["configFileNames", "fileTypes", "flushDebounceMs", "schemaCacheCapacity", "scopeCacheCapacity",
    "logLevel", "metaRoots"]

/-- Sets the field of one entry; a key that is not known sets nothing. -/
def decodeEntry (s : Settings) (entry : String × Json) : Except Mismatch Settings :=
  match entry.1 with
  | "configFileNames" =>
    (decodeTexts "a string" entry.2).map fun v => { s with configFileNames := v }
  | "fileTypes" => (decodeTexts "a string" entry.2).map fun v => { s with fileTypes := v }
  | "flushDebounceMs" => (decodeCount entry.2).map fun v => { s with flushDebounceMs := v }
  | "schemaCacheCapacity" => (decodeCount entry.2).map fun v => { s with schemaCacheCapacity := v }
  | "scopeCacheCapacity" => (decodeCount entry.2).map fun v => { s with scopeCacheCapacity := v }
  | "logLevel" => (decodeText "a string" entry.2).map fun v => { s with logLevel := v }
  | "metaRoots" => (decodeTexts "path string" entry.2).map fun v => { s with metaRoots := v }
  | _ => .ok s

/-- The settings of entries, read in order. -/
def decodeEntries : Settings → List (String × Json) → Except Mismatch Settings
  | s, [] => .ok s
  | s, entry :: entries =>
    match decodeEntry s entry with
    | .error m => .error m
    | .ok s => decodeEntries s entries

/-- The settings that a sequence gives, field by field. A sequence that is too long is refused after
its items have been read. -/
def decodeSequence (items : List Json) : Except Mismatch Settings :=
  match decodeEntries {} (keys.zip items) with
  | .error m => .error m
  | .ok s => if keys.length < items.length then .error (.length items.length) else .ok s

/-- The settings that an object or a sequence holds. -/
def decode : Json → Except Mismatch Settings
  | .object entries => decodeEntries {} entries
  | .array items => decodeSequence items
  | value => .error (.kind value "struct EngineConfig")

/-- The settings that a value holds, by the rules of the document. -/
def ofJson (document : Json) : Except ConfigProblem Settings :=
  match Rules.check document with
  | some v => .error (.violation v)
  | none =>
    match decode document with
    | .error m => .error (.mismatch m)
    | .ok s => .ok s

/-- The settings that a text holds. -/
def ofText (text : String) : Except EngineError Settings :=
  match Json.read text with
  | .error fault => .error (.config (.notJson fault text))
  | .ok document => (ofJson document).mapError .config

/-- The settings in the bytes of a file. -/
def ofBytes (bytes : List UInt8) : Except EngineError Settings :=
  match Utf8.decode bytes with
  | none => .error (.io .notText)
  | some text => ofText text

/-- What keeps settings from being used, if anything does. -/
def problem (s : Settings) : Option ConfigProblem :=
  if s.fileTypes.isEmpty then some .noFileType
  else if s.schemaCacheCapacity = 0 || s.scopeCacheCapacity = 0 then some .noCapacity
  else none

end Settings

end SchemaEngine
