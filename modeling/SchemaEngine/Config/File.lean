import SchemaEngine.Config.Load
import SchemaEngine.Disk.Tree

/-!
# Settings files

## Main definitions

* `Settings.ofFile`: the settings in a file.
-/

set_option autoImplicit false

namespace SchemaEngine

/-- The settings in a file. -/
def Settings.ofFile (disk : Disk) (path : Path) : Except EngineError Settings :=
  match disk.read path with
  | .error fault => .error (.io fault)
  | .ok bytes => ofBytes bytes

end SchemaEngine
