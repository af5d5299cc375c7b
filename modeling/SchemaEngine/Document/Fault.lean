import SchemaEngine.Disk.Fault
import SchemaEngine.Path.FileRef

/-!
# Faults of document storage

## Main definitions

* `StorageError`: why a document cannot be opened, edited or saved.
* `StorageError.message`: the error in words.
-/

set_option autoImplicit false

namespace SchemaEngine

/-- Why a document cannot be opened, edited or saved. -/
inductive StorageError where
  /-- The document is not open. -/
  | unknownDocument (document : DocumentId)
  /-- The file behind the document cannot be read or written. -/
  | io (path : Path) (fault : IoFault)
  deriving Repr, DecidableEq

/-- The error in words. -/
def StorageError.message : StorageError → String
  | unknownDocument document => "Unknown document: " ++ document.display
  | io path fault => "Failed to access " ++ path.display ++ ": " ++ fault.message

end SchemaEngine
