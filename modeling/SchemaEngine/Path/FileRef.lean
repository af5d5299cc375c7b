import SchemaEngine.Path.Basic

/-!
# Files and documents

A file is named by its path; a scratch buffer has a path too but no file behind it. An open
document is named by a number.

## Main definitions

* `FileRef`: a file or a scratch buffer.
* `FileRef.same`, `FileRef.order`: equality and order, by path and then by kind.
* `FileRef.name`: the last component of the path, if it is text.
* `DocumentId`: an open document.
-/

set_option autoImplicit false

namespace SchemaEngine

/-- A source file, or a scratch buffer that is never written to storage. -/
structure FileRef where
  path : Path
  /-- Whether this is a scratch buffer. -/
  synthetic : Bool := false
  deriving Repr, DecidableEq

namespace FileRef

/-- Whether two references name the same file or the same buffer. -/
def same (f g : FileRef) : Bool :=
  f.path.same g.path && f.synthetic == g.synthetic

/-- Files by path; at one path the file comes before the buffer. -/
def order (f g : FileRef) : Ordering :=
  (f.path.order g.path).then (compare f.synthetic.toNat g.synthetic.toNat)

/-- The name of the file, if it has one and the name is text. -/
def name (f : FileRef) : Option String :=
  f.path.fileName.bind Utf8.decode

/-- The text of the path. -/
def display (f : FileRef) : String :=
  f.path.display

end FileRef

/-- The number of an open document. -/
structure DocumentId where
  number : Nat
  deriving Repr, DecidableEq

namespace DocumentId

/-- The name of a document in messages. -/
def display (d : DocumentId) : String :=
  "doc#" ++ toString d.number

end DocumentId

end SchemaEngine
