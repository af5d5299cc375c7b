import SchemaEngine.Disk.Tree
import SchemaEngine.Document.Fault
import SchemaEngine.Text.Shown

/-!
# Open documents

An open document is a buffer over a file. It counts its edits and remembers the count that was last
written; while the two differ the document is dirty. Scratch buffers are never written. Documents
are numbered in the order in which they were opened, and no number is used twice.

## Main definitions

* `DocumentStore`: the open documents.
* `DocumentStore.openFile`, `DocumentStore.edit`, `DocumentStore.save`, `DocumentStore.close`: the
  operations.
* `DocumentStore.isDirty`: whether a document has edits that are not written.
-/

set_option autoImplicit false

namespace SchemaEngine

/-- The buffer of an open document. -/
structure Buffer where
  file : FileRef
  text : String
  /-- How many edits were made. -/
  version : Nat := 0
  /-- How many of them are in the file. -/
  savedVersion : Nat := 0
  deriving Repr, DecidableEq

/-- The open documents. -/
structure DocumentStore where
  /-- The number of the document that was opened last. -/
  lastId : Nat := 0
  buffers : List (DocumentId × Buffer) := []
  deriving Repr

namespace DocumentStore

variable {W : Type}

/-- The buffer of a document. -/
def buffer? (store : DocumentStore) (document : DocumentId) : Option Buffer :=
  (store.buffers.find? fun entry => entry.1 == document).map (·.2)

/-- Replaces the buffer of a document that is open. -/
def setBuffer (document : DocumentId) (buffer : Buffer) (store : DocumentStore) : DocumentStore :=
  { store with
    buffers := store.buffers.map fun entry =>
      if entry.1 == document then (document, buffer) else entry }

/-- What a document holds at first: nothing for a scratch buffer, or else the text of the file. -/
def initialText (fs : FileSystem W) (world : W) (file : FileRef) : Except StorageError String :=
  if file.synthetic then .ok ""
  else (fs.read world file.path).mapError fun fault => .io file.path fault

/-- Opens a file. -/
def openFile (fs : FileSystem W) (world : W) (file : FileRef) (store : DocumentStore) :
    Except StorageError DocumentId × DocumentStore :=
  match initialText fs world file with
  | .error e => (.error e, store)
  | .ok text =>
    let document : DocumentId := ⟨store.lastId + 1⟩
    (.ok document, ⟨document.number, store.buffers ++ [(document, { file := file, text := text })]⟩)

/-- Replaces the text of a document; its new version. -/
def edit (document : DocumentId) (text : String) (store : DocumentStore) :
    Except StorageError Nat × DocumentStore :=
  match store.buffer? document with
  | none => (.error (.unknownDocument document), store)
  | some buffer =>
    let version := buffer.version + 1
    (.ok version, store.setBuffer document { buffer with text := text, version := version })

/-- The text of a document. -/
def text? (store : DocumentStore) (document : DocumentId) : Option String :=
  (store.buffer? document).map (·.text)

/-- The file of a document. -/
def fileOf (store : DocumentStore) (document : DocumentId) : Option FileRef :=
  (store.buffer? document).map (·.file)

/-- Whether a document has edits that are not written. -/
def isDirty (store : DocumentStore) (document : DocumentId) : Bool :=
  match store.buffer? document with
  | some buffer => buffer.version != buffer.savedVersion
  | none => false

/-- Closes a document; edits that are not written are lost. False if it is not open. -/
def close (document : DocumentId) (store : DocumentStore) : Bool × DocumentStore :=
  ((store.buffer? document).isSome,
    { store with buffers := store.buffers.filter fun entry => entry.1 != document })

/-- Writes a document to its file; false if there is nothing to write. -/
def save (fs : FileSystem W) (document : DocumentId) (store : DocumentStore) (world : W) :
    Except StorageError Bool × DocumentStore × W :=
  match store.buffer? document with
  | none => (.error (.unknownDocument document), store, world)
  | some buffer =>
    if buffer.version = buffer.savedVersion || buffer.file.synthetic then (.ok false, store, world)
    else
      match fs.write buffer.file.path buffer.text world with
      | (.error fault, world) => (.error (.io buffer.file.path fault), store, world)
      | (.ok (), world) =>
        (.ok true,
          store.setBuffer document
            { buffer with savedVersion := max buffer.savedVersion buffer.version },
          world)

/-- The store in words; the documents are not told. -/
def describe (store : DocumentStore) : String :=
  Shown.record "FsDocumentStore" [("open_documents", toString store.buffers.length)]

end DocumentStore

end SchemaEngine
