import SchemaEngine.Disk.Tree
import SchemaEngine.Document.Store
import SchemaEngine.Host.Collaborators

/-!
# Files and documents on a disk

A disk answers the questions about files, and a document store on top of it keeps the open
documents.

## Main definitions

* `FileIndex.ofDisk`: the files of a disk under a project root.
* `Shelf`: where documents and files are in the world of the collaborators.
* `Shelf.openFile`, `Shelf.save`: opening and saving documents, with their entries in the journal.
* `Shelf.storage`: the documents as the engine asks for them.
-/

set_option autoImplicit false

namespace SchemaEngine

/-- The files of a disk. Scratch buffers always exist and never change. -/
def FileIndex.ofDisk {H : Type} (root : Path) (disk : H → Disk) : FileIndex H where
  isValid h file := file.synthetic || ((disk h).locate file.path).isOk
  isDirectory h file := !file.synthetic && (disk h).isDirectory file.path
  isInProject _ file := file.path.startsWith root
  stamp h file := if file.synthetic then 0 else (disk h).stamp file.path

/-- Where open documents and the files behind them are in a world `H`. -/
structure Shelf (H W : Type) where
  store : H → DocumentStore
  /-- The world of the files. -/
  world : H → W
  put : DocumentStore → W → H → H
  fs : FileSystem W

namespace Shelf

variable {H W : Type}

/-- Changes the documents and nothing else. -/
def setStore (shelf : Shelf H W) (store : DocumentStore) (site : Site H) : Site H :=
  { site with host := shelf.put store (shelf.world site.host) site.host }

/-- Opens a file. -/
def openFile (shelf : Shelf H W) (file : FileRef) (site : Site H) :
    Except StorageError DocumentId × Site H :=
  match (shelf.store site.host).openFile shelf.fs (shelf.world site.host) file with
  | (.error e, store) => (.error e, shelf.setStore store site)
  | (.ok document, store) =>
    (.ok document, (shelf.setStore store site).note (.documentOpened file document))

/-- Saves a document. -/
def save (shelf : Shelf H W) (document : DocumentId) (site : Site H) :
    Except StorageError Bool × Site H :=
  let before := shelf.store site.host
  let (result, store, world) := before.save shelf.fs document (shelf.world site.host)
  let site := { site with host := shelf.put store world site.host }
  match result, before.buffer? document with
  | .ok true, some buffer => (result, site.note (.documentSaved buffer.file buffer.version))
  | _, _ => (result, site)

/-- The documents as the engine asks for them. -/
def storage (shelf : Shelf H W) : DocumentStorage H where
  fileOf h document := (shelf.store h).fileOf document
  save document site :=
    let (result, site) := shelf.save document site
    .done site result

end Shelf

end SchemaEngine
