import SchemaEngine.Path.FileRef
import SchemaEngine.Text.Quoted
import SchemaEngine.Text.Shown

/-!
# Change events

What the file system reports about a file or a directory.

## Main definitions

* `FileChange`: what happened.
* `FileEvent`: what happened, and to which file or directory.
* `FileEvent.isStructural`: whether the event changes which files exist or what they are called.
-/

set_option autoImplicit false

namespace SchemaEngine

/-- A property of a file that changes on its own. -/
inductive FileProperty where
  | name
  | writable
  | encoding
  | other (text : String)
  deriving Repr, DecidableEq

/-- The property in words. -/
def FileProperty.describe : FileProperty → String
  | name => "Name"
  | writable => "Writable"
  | encoding => "Encoding"
  | other text => Shown.tuple "Other" [Quoted.text text]

/-- What happened to a file. -/
inductive FileChange where
  | create
  | delete
  | content
  | move
  | copy
  | property (property : FileProperty) (oldValue newValue : Option String)
  deriving Repr, DecidableEq

/-- The change in words. -/
def FileChange.describe : FileChange → String
  | create => "Create"
  | delete => "Delete"
  | content => "ContentChange"
  | move => "Move"
  | copy => "Copy"
  | property p oldValue newValue =>
    Shown.record "PropertyChange" [
      ("property", p.describe),
      ("old_value", Shown.option (oldValue.map Quoted.text)),
      ("new_value", Shown.option (newValue.map Quoted.text))]

/-- Whether the change is one of which files exist or what they are called. -/
def FileChange.isStructural : FileChange → Bool
  | create | delete | move | copy => true
  | content => false
  | property p _ _ => p == .name

/-- A change of a file or a directory. -/
structure FileEvent where
  /-- What is affected, if it is known. -/
  file : Option FileRef
  /-- Whether a directory is affected. -/
  isDirectory : Bool
  change : FileChange
  deriving Repr, DecidableEq

namespace FileEvent

/-- A file got a new name. -/
def renamed (file : FileRef) (oldName newName : String) : FileEvent :=
  ⟨some file, false, .property .name (some oldName) (some newName)⟩

/-- Whether the event changes which files exist or what they are called. -/
def isStructural (event : FileEvent) : Bool :=
  event.change.isStructural

end FileEvent

end SchemaEngine
