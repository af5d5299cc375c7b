import SchemaEngine.Order.Sorted
import SchemaEngine.Path.FileRef

/-!
# Edits that wait to be written back

Edited configuration documents wait in a set until a flush takes all of them at once. Beside the set
stands a flag: while it is raised a flush is on its way, and no further one is called for. So a
flush comes a fixed time after the first edit, however many edits follow.

## Main definitions

* `WatchedEdit`: an edited document and its file.
* `FlushQueue`: the waiting edits and the flag.
* `FlushQueue.push`, `FlushQueue.take`: adding an edit, and taking all of them.
* `FlushQueue.arm`, `FlushQueue.disarm`: raising and lowering the flag.
* `FlushSummary`: what became of the edits of one flush.
-/

set_option autoImplicit false

namespace SchemaEngine

/-- A configuration document with edits that are not written. -/
structure WatchedEdit where
  file : FileRef
  document : DocumentId
  deriving Repr, DecidableEq

/-- Edits by file, then by document. -/
def WatchedEdit.order (a b : WatchedEdit) : Ordering :=
  (a.file.order b.file).then (compare a.document.number b.document.number)

/-- The edits that wait for the next flush. -/
structure FlushQueue where
  /-- The waiting edits, sorted. -/
  pending : List WatchedEdit := []
  /-- Whether a flush is on its way. -/
  armed : Bool := false
  deriving Repr, DecidableEq

namespace FlushQueue

/-- Adds an edit; false if it waits already. -/
def push (queue : FlushQueue) (edit : WatchedEdit) : Bool × FlushQueue :=
  (!Sorted.contains WatchedEdit.order edit queue.pending,
    { queue with pending := Sorted.insert WatchedEdit.order edit queue.pending })

/-- Raises the flag; false if it is up already. -/
def arm (queue : FlushQueue) : Bool × FlushQueue :=
  (!queue.armed, { queue with armed := true })

/-- Lowers the flag. -/
def disarm (queue : FlushQueue) : FlushQueue :=
  { queue with armed := false }

/-- Takes every waiting edit, in order. -/
def take (queue : FlushQueue) : List WatchedEdit × FlushQueue :=
  (queue.pending, { queue with pending := [] })

end FlushQueue

/-- What became of the edits of one flush. -/
structure FlushSummary where
  /-- How many documents were written. -/
  saved : Nat := 0
  /-- How many had nothing to write. -/
  unchanged : Nat := 0
  /-- How many were dropped because their file is gone. -/
  dropped : Nat := 0
  /-- How many could not be written. -/
  failed : Nat := 0
  /-- Whether the flush was called off before its end. -/
  cancelled : Bool := false
  deriving Repr, DecidableEq

/-- The summary in words. -/
def FlushSummary.describe (summary : FlushSummary) : String :=
  toString summary.saved ++ " saved, " ++ toString summary.unchanged ++ " unchanged, " ++
    toString summary.dropped ++ " dropped, " ++ toString summary.failed ++ " failed"

end SchemaEngine
