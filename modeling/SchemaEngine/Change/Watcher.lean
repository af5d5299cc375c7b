import SchemaEngine.Change.Relevance

/-!
# Watching for changes

The watcher turns batches of file events into reloads of the configuration, and edits of
configuration documents into writes. An edit waits until its flush timer runs out; the timer is
started by the first edit that finds no flush on its way.

## Main definitions

* `Watcher`: the waiting edits, the timers and the clock.
* `WatcherState.filesChanged`: a batch of file events.
* `WatcherState.documentChanged`: an edit of an open document.
* `WatcherState.flush`: writes every waiting edit.
-/

set_option autoImplicit false

namespace SchemaEngine

/-- What a watcher goes by. -/
structure WatcherOptions where
  /-- The names of configuration files. -/
  names : ConfigFileNames := .standard
  /-- How many milliseconds after the first edit everything is written. -/
  debounceMs : UInt64 := 3000
  deriving Repr

/-- A span of milliseconds in words: in seconds from one second on. -/
def describeMilliseconds (ms : Nat) : String :=
  let fraction := String.ofList (((toString (1000 + ms % 1000)).toList.drop 1).reverse.dropWhile
    (· == '0')).reverse
  if ms = 0 then "0ns"
  else if ms < 1000 then toString ms ++ "ms"
  else if fraction.isEmpty then toString (ms / 1000) ++ "s"
  else toString (ms / 1000) ++ "." ++ fraction ++ "s"

/-- The options in words. -/
def WatcherOptions.describe (options : WatcherOptions) : String :=
  Shown.record "WatcherOptions" [
    ("config_file_names", options.names.describe),
    ("flush_debounce", describeMilliseconds options.debounceMs.toNat)]

/-- A timer that calls for a flush. -/
structure Timer where
  /-- When it runs out. -/
  deadline : Nat
  /-- Whether it has run out and is about to call. -/
  expired : Bool := false
  deriving Repr, DecidableEq

/-- What a watcher keeps. -/
structure Watcher where
  options : WatcherOptions := {}
  /-- The waiting edits. -/
  queue : FlushQueue := {}
  /-- The timers that are alive, the oldest one first. -/
  timers : List Timer := []
  /-- Whether timers and flushes are called off. -/
  cancelled : Bool := false
  /-- The time, in milliseconds. -/
  clock : Nat := 0
  deriving Repr

namespace Watcher

/-- Starts a timer, unless a flush is on its way. -/
def schedule (watcher : Watcher) : Watcher :=
  let (armed, queue) := watcher.queue.arm
  if armed then
    { watcher with
      queue := queue
      timers := watcher.timers ++ [⟨watcher.clock + watcher.options.debounceMs.toNat, false⟩] }
  else watcher

/-- Takes an edit in. -/
def edited (edit : WatchedEdit) (watcher : Watcher) : Watcher :=
  { watcher with queue := (watcher.queue.push edit).2 }.schedule

/-- Calls timers and flushes off. -/
def cancel (watcher : Watcher) : Watcher :=
  { watcher with cancelled := true }

/-- The watcher in words. -/
def describe (watcher : Watcher) : String :=
  Shown.record "ChangeWatcher" [
    ("options", watcher.options.describe),
    ("pending", toString watcher.queue.pending.length),
    ("armed", Shown.truth watcher.queue.armed)]

end Watcher

/-- A watcher and the site that it works at. -/
structure WatcherState (H : Type) where
  watcher : Watcher
  site : Site H

namespace WatcherState

variable {H : Type}

/-- Adds an entry to the journal. -/
def note (entry : Entry) (s : WatcherState H) : WatcherState H :=
  { s with site := s.site.note entry }

/-- Whether a batch changes which files of the project exist or what they are called. -/
def isStructural (c : Collaborators H) (events : List FileEvent) (s : WatcherState H) : Bool :=
  events.any fun event => event.isStructural && event.file.any (c.files.isInProject s.site.host)

/-- Moves the file structure on if a batch changes it. -/
def advanceStructure (c : Collaborators H) (events : List FileEvent) (s : WatcherState H) :
    WatcherState H :=
  if s.isStructural c events then
    let site := s.site.advance
    { s with site := site.note (.structureChanged site.generation) }
  else s

/-- Takes a batch of file events in. The configuration is reloaded once if one of them bears on it;
whether that is so is the answer. -/
def filesChanged (c : Collaborators H) (events : List FileEvent) (s : WatcherState H) :
    Bool × WatcherState H :=
  let s := s.advanceStructure c events
  let (changed, site) := configurationsChanged c s.watcher.options.names events s.site
  if changed then
    let (_, site) := c.resolver.reload (site.note .configurationChanged)
    (true, { s with site := site })
  else (false, { s with site := site })

/-- Takes an edit of an open document in, if the document is a configuration file on storage;
whether that is so is the answer. -/
def documentChanged (c : Collaborators H) (document : DocumentId) (s : WatcherState H) :
    Bool × WatcherState H :=
  match c.documents.fileOf s.site.host document with
  | none => (false, s)
  | some file =>
    if file.synthetic || !s.watcher.options.names.recognizes file then (false, s)
    else
      let s := s.note (.documentEdited file)
      (true, { s with watcher := s.watcher.edited ⟨file, document⟩ })

/-- What happens at the watcher while a document is being saved. -/
def duringSave (c : Collaborators H) (event : SaveEvent) (site : Site H) (watcher : Watcher) :
    Bool × Site H × Watcher :=
  match event with
  | .edited document =>
    let (taken, s) := documentChanged c document ⟨watcher, site⟩
    (taken, s.site, s.watcher)
  | .cancelled => (true, site, watcher.cancel)

/-- Saves a document. -/
def save (c : Collaborators H) (document : DocumentId) (s : WatcherState H) :
    Except StorageError Bool × WatcherState H :=
  let (result, site, watcher) := (c.documents.save document s.site).run (duringSave c) s.watcher
  (result, ⟨watcher, site⟩)

/-- Writes edits in order, until flushing is called off. -/
def saveAll (c : Collaborators H) : List WatchedEdit → FlushSummary → WatcherState H →
    FlushSummary × WatcherState H
  | [], summary, s => (summary, s)
  | edit :: edits, summary, s =>
    if s.watcher.cancelled then ({ summary with cancelled := true }, s.note .flushCancelled)
    else if !c.files.isValid s.site.host edit.file then
      saveAll c edits { summary with dropped := summary.dropped + 1 } s
    else
      match save c edit.document s with
      | (.ok true, s) => saveAll c edits { summary with saved := summary.saved + 1 } s
      | (.ok false, s) => saveAll c edits { summary with unchanged := summary.unchanged + 1 } s
      | (.error e, s) =>
        saveAll c edits { summary with failed := summary.failed + 1 }
          (s.note (.saveFailed edit.file e))

/-- Writes every waiting edit. Edits that are not reached because flushing is called off are
lost. -/
def flush (c : Collaborators H) (s : WatcherState H) : FlushSummary × WatcherState H :=
  let (batch, queue) := s.watcher.queue.take
  let s := { s with watcher := { s.watcher with queue := queue } }
  if batch.isEmpty then ({}, s)
  else
    let (summary, s) := saveAll c batch {} s
    (summary, s.note (.flushed summary))

end WatcherState

end SchemaEngine
