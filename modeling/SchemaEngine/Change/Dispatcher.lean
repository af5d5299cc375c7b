import SchemaEngine.Change.Executor
import SchemaEngine.Change.Watcher

/-!
# The watcher and its executor

Reloads that the project roots call for, and flushes that timers call for, are jobs of the main
executor, beside the jobs of the host. A timer that runs out submits a flush; if the executor has
left it gives up, and the next edit starts a timer again.

The state changes by moves: calls of the host, the clock, and steps of the timers and of the
executor. Which move comes next is not decided here.

## Main definitions

* `Job`: the jobs of the executor.
* `Dispatcher`: a watcher and its executor.
* `Dispatcher.rootsChanged`: a change of the project roots.
* `Dispatcher.expire`, `Dispatcher.deliver`, `Dispatcher.abandon`: the steps of a timer.
* `Dispatcher.poll`: a step of the executor.
* `Move`, `Dispatcher.make`: the moves.
-/

set_option autoImplicit false

namespace SchemaEngine

/-- The jobs of the executor; `J` are those of the host. -/
inductive Job (J : Type) where
  /-- Reloads the configuration because the project roots changed. -/
  | reload
  /-- Writes the waiting edits. -/
  | flush
  | host (job : J)
  deriving Repr, DecidableEq

/-- How the host runs its jobs. -/
abbrev HostJobs (J H : Type) := J → Site H → JobRun J × Site H

/-- A watcher and the executor of its jobs. -/
structure Dispatcher (J H : Type) where
  executor : Executor (Job J) := {}
  watch : WatcherState H

namespace Dispatcher

variable {J H : Type}

/-- Adds an entry to the journal. -/
def note (entry : Entry) (d : Dispatcher J H) : Dispatcher J H :=
  { d with watch := d.watch.note entry }

/-- Runs a job. -/
def perform (c : Collaborators H) (jobs : HostJobs J H) (job : Job J) (s : WatcherState H) :
    JobRun (Job J) × WatcherState H :=
  match job with
  | .reload =>
    let (outcome, site) := c.resolver.reload (s.site.note .rootsChanged)
    ({ outcome := outcome }, { s with site := site })
  | .flush =>
    let s := { s with watcher := { s.watcher with queue := s.watcher.queue.disarm } }
    ({}, (s.flush c).2)
  | .host job =>
    let (run, site) := jobs job s.site
    (⟨run.submissions.map .host, run.outcome⟩, { s with site := site })

/-- One step of the executor, if it has something to do. -/
def poll (c : Collaborators H) (jobs : HostJobs J H) (d : Dispatcher J H) :
    Option (Dispatcher J H) :=
  match d.executor.poll (perform c jobs) WatcherState.note d.watch with
  | some (executor, watch) => some ⟨executor, watch⟩
  | none => none

/-- Submits a job; whether it was accepted. -/
def submit (job : Job J) (d : Dispatcher J H) : Bool × Dispatcher J H :=
  let (accepted, executor) := d.executor.submit job
  (accepted, { d with executor := executor })

/-- Takes in that the project roots changed. -/
def rootsChanged (d : Dispatcher J H) : Dispatcher J H :=
  match d.submit .reload with
  | (true, d) => d
  | (false, d) => d.note .rootsChangeIgnored

/-- Puts up a barrier. -/
def barrier (d : Dispatcher J H) : Nat × Dispatcher J H :=
  let (ticket, executor) := d.executor.barrier
  (ticket, { d with executor := executor })

/-- Asks the executor to stop. -/
def requestStop (d : Dispatcher J H) : Dispatcher J H :=
  { d with executor := d.executor.requestStop }

/-- Changes the watcher. -/
def mapWatcher (f : Watcher → Watcher) (d : Dispatcher J H) : Dispatcher J H :=
  { d with watch := { d.watch with watcher := f d.watch.watcher } }

/-- Calls timers and flushes off. -/
def cancel (d : Dispatcher J H) : Dispatcher J H :=
  d.mapWatcher Watcher.cancel

/-- Lets time pass. -/
def wait (milliseconds : Nat) (d : Dispatcher J H) : Dispatcher J H :=
  d.mapWatcher fun w => { w with clock := w.clock + milliseconds }

/-- The timer of an index. -/
def timer? (d : Dispatcher J H) (index : Nat) : Option Timer :=
  d.watch.watcher.timers[index]?

/-- Removes the timer of an index. -/
def dropTimer (index : Nat) (d : Dispatcher J H) : Dispatcher J H :=
  d.mapWatcher fun w => { w with timers := w.timers.eraseIdx index }

/-- A timer whose deadline has come runs out. -/
def expire (index : Nat) (d : Dispatcher J H) : Option (Dispatcher J H) :=
  match d.timer? index with
  | none => none
  | some timer =>
    if !timer.expired && timer.deadline ≤ d.watch.watcher.clock then
      some (d.mapWatcher fun w =>
        { w with timers := w.timers.set index { timer with expired := true } })
    else none

/-- A timer that has run out calls for a flush. -/
def deliver (index : Nat) (d : Dispatcher J H) : Option (Dispatcher J H) :=
  match d.timer? index with
  | none => none
  | some timer =>
    if timer.expired then
      match (d.dropTimer index).submit .flush with
      | (true, d) => some d
      | (false, d) =>
        some ((d.note .flushNotRun).mapWatcher fun w => { w with queue := w.queue.disarm })
    else none

/-- A timer that still runs gives up because it is called off. -/
def abandon (index : Nat) (d : Dispatcher J H) : Option (Dispatcher J H) :=
  match d.timer? index with
  | none => none
  | some timer =>
    if d.watch.watcher.cancelled && !timer.expired then
      some ((d.dropTimer index).note .timerCancelled)
    else none

end Dispatcher

/-- What can happen next. -/
inductive Move (J : Type) where
  /-- The host reports a batch of file events. -/
  | filesChanged (events : List FileEvent)
  /-- The host reports an edit. -/
  | documentChanged (document : DocumentId)
  /-- The host reports a change of the project roots. -/
  | rootsChanged
  /-- The host flushes. -/
  | flush
  /-- The host submits a job. -/
  | submit (job : J)
  /-- The host waits at a barrier. -/
  | barrier
  /-- The host asks the executor to stop. -/
  | requestStop
  /-- The host calls timers and flushes off. -/
  | cancel
  /-- Time passes. -/
  | wait (milliseconds : Nat)
  /-- A timer runs out. -/
  | expire (index : Nat)
  /-- A timer that has run out calls for a flush. -/
  | deliver (index : Nat)
  /-- A timer gives up. -/
  | abandon (index : Nat)
  /-- The executor makes a step. -/
  | poll

namespace Dispatcher

variable {J H : Type}

/-- Makes a move, if it is possible. -/
def make (c : Collaborators H) (jobs : HostJobs J H) (move : Move J) (d : Dispatcher J H) :
    Option (Dispatcher J H) :=
  match move with
  | .filesChanged events => some { d with watch := (d.watch.filesChanged c events).2 }
  | .documentChanged document => some { d with watch := (d.watch.documentChanged c document).2 }
  | .rootsChanged => some d.rootsChanged
  | .flush => some { d with watch := (d.watch.flush c).2 }
  | .submit job => some (d.submit (.host job)).2
  | .barrier => some d.barrier.2
  | .requestStop => some d.requestStop
  | .cancel => some d.cancel
  | .wait milliseconds => some (d.wait milliseconds)
  | .expire index => d.expire index
  | .deliver index => d.deliver index
  | .abandon index => d.abandon index
  | .poll => d.poll c jobs

/-- The states that moves lead to. -/
inductive Reaches (c : Collaborators H) (jobs : HostJobs J H) (start : Dispatcher J H) :
    Dispatcher J H → Prop where
  | here : Reaches c jobs start start
  | step {d e : Dispatcher J H} (move : Move J) :
      Reaches c jobs start d → d.make c jobs move = some e → Reaches c jobs start e

end Dispatcher

end SchemaEngine
