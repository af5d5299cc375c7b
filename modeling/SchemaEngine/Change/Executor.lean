import SchemaEngine.Host.Collaborators

/-!
# The main executor

Jobs are run one at a time, in the order in which they were submitted. A barrier in the queue is
released when everything before it has run. Once a stop is requested no further job is run: at its
next step the executor leaves, drops what is still queued and lets go of all who wait at a barrier.
A job that breaks down does not keep the next one from running.

## Main definitions

* `Executor`: the queue and how far the executor has come.
* `Executor.submit`, `Executor.barrier`, `Executor.requestStop`: what is asked of it.
* `Executor.poll`: one step of the executor.
-/

set_option autoImplicit false

namespace SchemaEngine

/-- What waits in the queue. -/
inductive Message (J : Type) where
  | run (job : J)
  /-- Somebody waits for everything before this; the number tells who. -/
  | barrier (ticket : Nat)
  deriving Repr, DecidableEq

/-- What running a job amounts to for the executor. -/
structure JobRun (J : Type) where
  /-- The jobs that it submitted. -/
  submissions : List J := []
  outcome : Outcome := .finished
  deriving Repr

/-- An executor of jobs `J`. -/
structure Executor (J : Type) where
  queue : List (Message J) := []
  /-- Whether it has begun. -/
  started : Bool := false
  /-- Whether it is asked to stop. -/
  stopRequested : Bool := false
  /-- Whether it has left. -/
  exited : Bool := false
  /-- How many barriers were put up. -/
  tickets : Nat := 0
  /-- The barriers that nobody waits at any more. -/
  released : List Nat := []
  deriving Repr

namespace Executor

variable {J σ : Type}

/-- Whether jobs are still accepted and run. -/
def isRunning (executor : Executor J) : Bool :=
  !executor.stopRequested && !executor.exited

/-- Queues a job; false if the executor has left. -/
def submit (job : J) (executor : Executor J) : Bool × Executor J :=
  if executor.exited then (false, executor)
  else (true, { executor with queue := executor.queue ++ [.run job] })

/-- Queues several jobs. -/
def submitAll (jobs : List J) (executor : Executor J) : Executor J :=
  jobs.foldl (fun executor job => (executor.submit job).2) executor

/-- Puts up a barrier; one that finds the executor gone is released at once. -/
def barrier (executor : Executor J) : Nat × Executor J :=
  let ticket := executor.tickets
  if executor.exited then
    (ticket,
      { executor with tickets := ticket + 1, released := executor.released ++ [ticket] })
  else
    (ticket,
      { executor with tickets := ticket + 1, queue := executor.queue ++ [.barrier ticket] })

/-- Asks the executor to stop. -/
def requestStop (executor : Executor J) : Executor J :=
  { executor with stopRequested := true }

/-- The barriers in a queue. -/
def waiting (queue : List (Message J)) : List Nat :=
  queue.filterMap fun
    | .run _ => none
    | .barrier ticket => some ticket

/-- Leaves: what is queued is dropped, and nobody waits any more. -/
def exit (executor : Executor J) : Executor J :=
  { executor with
    exited := true, queue := [], released := executor.released ++ waiting executor.queue }

/-- One step of the executor in a state that jobs work on, or nothing if it has nothing to do. A
requested stop goes before the queue. -/
def poll (perform : J → σ → JobRun J × σ) (note : Entry → σ → σ) (executor : Executor J) (s : σ) :
    Option (Executor J × σ) :=
  if executor.exited then none
  else if !executor.started then some ({ executor with started := true }, note .executorStarted s)
  else if executor.stopRequested then some (executor.exit, note .executorStopped s)
  else
    match executor.queue with
    | [] => none
    | .barrier ticket :: queue =>
      some ({ executor with queue := queue, released := executor.released ++ [ticket] }, s)
    | .run job :: queue =>
      let (run, s) := perform job s
      let executor := submitAll run.submissions { executor with queue := queue }
      match run.outcome with
      | .finished => some (executor, s)
      | .crashed => some (executor, note .jobFailed s)

/-- Whether a step would do something. -/
def isReady (executor : Executor J) : Bool :=
  !executor.exited && (!executor.started || executor.stopRequested || !executor.queue.isEmpty)

/-- The executor in words. -/
def describe (executor : Executor J) : String :=
  Shown.record "MainExecutor" [("running", Shown.truth executor.isRunning)]

end Executor

end SchemaEngine
