import SchemaEngine.Proofs.Change.Observation
import SchemaEngine.Session.World

/-!
# No edit waits longer than the debounce time

While flushing is not called off and the executor is not asked to stop, exactly one flush is on its
way as long as the flag of the queue is raised: a timer that is alive, or a flush job in the queue
of the executor. An edit that waits keeps the flag up, and the flush that is on its way is due no
later than the debounce time after the edit was reported.

## Main results

* `Dispatcher.options_make`: no move changes what a watcher goes by.
* `flush_on_its_way`: one flush is on its way while the flag is up, and no edit waits too long.
-/

set_option autoImplicit false

namespace SchemaEngine

/-! ### What a watcher goes by -/

/-- No edit changes what a watcher goes by. -/
theorem Watcher.keptBySaving_options (options : WatcherOptions) :
    KeptBySaving fun w => w.options = options where
  edited edit w hw := (edited_same edit w).2.2.trans hw
  cancel _ hw := hw

namespace Dispatcher

variable {J H : Type} {c : Collaborators H} {jobs : HostJobs J H} {d e : Dispatcher J H}

theorem options_perform (job : Job J) (s : WatcherState H) :
    (perform c jobs job s).2.watcher.options = s.watcher.options := by
  cases job with
  | reload => rfl
  | flush => exact WatcherState.flush_keeps c (Watcher.keptBySaving_options _) _ rfl
  | host job => rfl

theorem options_poll (h : d.poll c jobs = some e) :
    e.watch.watcher.options = d.watch.watcher.options := by
  unfold poll at h
  split at h <;> cases h
  rename_i executor watch hpoll
  obtain ⟨-, ⟨-, -, rfl⟩ | ⟨-, -, -, rfl⟩ | ⟨-, -, hrest⟩⟩ := Executor.poll_cases hpoll
  · rfl
  · rfl
  obtain ⟨ticket, queue, -, -, rfl⟩ | ⟨job, queue, -, -, rfl | rfl⟩ := hrest
  · rfl
  · exact options_perform job d.watch
  · exact options_perform job d.watch

/-- No move changes what a watcher goes by. -/
theorem options_make {move : Move J} (h : d.make c jobs move = some e) :
    e.watch.watcher.options = d.watch.watcher.options := by
  cases move with
  | filesChanged events =>
    cases h
    exact congrArg _ (sameFlushing_filesChanged c d events).watcher
  | documentChanged document =>
    cases h
    exact WatcherState.documentChanged_keeps c (Watcher.keptBySaving_options _) document _ rfl
  | rootsChanged =>
    cases h
    exact congrArg _ (sameFlushing_rootsChanged d).watcher
  | flush =>
    cases h
    exact WatcherState.flush_keeps c (Watcher.keptBySaving_options _) _ rfl
  | submit job => cases h; rfl
  | barrier => cases h; rfl
  | requestStop => cases h; rfl
  | cancel => cases h; rfl
  | wait milliseconds => cases h; rfl
  | expire index =>
    obtain ⟨timer, -, -, rfl⟩ := expire_cases h
    rfl
  | deliver index =>
    obtain ⟨timer, -, -, ⟨-, rfl⟩ | ⟨-, rfl⟩⟩ := deliver_cases h <;> rfl
  | abandon index =>
    obtain ⟨-, rfl⟩ := abandon_cases h
    rfl
  | poll => exact options_poll h

end Dispatcher

theorem Observation.Follows.options_eq {J H : Type} {c : Collaborators H} {jobs : HostJobs J H}
    {options : WatcherOptions} {site : Site H} {o : Observation J H}
    (h : o.Follows c jobs options site) : o.watcher.options = options := by
  induction h with
  | here => rfl
  | step move _ hmake ih => exact (Dispatcher.options_make hmake).trans ih

/-! ### The flush that is on its way -/

/-- As long as flushing is not called off and the executor is not asked to stop, after every
sequence of moves: the flag is up exactly while one flush is on its way, and there is never a second
one; a timer that is alive has the observed deadline; and where edits wait the flag is up, and the
deadline is not later than the debounce time after each of them was first reported. -/
theorem flush_on_its_way {J H : Type} (c : Collaborators H) (jobs : HostJobs J H)
    (options : WatcherOptions) (site : Site H) :
    (∀ d : Dispatcher J H, Dispatcher.Reaches c jobs (.begun options site) d → d.IsLive →
        (d.watch.watcher.queue.armed = true ↔ d.outstanding = 1) ∧ d.outstanding ≤ 1) ∧
      ∀ o : Observation J H, o.Follows c jobs options site → o.dispatcher.IsLive →
        (∀ timer ∈ o.watcher.timers, timer.deadline = o.deadline) ∧
          (o.pending ≠ [] →
            o.watcher.queue.armed = true ∧
              ∀ edit ∈ o.pending, o.deadline ≤ o.since edit + options.debounceMs.toNat) := by
  constructor
  · intro d hreaches hlive
    obtain ⟨o, ho, rfl⟩ := hreaches.exists_follows
    exact Dispatcher.outstanding_of_timely (ho.timely hlive)
  · intro o ho hlive
    refine ⟨fun timer htimer => ho.sound.deadline_eq hlive htimer, fun hne => ?_⟩
    have htimely := ho.timely hlive
    have harmed := htimely.waiting hne
    refine ⟨harmed, fun edit _ => ?_⟩
    have hdue := htimely.due harmed edit
    have hsettled : o.watcher.lastDeadline o.deadline = o.deadline := ho.sound.settled
    rw [hsettled, Watcher.debounce, ho.options_eq] at hdue
    exact hdue

section Example

open Session

/-- Two configuration documents are edited, the second one a second after the first. -/
def twoEditsMoves : List (Move Task) :=
  [.poll, .documentChanged ⟨1⟩, .wait 1000, .documentChanged ⟨2⟩, .wait 2000, .expire 0, .deliver 0]

/-- Nothing has happened to the two documents. -/
def twoEditsStart : Observation Task World where
  dispatcher := .begun { names := ⟨["a"]⟩ } <|
    { host :=
      { documents :=
        { lastId := 2
          buffers := [(⟨1⟩, { file := ⟨⟨[47, 97]⟩, false⟩, text := "" }),
            (⟨2⟩, { file := ⟨⟨[47, 98, 47, 97]⟩, false⟩, text := "" })] } } }

/-- The flush of two edits is called for; it comes in time for both. -/
theorem flush_on_its_way_two_edits :
    ∃ o, twoEditsStart.along (World.collaborators none) World.runTask twoEditsMoves = some o ∧
      o.dispatcher.outstanding = 1 ∧ o.pending.map o.since = [0, 1000] ∧
        ∀ edit ∈ o.pending, o.deadline ≤ o.since edit + 3000 := by
  have hsome : (twoEditsStart.along (World.collaborators none) World.runTask
      twoEditsMoves).isSome = true := by decide
  obtain ⟨o, ho⟩ := Option.isSome_iff_exists.mp hsome
  have hgood : (twoEditsStart.along (World.collaborators none) World.runTask twoEditsMoves).all
      (fun o => o.dispatcher.outstanding == 1 && o.pending.map o.since == [0, 1000] &&
        !o.watcher.cancelled && !o.dispatcher.executor.stopRequested) = true := by decide
  simp only [ho, Option.all_some, Bool.and_eq_true, beq_iff_eq, Bool.not_eq_true'] at hgood
  obtain ⟨⟨⟨hone, hsince⟩, hcancelled⟩, hstop⟩ := hgood
  have hpending : o.pending ≠ [] := fun hnone => by simp [hnone] at hsince
  have hdue := (flush_on_its_way (World.collaborators none) World.runTask _ _).2 o
    (Observation.Follows.here.along ho) ⟨hcancelled, hstop⟩
  exact ⟨o, ho, hone, hsince, (hdue.2 hpending).2⟩

end Example

end SchemaEngine
