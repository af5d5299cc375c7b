import SchemaEngine.Change.Dispatcher

/-!
# What a step of the executor or of a timer can be

A step of the executor begins its work, ends it, releases a barrier, or runs the job at the head of
the queue; there is no other step. The jobs that a job submits come behind everything that is queued.
A timer first runs out and then calls for a flush.

## Main results

* `Executor.poll_cases`: the steps of an executor.
* `Executor.poll_of_head`: the step that runs a job.
* `Dispatcher.expire_cases`, `Dispatcher.deliver_cases`, `Dispatcher.abandon_cases`: the steps of a
  timer.
* `Executor.submitAll_of_not_exited`: the queue after several jobs were submitted.
-/

set_option autoImplicit false

namespace SchemaEngine.Executor

variable {J σ : Type}

/-- The steps of an executor. A step that runs a job may note that it broke down. -/
theorem poll_cases {perform : J → σ → JobRun J × σ} {note : Entry → σ → σ}
    {executor next : Executor J} {s t : σ}
    (h : executor.poll perform note s = some (next, t)) :
    executor.exited = false ∧
      ((executor.started = false ∧ next = { executor with started := true } ∧
          t = note .executorStarted s) ∨
        (executor.started = true ∧ executor.stopRequested = true ∧ next = executor.exit ∧
          t = note .executorStopped s) ∨
        (executor.started = true ∧ executor.stopRequested = false ∧
          ((∃ ticket queue, executor.queue = .barrier ticket :: queue ∧
              next = { executor with queue := queue, released := executor.released ++ [ticket] } ∧
              t = s) ∨
            ∃ job queue, executor.queue = .run job :: queue ∧
              next = submitAll (perform job s).1.submissions { executor with queue := queue } ∧
              (t = (perform job s).2 ∨ t = note .jobFailed (perform job s).2)))) := by
  unfold poll at h
  split at h
  · cases h
  rename_i hexited
  refine ⟨by simpa using hexited, ?_⟩
  split at h
  · rename_i hstarted
    cases h
    exact .inl ⟨by simpa using hstarted, rfl, rfl⟩
  rename_i hstarted
  have hstarted : executor.started = true := by simpa using hstarted
  split at h
  · rename_i hstop
    cases h
    exact .inr (.inl ⟨hstarted, hstop, rfl, rfl⟩)
  rename_i hstop
  refine .inr (.inr ⟨hstarted, by simpa using hstop, ?_⟩)
  split at h
  · cases h
  · rename_i ticket queue hqueue
    cases h
    exact .inl ⟨ticket, queue, hqueue, rfl, rfl⟩
  · rename_i job queue hqueue
    refine .inr ⟨job, queue, hqueue, ?_⟩
    simp only at h
    split at h <;> cases h
    · exact ⟨rfl, .inl rfl⟩
    · exact ⟨rfl, .inr rfl⟩

/-- The step of an executor that has a job at the head of its queue. -/
theorem poll_of_head {perform : J → σ → JobRun J × σ} {note : Entry → σ → σ} {s : σ}
    {executor : Executor J} {job : J} {queue : List (Message J)}
    (hqueue : executor.queue = .run job :: queue) (hopen : executor.exited = false)
    (hstarted : executor.started = true) (hgoing : executor.stopRequested = false) :
    executor.poll perform note s =
      some (submitAll (perform job s).1.submissions { executor with queue := queue },
        match (perform job s).1.outcome with
        | .finished => (perform job s).2
        | .crashed => note .jobFailed (perform job s).2) := by
  simp only [poll, hopen, hstarted, hgoing, hqueue, Bool.not_true, Bool.false_eq_true, ↓reduceIte]
  cases (perform job s).1.outcome <;> rfl

theorem submit_of_exited (job : J) {executor : Executor J} (h : executor.exited = true) :
    executor.submit job = (false, executor) := by
  simp [submit, h]

theorem submit_of_not_exited (job : J) {executor : Executor J} (h : executor.exited = false) :
    executor.submit job = (true, { executor with queue := executor.queue ++ [.run job] }) := by
  simp [submit, h]

/-- Jobs that are submitted come behind everything that is queued. -/
theorem submitAll_of_not_exited (jobs : List J) :
    ∀ executor : Executor J, executor.exited = false →
      submitAll jobs executor = { executor with queue := executor.queue ++ jobs.map .run } := by
  induction jobs with
  | nil => intro executor _; simp [submitAll]
  | cons job jobs ih =>
    intro executor h
    have hstep : submitAll (job :: jobs) executor = submitAll jobs (executor.submit job).2 := rfl
    rw [hstep, submit_of_not_exited job h, ih { executor with
      queue := executor.queue ++ [.run job] } h]
    simp

end SchemaEngine.Executor

namespace SchemaEngine.Dispatcher

variable {J H : Type} {d e : Dispatcher J H} {index : Nat}

theorem submit_of_exited (job : Job J) (h : d.executor.exited = true) :
    d.submit job = (false, d) := by
  rw [submit, Executor.submit_of_exited job h]

theorem submit_of_not_exited (job : Job J) (h : d.executor.exited = false) :
    d.submit job = (true, { d with
      executor := { d.executor with queue := d.executor.queue ++ [.run job] } }) := by
  rw [submit, Executor.submit_of_not_exited job h]

/-- A timer runs out at its deadline or later, and stays alive. -/
theorem expire_cases (h : d.expire index = some e) :
    ∃ timer, d.watch.watcher.timers[index]? = some timer ∧
      timer.deadline ≤ d.watch.watcher.clock ∧
      e = d.mapWatcher fun w =>
        { w with timers := w.timers.set index { timer with expired := true } } := by
  unfold expire at h
  split at h
  · cases h
  rename_i timer htimer
  split at h <;> cases h
  rename_i hdue
  simp only [Bool.and_eq_true, decide_eq_true_eq] at hdue
  exact ⟨timer, htimer, hdue.2, rfl⟩

/-- A timer that has run out queues a flush; where the executor has left it lowers the flag. -/
theorem deliver_cases (h : d.deliver index = some e) :
    ∃ timer, d.watch.watcher.timers[index]? = some timer ∧ timer.expired = true ∧
      (d.executor.exited = false ∧
          e = { d.dropTimer index with
            executor := { d.executor with queue := d.executor.queue ++ [.run .flush] } } ∨
        d.executor.exited = true ∧
          e = ((d.dropTimer index).note .flushNotRun).mapWatcher fun w =>
            { w with queue := w.queue.disarm }) := by
  unfold deliver at h
  split at h
  · cases h
  rename_i timer htimer
  by_cases hexpired : timer.expired = true
  case neg => simp [hexpired] at h
  rw [if_pos hexpired] at h
  refine ⟨timer, htimer, hexpired, ?_⟩
  cases hexited : d.executor.exited with
  | false =>
    rw [submit_of_not_exited (d := d.dropTimer index) .flush hexited] at h
    cases h
    exact .inl ⟨rfl, rfl⟩
  | true =>
    rw [submit_of_exited (d := d.dropTimer index) .flush hexited] at h
    cases h
    exact .inr ⟨rfl, rfl⟩

/-- Only a timer that is called off gives up. -/
theorem abandon_cases (h : d.abandon index = some e) :
    d.watch.watcher.cancelled = true ∧ e = (d.dropTimer index).note .timerCancelled := by
  unfold abandon at h
  split at h
  · cases h
  split at h <;> cases h
  rename_i hgives
  exact ⟨(Bool.and_eq_true_iff.mp hgives).1, rfl⟩

end SchemaEngine.Dispatcher
