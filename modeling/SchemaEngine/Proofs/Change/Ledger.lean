import SchemaEngine.Proofs.Change.Polling

/-!
# The ledger of an executor

Which jobs an executor accepted and which of them it started is not kept by the executor. A ledger
writes both down, in order, and for each barrier how many jobs had been accepted before it was put
up. As long as the executor has not left, the started jobs and those in the queue are the accepted
ones; when it leaves, what was in the queue is never started.

## Main definitions

* `Executor.next?`: the job that the next step of an executor runs.
* `Ledger`: an executor, the jobs that it accepted and started, and the marks of its barriers.
* `Ledger.submit`, `Ledger.barrier`, `Ledger.requestStop`, `Ledger.poll`: the operations of the
  executor, written down.
* `Ledger.Sound`: the invariant.

## Main results

* `Ledger.Sound.submit`, `Ledger.Sound.barrier`, `Ledger.Sound.requestStop`, `Ledger.Sound.poll`:
  each operation keeps the invariant.
* `Ledger.Sound.started_of_released`: what was accepted before a released barrier has been started.
-/

set_option autoImplicit false

namespace SchemaEngine

variable {J σ : Type}

namespace Executor

/-- The jobs in a queue. -/
def queuedJobs : List (Message J) → List J
  | [] => []
  | .run job :: queue => job :: queuedJobs queue
  | .barrier _ :: queue => queuedJobs queue

/-- The barriers in a queue, each with the number of jobs before it, counted from a number on. -/
def standing : Nat → List (Message J) → List (Nat × Nat)
  | _, [] => []
  | count, .run _ :: queue => standing (count + 1) queue
  | count, .barrier ticket :: queue => (ticket, count) :: standing count queue

@[simp] theorem queuedJobs_append (queue further : List (Message J)) :
    queuedJobs (queue ++ further) = queuedJobs queue ++ queuedJobs further := by
  induction queue with
  | nil => rfl
  | cons message queue ih => cases message <;> simp [queuedJobs, ih]

@[simp] theorem queuedJobs_map_run (jobs : List J) : queuedJobs (jobs.map .run) = jobs := by
  induction jobs with
  | nil => rfl
  | cons job jobs ih => simp [queuedJobs, ih]

theorem standing_append (queue further : List (Message J)) :
    ∀ count, standing count (queue ++ further) =
      standing count queue ++ standing (count + (queuedJobs queue).length) further := by
  induction queue with
  | nil => intro count; rfl
  | cons message queue ih =>
    intro count
    cases message with
    | run job => simp [standing, queuedJobs, ih, Nat.add_assoc, Nat.add_comm 1]
    | barrier ticket => simp [standing, queuedJobs, ih]

@[simp] theorem standing_map_run (jobs : List J) (count : Nat) :
    standing count (jobs.map .run) = [] := by
  induction jobs generalizing count with
  | nil => rfl
  | cons job jobs ih => exact ih (count + 1)

/-- The job that the next step runs, if that is what the next step does. -/
def next? (executor : Executor J) : Option J :=
  if executor.started && executor.isRunning then
    match executor.queue with
    | .run job :: _ => some job
    | _ => none
  else none

theorem next?_eq_some {executor : Executor J} {job : J} (h : executor.next? = some job) :
    ∃ queue, executor.queue = .run job :: queue ∧ executor.exited = false ∧
      executor.started = true ∧ executor.stopRequested = false := by
  unfold next? at h
  split at h
  case isFalse => cases h
  rename_i hgoing
  simp only [isRunning, Bool.and_eq_true, Bool.not_eq_true'] at hgoing
  obtain ⟨hstarted, hstop, hexited⟩ := hgoing
  split at h <;> cases h
  rename_i queue hqueue
  exact ⟨queue, hqueue, hexited, hstarted, hstop⟩

/-- The jobs that are submitted by the job that the next step runs. -/
def submissions (perform : J → σ → JobRun J × σ) (executor : Executor J) (s : σ) : List J :=
  match executor.next? with
  | some job => (perform job s).1.submissions
  | none => []

/-- No step of the executor asks it to stop. -/
theorem stopRequested_poll {perform : J → σ → JobRun J × σ} {note : Entry → σ → σ}
    {executor next : Executor J} {s t : σ}
    (h : executor.poll perform note s = some (next, t)) :
    next.stopRequested = executor.stopRequested := by
  obtain ⟨hopen, ⟨-, rfl, -⟩ | ⟨-, -, rfl, -⟩ | ⟨-, -, hhead⟩⟩ := poll_cases h
  · rfl
  · rfl
  · obtain ⟨ticket, queue, -, rfl, -⟩ | ⟨job, queue, -, rfl, -⟩ := hhead
    · rfl
    · rw [submitAll_of_not_exited _ { executor with queue := queue } hopen]

end Executor

/-- An executor, and what it does not remember. -/
structure Ledger (J : Type) where
  executor : Executor J := {}
  /-- The jobs whose submission was accepted, in order. -/
  accepted : List J := []
  /-- The jobs that were started, in order. -/
  started : List J := []
  /-- For each barrier, by its ticket, how many jobs had been accepted before. -/
  marks : List Nat := []

namespace Ledger

/-- A job is submitted. -/
def submit (job : J) (l : Ledger J) : Ledger J :=
  { l with
    executor := (l.executor.submit job).2
    accepted := if (l.executor.submit job).1 then l.accepted ++ [job] else l.accepted }

/-- A barrier is put up. -/
def barrier (l : Ledger J) : Ledger J :=
  { l with executor := l.executor.barrier.2, marks := l.marks ++ [l.accepted.length] }

/-- The executor is asked to stop. -/
def requestStop (l : Ledger J) : Ledger J :=
  { l with executor := l.executor.requestStop }

/-- The ledger after a step of the executor. -/
def polled (perform : J → σ → JobRun J × σ) (s : σ) (executor : Executor J) (l : Ledger J) :
    Ledger J :=
  { l with
    executor := executor
    accepted := l.accepted ++ l.executor.submissions perform s
    started := l.started ++ l.executor.next?.toList }

theorem accepted_submit_of_exited (job : J) {l : Ledger J} (h : l.executor.exited = true) :
    (l.submit job).accepted = l.accepted := by
  simp [submit, Executor.submit_of_exited job h]

theorem accepted_submit_of_not_exited (job : J) {l : Ledger J} (h : l.executor.exited = false) :
    (l.submit job).accepted = l.accepted ++ [job] := by
  simp [submit, Executor.submit_of_not_exited job h]

theorem stopRequested_submit (job : J) (l : Ledger J) :
    (l.submit job).executor.stopRequested = l.executor.stopRequested := by
  cases hexited : l.executor.exited <;> simp [submit, Executor.submit, hexited]

/-- The invariant of ledgers. -/
structure Sound (l : Ledger J) : Prop where
  inOrder : l.started <+: l.accepted
  queued : l.executor.exited = false →
    l.started ++ Executor.queuedJobs l.executor.queue = l.accepted
  left : l.executor.exited = true → l.executor.stopRequested = true ∧ l.executor.queue = []
  tickets : l.marks.length = l.executor.tickets
  standing : ∀ entry ∈ Executor.standing l.started.length l.executor.queue,
    l.marks[entry.1]? = some entry.2
  released : l.executor.exited = false → ∀ ticket ∈ l.executor.released,
    ∃ mark, l.marks[ticket]? = some mark ∧ mark ≤ l.started.length

/-- An executor that was just set up. -/
theorem sound_new : Sound (J := J) {} where
  inOrder := List.prefix_rfl
  queued _ := rfl
  left h := by cases h
  tickets := rfl
  standing _ h := by cases h
  released _ _ h := by cases h

variable {l : Ledger J}

/-- What an executor that has not left accepts goes behind everything that is queued. -/
theorem Sound.accept (h : l.Sound) (hopen : l.executor.exited = false) (jobs : List J) :
    Sound { l with
      executor := { l.executor with queue := l.executor.queue ++ jobs.map .run }
      accepted := l.accepted ++ jobs } where
  inOrder := h.inOrder.trans (List.prefix_append _ _)
  queued _ := by
    rw [← h.queued hopen, Executor.queuedJobs_append, Executor.queuedJobs_map_run,
      List.append_assoc]
  left hexited := by simp [hopen] at hexited
  tickets := h.tickets
  standing entry hentry := by
    rw [Executor.standing_append, Executor.standing_map_run, List.append_nil] at hentry
    exact h.standing entry hentry
  released := h.released

theorem Sound.submit (h : l.Sound) (job : J) : (l.submit job).Sound := by
  cases hexited : l.executor.exited with
  | true => simpa [Ledger.submit, Executor.submit_of_exited job hexited] using h
  | false =>
    simpa [Ledger.submit, Executor.submit_of_not_exited job hexited] using h.accept hexited [job]

theorem Sound.barrier (h : l.Sound) : l.barrier.Sound := by
  have hmark : (l.marks ++ [l.accepted.length])[l.executor.tickets]? = some l.accepted.length := by
    rw [← h.tickets]
    simp
  have hmarks {ticket mark : Nat} (hold : l.marks[ticket]? = some mark) :
      (l.marks ++ [l.accepted.length])[ticket]? = some mark := by
    rw [List.getElem?_append_left (List.getElem?_eq_some_iff.mp hold).1, hold]
  cases hexited : l.executor.exited with
  | true =>
    refine ⟨h.inOrder, ?_, ?_, ?_, ?_, ?_⟩ <;>
      simp only [Ledger.barrier, Executor.barrier, hexited, ↓reduceIte]
    · exact fun hopen => by cases hopen
    · exact fun _ => h.left hexited
    · simp [h.tickets]
    · exact fun entry hentry => hmarks (h.standing entry hentry)
    · exact fun hopen => by cases hopen
  | false =>
    refine ⟨h.inOrder, ?_, ?_, ?_, ?_, ?_⟩ <;>
      simp only [Ledger.barrier, Executor.barrier, hexited, Bool.false_eq_true, ↓reduceIte]
    · intro _
      rw [← h.queued hexited]
      simp [Executor.queuedJobs]
    · exact fun hleft => by cases hleft
    · simp [h.tickets]
    · intro entry hentry
      rw [Executor.standing_append, List.mem_append, ← List.length_append,
        h.queued hexited] at hentry
      rcases hentry with hold | hnew
      · exact hmarks (h.standing entry hold)
      · obtain rfl := List.mem_singleton.mp hnew
        exact hmark
    · intro _ ticket hticket
      obtain ⟨mark, hold, hle⟩ := h.released hexited ticket hticket
      exact ⟨mark, hmarks hold, hle⟩

/-- The mark of a barrier that is put up says how many jobs were accepted by then. -/
theorem Sound.getElem?_marks_barrier (h : l.Sound) :
    l.barrier.marks[l.executor.barrier.1]? = some l.accepted.length := by
  have hticket : l.executor.barrier.1 = l.marks.length := by
    rw [h.tickets]
    cases hexited : l.executor.exited <;> simp [Executor.barrier, hexited]
  rw [hticket]
  simp [Ledger.barrier]

theorem Sound.requestStop (h : l.Sound) : l.requestStop.Sound :=
  ⟨h.inOrder, h.queued, fun hexited => ⟨rfl, (h.left hexited).2⟩, h.tickets, h.standing, h.released⟩

/-- The job at the head of the queue is started. -/
theorem Sound.start (h : l.Sound) (hopen : l.executor.exited = false) {job : J}
    {queue : List (Message J)} (hqueue : l.executor.queue = .run job :: queue) :
    Sound { l with
      executor := { l.executor with queue := queue }
      started := l.started ++ [job] } := by
  have hqueued := h.queued hopen
  rw [hqueue] at hqueued
  refine ⟨?_, ?_, ?_, h.tickets, ?_, ?_⟩
  · exact ⟨Executor.queuedJobs queue, by simpa [Executor.queuedJobs] using hqueued⟩
  · intro _
    simpa [Executor.queuedJobs] using hqueued
  · exact fun hexited => by simp [hopen] at hexited
  · intro entry hentry
    refine h.standing entry ?_
    rw [hqueue]
    simpa [Executor.standing] using hentry
  · intro _ ticket hticket
    obtain ⟨mark, hmark, hle⟩ := h.released hopen ticket hticket
    exact ⟨mark, hmark, Nat.le_trans hle (by simp)⟩

/-- The barrier at the head of the queue is released. -/
theorem Sound.release (h : l.Sound) (hopen : l.executor.exited = false) {ticket : Nat}
    {queue : List (Message J)} (hqueue : l.executor.queue = .barrier ticket :: queue) :
    Sound { l with executor := { l.executor with
      queue := queue, released := l.executor.released ++ [ticket] } } := by
  have hstanding := h.standing
  rw [hqueue] at hstanding
  refine ⟨h.inOrder, ?_, ?_, h.tickets, ?_, ?_⟩
  · intro _
    rw [← h.queued hopen, hqueue]
    simp [Executor.queuedJobs]
  · exact fun hexited => by simp [hopen] at hexited
  · exact fun entry hentry => hstanding entry (List.mem_cons_of_mem _ hentry)
  · intro _ other hother
    rcases List.mem_append.mp hother with hold | hnew
    · exact h.released hopen other hold
    · obtain rfl := List.mem_singleton.mp hnew
      exact ⟨l.started.length, hstanding (other, l.started.length) (.head _), Nat.le_refl _⟩

/-- Nothing that is queued when the executor leaves is ever started. -/
theorem Sound.exit (h : l.Sound) (hstop : l.executor.stopRequested = true) :
    Sound { l with executor := l.executor.exit } where
  inOrder := h.inOrder
  queued hopen := by cases hopen
  left _ := ⟨hstop, rfl⟩
  tickets := h.tickets
  standing _ hentry := by cases hentry
  released hopen := by cases hopen

/-- What one step of the executor keeps. -/
theorem Sound.poll (h : l.Sound) {perform : J → σ → JobRun J × σ} {note : Entry → σ → σ}
    {s t : σ} {executor : Executor J}
    (hpoll : l.executor.poll perform note s = some (executor, t)) :
    (l.polled perform s executor).Sound := by
  obtain ⟨hopen, ⟨hidle, rfl, -⟩ | ⟨-, hstop, rfl, -⟩ | ⟨hstarted, hgoing, hhead⟩⟩ :=
    Executor.poll_cases hpoll
  · have hnext : l.executor.next? = none := by simp [Executor.next?, hidle]
    simp only [polled, Executor.submissions, hnext, List.append_nil, Option.toList_none]
    exact ⟨h.inOrder, h.queued, h.left, h.tickets, h.standing, h.released⟩
  · have hnext : l.executor.next? = none := by
      simp [Executor.next?, Executor.isRunning, hstop]
    simp only [polled, Executor.submissions, hnext, List.append_nil, Option.toList_none]
    exact h.exit hstop
  · obtain ⟨ticket, queue, hqueue, rfl, -⟩ | ⟨job, queue, hqueue, rfl, -⟩ := hhead
    · have hnext : l.executor.next? = none := by simp [Executor.next?, hqueue]
      simp only [polled, Executor.submissions, hnext, List.append_nil, Option.toList_none]
      exact h.release hopen hqueue
    · have hnext : l.executor.next? = some job := by
        simp [Executor.next?, Executor.isRunning, hstarted, hgoing, hopen, hqueue]
      rw [Executor.submitAll_of_not_exited _ { l.executor with queue := queue } hopen]
      simp only [polled, Executor.submissions, hnext, Option.toList_some]
      exact (h.start hopen hqueue).accept hopen (perform job s).1.submissions

/-- What was accepted before a barrier was put up has been started when the barrier is released, if
the executor has not left. -/
theorem Sound.started_of_released (h : l.Sound) (hopen : l.executor.exited = false)
    {ticket mark : Nat} (hticket : ticket ∈ l.executor.released)
    (hmark : l.marks[ticket]? = some mark) : l.accepted.take mark <+: l.started := by
  obtain ⟨mark', hmark', hle⟩ := h.released hopen ticket hticket
  obtain rfl : mark = mark' := by rw [hmark, Option.some.injEq] at hmark'; exact hmark'
  obtain ⟨rest, hrest⟩ := h.inOrder
  rw [← hrest, List.take_append_of_le_length hle]
  exact List.take_prefix mark l.started

end Ledger

end SchemaEngine
