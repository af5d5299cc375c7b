import SchemaEngine.Proofs.Change.Polling
import SchemaEngine.Proofs.Change.Timeliness

/-!
# A dispatcher under observation

When an edit was reported is not kept by the watcher. It is observed from outside, move by move: an
observation has the time since which each edit waits, and the deadline of the timer that was started
last, beside the watcher and its executor.

## Main definitions

* `Dispatcher.outstanding`: the flushes that are on their way.
* `Observation`: a dispatcher, since when its edits wait, and when its last timer runs out.
* `Observation.Follows`: the observations along the moves from a new dispatcher.
* `Observation.Sound`: the invariant.

## Main results

* `Observation.Sound.timely_make`: a move keeps the watcher in time.
* `Observation.Follows.timely`: the watcher is in time after every sequence of moves.
-/

set_option autoImplicit false

namespace SchemaEngine

/-- Whether a message calls for a flush. -/
def Message.isFlush {J : Type} : Message (Job J) → Bool
  | .run .flush => true
  | _ => false

namespace Dispatcher

variable {J H : Type}

/-- A watcher that was just set up, and its executor. -/
def begun (options : WatcherOptions) (site : Site H) : Dispatcher J H where
  watch := ⟨{ options := options }, site⟩

/-- The flush jobs in the queue of the executor. -/
def queuedFlushes (d : Dispatcher J H) : Nat :=
  d.executor.queue.countP Message.isFlush

/-- The flushes that are on their way: timers that are alive, and flush jobs in the queue. -/
def outstanding (d : Dispatcher J H) : Nat :=
  d.watch.watcher.timers.length + d.queuedFlushes

/-- Neither is flushing called off nor the executor asked to stop. -/
def IsLive (d : Dispatcher J H) : Prop :=
  d.watch.watcher.cancelled = false ∧ d.executor.stopRequested = false

/-- Whether a move takes the waiting edits: a flush of the host, and the step of the executor in
which it runs a flush job. -/
def takesEdits (d : Dispatcher J H) : Move J → Bool
  | .flush => true
  | .poll => d.executor.isRunning && d.executor.started && d.executor.queue.head?.any Message.isFlush
  | _ => false

end Dispatcher

/-- A dispatcher under observation. -/
structure Observation (J H : Type) where
  dispatcher : Dispatcher J H
  /-- The time at which a waiting edit was first reported since edits were last taken. -/
  since : WatchedEdit → Nat := fun _ => 0
  /-- The deadline of the timer that was started last: it is still alive, or it has called for the
  flush that is on its way. -/
  deadline : Nat := 0

namespace Observation

variable {J H : Type}

/-- What waits in the observed dispatcher. -/
def pending (o : Observation J H) : List WatchedEdit :=
  o.dispatcher.watch.watcher.queue.pending

/-- Since when the edits wait after a move. A flush takes all of them before it saves the first
one, so what waits after it was reported in the meantime. -/
def sinceAfter (o : Observation J H) (move : Move J) (d : Dispatcher J H) : WatchedEdit → Nat :=
  fun edit =>
    if o.dispatcher.takesEdits move || !o.pending.contains edit then d.watch.watcher.clock
    else o.since edit

/-- The observation after a move. -/
def after (o : Observation J H) (move : Move J) (d : Dispatcher J H) : Observation J H where
  dispatcher := d
  since := o.sinceAfter move d
  deadline := d.watch.watcher.lastDeadline o.deadline

/-- The observations along the moves from a new dispatcher. -/
inductive Follows (c : Collaborators H) (jobs : HostJobs J H) (options : WatcherOptions)
    (site : Site H) : Observation J H → Prop where
  | here : Follows c jobs options site { dispatcher := .begun options site }
  | step {o : Observation J H} {d : Dispatcher J H} (move : Move J) :
      Follows c jobs options site o → o.dispatcher.make c jobs move = some d →
        Follows c jobs options site (o.after move d)

/-- The observation after several moves, if all of them are possible. -/
def along (c : Collaborators H) (jobs : HostJobs J H) :
    List (Move J) → Observation J H → Option (Observation J H)
  | [], o => some o
  | move :: moves, o =>
    match o.dispatcher.make c jobs move with
    | none => none
    | some d => along c jobs moves (o.after move d)

theorem Follows.along {c : Collaborators H} {jobs : HostJobs J H} {options : WatcherOptions}
    {site : Site H} {moves : List (Move J)} :
    ∀ {o p : Observation J H}, o.Follows c jobs options site → o.along c jobs moves = some p →
      p.Follows c jobs options site := by
  induction moves with
  | nil =>
    intro o p ho h
    cases h
    exact ho
  | cons move moves ih =>
    intro o p ho h
    simp only [Observation.along] at h
    split at h
    · cases h
    · rename_i hmake
      exact ih (.step move ho hmake) h

end Observation

/-- Every state that moves lead to is observed. -/
theorem Dispatcher.Reaches.exists_follows {J H : Type} {c : Collaborators H} {jobs : HostJobs J H}
    {options : WatcherOptions} {site : Site H} {d : Dispatcher J H}
    (h : Dispatcher.Reaches c jobs (.begun options site) d) :
    ∃ o : Observation J H, o.Follows c jobs options site ∧ o.dispatcher = d := by
  induction h with
  | here => exact ⟨_, .here, rfl⟩
  | step move _ hmake ih =>
    obtain ⟨o, ho, rfl⟩ := ih
    exact ⟨_, .step move ho hmake, rfl⟩

/-! ### Steps of the executor and of timers -/

namespace Dispatcher

variable {J H : Type}

theorem queuedFlushes_append {d : Dispatcher J H} (queue : List (Message (Job J)))
    (hqueue : d.executor.queue = queue ++ [.run .flush]) :
    d.queuedFlushes = queue.countP Message.isFlush + 1 := by
  simp [queuedFlushes, hqueue, Message.isFlush]

theorem queuedFlushes_append_other {d : Dispatcher J H} {message : Message (Job J)}
    (hmessage : message.isFlush = false) :
    queuedFlushes { d with
      executor := { d.executor with queue := d.executor.queue ++ [message] } } =
        d.queuedFlushes := by
  simp [queuedFlushes, hmessage]

/-- The watcher, whether the executor stops and the queued flushes are the same in two states. -/
structure SameFlushing (d e : Dispatcher J H) : Prop where
  watcher : e.watch.watcher = d.watch.watcher
  stopRequested : e.executor.stopRequested = d.executor.stopRequested
  exited : e.executor.exited = d.executor.exited
  queuedFlushes : e.queuedFlushes = d.queuedFlushes

theorem sameFlushing_filesChanged (c : Collaborators H) (d : Dispatcher J H)
    (events : List FileEvent) :
    SameFlushing d { d with watch := (d.watch.filesChanged c events).2 } := by
  have hadvance : (d.watch.advanceStructure c events).watcher = d.watch.watcher := by
    unfold WatcherState.advanceStructure
    split <;> rfl
  refine ⟨?_, rfl, rfl, rfl⟩
  simp only [WatcherState.filesChanged]
  split <;> exact hadvance

theorem sameFlushing_submit (d : Dispatcher J H) (job : Job J)
    (hjob : Message.isFlush (.run job) = false) : SameFlushing d (d.submit job).2 := by
  cases hexited : d.executor.exited with
  | true =>
    rw [submit_of_exited job hexited]
    exact ⟨rfl, rfl, rfl, rfl⟩
  | false =>
    rw [submit_of_not_exited job hexited]
    exact ⟨rfl, rfl, rfl, queuedFlushes_append_other hjob⟩

theorem sameFlushing_rootsChanged (d : Dispatcher J H) : SameFlushing d d.rootsChanged := by
  have hsubmit := sameFlushing_submit d .reload rfl
  unfold rootsChanged
  split <;> rename_i heq <;> rw [heq] at hsubmit <;>
    exact ⟨hsubmit.watcher, hsubmit.stopRequested, hsubmit.exited, hsubmit.queuedFlushes⟩

theorem sameFlushing_barrier (d : Dispatcher J H) : SameFlushing d d.barrier.2 := by
  cases hexited : d.executor.exited with
  | true =>
    simp only [barrier, Executor.barrier, hexited, ↓reduceIte]
    exact ⟨rfl, rfl, hexited.symm, rfl⟩
  | false =>
    refine ⟨rfl, ?_, ?_, ?_⟩
    · simp [barrier, Executor.barrier, hexited]
    · simp [barrier, Executor.barrier, hexited]
    · simp [barrier, Executor.barrier, hexited, queuedFlushes, Message.isFlush]

/-- Jobs of the host never submit a flush. -/
theorem countP_isFlush_host (jobs : List J) :
    (jobs.map fun job => Message.run (Job.host job)).countP Message.isFlush = 0 := by
  simp [List.countP_eq_zero, Message.isFlush]

/-- A job other than a flush leaves the watcher alone and calls for no flush. -/
theorem perform_of_ne_flush (c : Collaborators H) (jobs : HostJobs J H) {job : Job J}
    (h : Message.isFlush (.run job) = false) (s : WatcherState H) :
    (perform c jobs job s).2.watcher = s.watcher ∧
      ((perform c jobs job s).1.submissions.map Message.run).countP Message.isFlush = 0 := by
  cases job with
  | reload => exact ⟨rfl, rfl⟩
  | flush => cases h
  | host job =>
    refine ⟨rfl, ?_⟩
    rw [perform, List.map_map]
    exact countP_isFlush_host (jobs job s.site).1.submissions

end Dispatcher

/-! ### Observations -/

namespace Observation

variable {J H : Type}

/-- The watcher that is observed. -/
def watcher (o : Observation J H) : Watcher :=
  o.dispatcher.watch.watcher

/-- The invariant of observations. -/
structure Sound (o : Observation J H) : Prop where
  timely : o.dispatcher.IsLive →
    o.watcher.Timely o.dispatcher.queuedFlushes o.deadline o.since
  settled : o.watcher.lastDeadline o.deadline = o.deadline
  stopped : o.dispatcher.executor.exited = true → o.dispatcher.executor.stopRequested = true

theorem Sound.not_exited {o : Observation J H} (h : o.Sound) (hlive : o.dispatcher.IsLive) :
    o.dispatcher.executor.exited = false := by
  cases hexited : o.dispatcher.executor.exited with
  | false => rfl
  | true => exact absurd (h.stopped hexited) (by simp [hlive.2])

theorem sinceAfter_of_not_takes (o : Observation J H) {move : Move J} {d : Dispatcher J H}
    (h : o.dispatcher.takesEdits move = false) :
    o.sinceAfter move d = fun edit =>
      if !o.watcher.queue.pending.contains edit then d.watch.watcher.clock else o.since edit := by
  funext edit
  simp only [sinceAfter, h, Bool.false_or]
  rfl

theorem sinceAfter_of_takes (o : Observation J H) {move : Move J} {d : Dispatcher J H}
    (h : o.dispatcher.takesEdits move = true) :
    o.sinceAfter move d = fun _ => d.watch.watcher.clock := by
  funext edit
  simp only [sinceAfter, h, Bool.true_or, ↓reduceIte]

section Moves

variable {c : Collaborators H} {jobs : HostJobs J H} {o : Observation J H} {move : Move J}
  {d : Dispatcher J H}

/-- A move that neither touches the watcher nor queues or takes a flush. -/
theorem Sound.timely_of_same (h : o.Sound) (hlive : o.dispatcher.IsLive)
    (hwatcher : d.watch.watcher = o.watcher)
    (hqueued : d.queuedFlushes = o.dispatcher.queuedFlushes)
    (htakes : o.dispatcher.takesEdits move = false) :
    d.watch.watcher.Timely d.queuedFlushes o.deadline (o.sinceAfter move d) := by
  rw [sinceAfter_of_not_takes o htakes, hwatcher, hqueued]
  exact (h.timely hlive).refresh

theorem Sound.timely_of_sameFlushing (h : o.Sound) (hlive : d.IsLive)
    (hsame : Dispatcher.SameFlushing o.dispatcher d)
    (htakes : o.dispatcher.takesEdits move = false) :
    d.watch.watcher.Timely d.queuedFlushes o.deadline (o.sinceAfter move d) :=
  h.timely_of_same ⟨hsame.watcher ▸ hlive.1, hsame.stopRequested ▸ hlive.2⟩ hsame.watcher
    hsame.queuedFlushes htakes

/-- A move in which edits are reported. -/
theorem Sound.timely_of_timelyAt (hlive : d.IsLive)
    (hqueued : d.queuedFlushes = o.dispatcher.queuedFlushes)
    (htakes : o.dispatcher.takesEdits move = false)
    (hat : d.watch.watcher.TimelyAt o.watcher.clock o.dispatcher.queuedFlushes o.deadline fun edit =>
      if !o.watcher.queue.pending.contains edit then o.watcher.clock else o.since edit) :
    d.watch.watcher.Timely d.queuedFlushes o.deadline (o.sinceAfter move d) := by
  rw [sinceAfter_of_not_takes o htakes, hqueued, hat.1]
  exact hat.2 hlive.1

/-- A move that leaves nothing waiting but what was reported in it. -/
theorem Sound.timely_of_take {queued : Nat} (hlive : d.IsLive) (hqueued : d.queuedFlushes = queued)
    (htakes : o.dispatcher.takesEdits move = true)
    (hat : d.watch.watcher.TimelyAt o.watcher.clock queued o.deadline fun _ => o.watcher.clock) :
    d.watch.watcher.Timely d.queuedFlushes o.deadline (o.sinceAfter move d) := by
  rw [sinceAfter_of_takes o htakes, hqueued, hat.1]
  exact hat.2 hlive.1

theorem Sound.timely_documentChanged (h : o.Sound) (document : DocumentId)
    (hlive : Dispatcher.IsLive { o.dispatcher with
      watch := (o.dispatcher.watch.documentChanged c document).2 }) :
    Watcher.Timely o.dispatcher.queuedFlushes o.deadline
      (o.sinceAfter (.documentChanged document) { o.dispatcher with
        watch := (o.dispatcher.watch.documentChanged c document).2 })
      (o.dispatcher.watch.documentChanged c document).2.watcher :=
  timely_of_timelyAt hlive rfl rfl <|
    WatcherState.documentChanged_keeps c (Watcher.TimelyAt.keptBySaving ..) document _
      ⟨rfl, fun hbefore => (h.timely ⟨hbefore, hlive.2⟩).refresh⟩

theorem Sound.timely_flush (h : o.Sound)
    (hlive : Dispatcher.IsLive { o.dispatcher with watch := (o.dispatcher.watch.flush c).2 }) :
    Watcher.Timely o.dispatcher.queuedFlushes o.deadline
      (o.sinceAfter .flush { o.dispatcher with watch := (o.dispatcher.watch.flush c).2 })
      (o.dispatcher.watch.flush c).2.watcher :=
  timely_of_take hlive rfl rfl <|
    WatcherState.flush_keeps c (Watcher.TimelyAt.keptBySaving ..) _
      ⟨rfl, fun hbefore => (h.timely ⟨hbefore, hlive.2⟩).take⟩

theorem Sound.timely_wait (h : o.Sound) (milliseconds : Nat)
    (hlive : (o.dispatcher.wait milliseconds).IsLive) :
    Watcher.Timely o.dispatcher.queuedFlushes o.deadline
      (o.sinceAfter (.wait milliseconds) (o.dispatcher.wait milliseconds))
      (o.dispatcher.wait milliseconds).watch.watcher := by
  rw [sinceAfter_of_not_takes o rfl]
  exact (h.timely hlive).wait milliseconds

theorem Sound.timely_expire (h : o.Sound) {index : Nat} (hmake : o.dispatcher.expire index = some d)
    (hlive : d.IsLive) :
    d.watch.watcher.Timely d.queuedFlushes o.deadline (o.sinceAfter (.expire index) d) := by
  obtain ⟨timer, htimer, -, rfl⟩ := Dispatcher.expire_cases hmake
  rw [sinceAfter_of_not_takes o rfl]
  exact (h.timely hlive).refresh.expire htimer

theorem Sound.timely_deliver (h : o.Sound) {index : Nat}
    (hmake : o.dispatcher.deliver index = some d) (hlive : d.IsLive) :
    d.watch.watcher.Timely d.queuedFlushes o.deadline (o.sinceAfter (.deliver index) d) := by
  obtain ⟨timer, htimer, -, ⟨hexited, rfl⟩ | ⟨hexited, rfl⟩⟩ := Dispatcher.deliver_cases hmake
  · rw [sinceAfter_of_not_takes o rfl, Dispatcher.queuedFlushes_append _ rfl]
    exact (h.timely hlive).refresh.deliver h.settled htimer
  · exact absurd (h.not_exited hlive) (by simp [hexited])

/-- The step of the executor that runs a flush job: the flag is lowered and the edits are taken
before any of them is saved. -/
theorem Sound.timely_runFlush (h : o.Sound) {queue : List (Message (Job J))}
    (hqueue : o.dispatcher.executor.queue = .run .flush :: queue)
    (hstop : o.dispatcher.executor.stopRequested = false) :
    (Dispatcher.perform c jobs .flush o.dispatcher.watch).2.watcher.TimelyAt o.watcher.clock
      (queue.countP Message.isFlush) o.deadline fun _ => o.watcher.clock := by
  have hqueued : o.dispatcher.queuedFlushes = queue.countP Message.isFlush + 1 := by
    rw [Dispatcher.queuedFlushes, hqueue, List.countP_cons_of_pos rfl]
  refine WatcherState.flush_keeps c (Watcher.TimelyAt.keptBySaving ..) _ ⟨rfl, fun hbefore => ?_⟩
  have htimely := h.timely ⟨hbefore, hstop⟩
  rw [hqueued] at htimely
  exact htimely.run

/-- A step of the executor that runs another job. -/
theorem Sound.timely_runOther (h : o.Sound) {job : Job J} {queue : List (Message (Job J))}
    (hqueue : o.dispatcher.executor.queue = .run job :: queue)
    (hother : Message.isFlush (.run job) = false)
    (hlive : o.dispatcher.IsLive) (hwatcher : d.watch.watcher = o.watcher)
    (hafter : d.executor.queue =
      queue ++ (Dispatcher.perform c jobs job o.dispatcher.watch).1.submissions.map .run) :
    d.watch.watcher.Timely d.queuedFlushes o.deadline (o.sinceAfter .poll d) := by
  have hsubmitted := (Dispatcher.perform_of_ne_flush c jobs hother o.dispatcher.watch).2
  refine h.timely_of_same hlive hwatcher ?_ ?_
  · simp [Dispatcher.queuedFlushes, hqueue, hafter, hother, hsubmitted]
  · simp [Dispatcher.takesEdits, hqueue, hother]

theorem Sound.timely_poll (h : o.Sound) (hmake : o.dispatcher.poll c jobs = some d)
    (hlive : d.IsLive) :
    d.watch.watcher.Timely d.queuedFlushes o.deadline (o.sinceAfter .poll d) := by
  unfold Dispatcher.poll at hmake
  split at hmake <;> cases hmake
  rename_i executor watch hpoll
  obtain ⟨hexited, ⟨hstarted, rfl, rfl⟩ | ⟨-, hstop, rfl, rfl⟩ | ⟨hstarted, hstop, hrest⟩⟩ :=
    Executor.poll_cases hpoll
  · exact h.timely_of_same hlive rfl rfl (by simp [Dispatcher.takesEdits, hstarted])
  · exact absurd (hstop.symm.trans hlive.2) (by simp)
  obtain ⟨ticket, queue, hqueue, rfl, rfl⟩ | ⟨job, queue, hqueue, rfl, hwatch⟩ := hrest
  · refine h.timely_of_same ⟨hlive.1, hstop⟩ rfl ?_ ?_
    · simp [Dispatcher.queuedFlushes, hqueue, Message.isFlush]
    · simp [Dispatcher.takesEdits, hqueue, Message.isFlush]
  -- A job that breaks down is noted in the journal; the watcher is the same either way.
  have hwatcher : watch.watcher = (Dispatcher.perform c jobs job o.dispatcher.watch).2.watcher := by
    rcases hwatch with rfl | rfl <;> rfl
  have hafter := Executor.submitAll_of_not_exited
    (Dispatcher.perform c jobs job o.dispatcher.watch).1.submissions
    { o.dispatcher.executor with queue := queue } hexited
  cases hflush : Message.isFlush (.run job) with
  | false =>
    have hsame := (Dispatcher.perform_of_ne_flush c jobs hflush o.dispatcher.watch).1
    refine h.timely_runOther hqueue hflush ⟨?_, hstop⟩ (hwatcher.trans hsame) (by rw [hafter])
    rw [← hsame, ← hwatcher]
    exact hlive.1
  | true =>
    obtain rfl : job = .flush := by
      cases job <;> simp_all [Message.isFlush]
    refine timely_of_take hlive rfl ?_ ?_
    · simp [Dispatcher.takesEdits, Executor.isRunning, hexited, hstarted, hstop, hqueue,
        Message.isFlush]
    · rw [hwatcher]
      exact h.timely_runFlush hqueue hstop

/-- The invariant holds after a move, unless the move calls flushing off or asks the executor to
stop. -/
theorem Sound.timely_make (h : o.Sound) (hmake : o.dispatcher.make c jobs move = some d)
    (hlive : d.IsLive) :
    d.watch.watcher.Timely d.queuedFlushes o.deadline (o.sinceAfter move d) := by
  cases move with
  | filesChanged events =>
    cases hmake
    exact h.timely_of_sameFlushing hlive (Dispatcher.sameFlushing_filesChanged c _ events) rfl
  | documentChanged document =>
    cases hmake
    exact h.timely_documentChanged document hlive
  | rootsChanged =>
    cases hmake
    exact h.timely_of_sameFlushing hlive (Dispatcher.sameFlushing_rootsChanged _) rfl
  | flush =>
    cases hmake
    exact h.timely_flush hlive
  | submit job =>
    cases hmake
    exact h.timely_of_sameFlushing hlive (Dispatcher.sameFlushing_submit _ _ rfl) rfl
  | barrier =>
    cases hmake
    exact h.timely_of_sameFlushing hlive (Dispatcher.sameFlushing_barrier _) rfl
  | requestStop =>
    cases hmake
    exact absurd hlive.2 (by simp [Dispatcher.requestStop, Executor.requestStop])
  | cancel =>
    cases hmake
    exact absurd hlive.1 (by simp [Dispatcher.cancel, Dispatcher.mapWatcher, Watcher.cancel])
  | wait milliseconds =>
    cases hmake
    exact h.timely_wait milliseconds hlive
  | expire index => exact h.timely_expire hmake hlive
  | deliver index => exact h.timely_deliver hmake hlive
  | abandon index =>
    obtain ⟨hcancelled, rfl⟩ := Dispatcher.abandon_cases hmake
    exact absurd (hcancelled.symm.trans hlive.1) (by simp)
  | poll => exact h.timely_poll hmake hlive

end Moves

end Observation

/-! ### Every sequence of moves -/

theorem Executor.exited_poll {J σ : Type} {perform : J → σ → JobRun J × σ} {note : Entry → σ → σ}
    {executor next : Executor J} {s t : σ} (h : executor.poll perform note s = some (next, t)) :
    next.exited = true → next.stopRequested = true := by
  obtain ⟨hexited, ⟨-, rfl, -⟩ | ⟨-, hstop, rfl, -⟩ | ⟨-, -, hrest⟩⟩ := poll_cases h
  · exact fun hout => absurd hout (by simp [hexited])
  · exact fun _ => hstop
  obtain ⟨ticket, queue, -, rfl, -⟩ | ⟨job, queue, -, rfl, -⟩ := hrest
  · exact fun hout => absurd hout (by simp [hexited])
  · rw [submitAll_of_not_exited _ { executor with queue := queue } hexited]
    exact fun hout => absurd hout (by simp [hexited])

namespace Observation

variable {J H : Type} {c : Collaborators H} {jobs : HostJobs J H} {o : Observation J H}
  {move : Move J} {d : Dispatcher J H} {options : WatcherOptions} {site : Site H}

theorem Sound.stopped_of_same (h : o.Sound)
    (hexited : d.executor.exited = o.dispatcher.executor.exited)
    (hstop : d.executor.stopRequested = o.dispatcher.executor.stopRequested) :
    d.executor.exited = true → d.executor.stopRequested = true := by
  rw [hexited, hstop]
  exact h.stopped

/-- The executor leaves only where it was asked to stop. -/
theorem Sound.stopped_make (h : o.Sound) (hmake : o.dispatcher.make c jobs move = some d) :
    d.executor.exited = true → d.executor.stopRequested = true := by
  cases move with
  | filesChanged events =>
    cases hmake
    exact h.stopped
  | documentChanged document =>
    cases hmake
    exact h.stopped
  | rootsChanged =>
    cases hmake
    have hsame := Dispatcher.sameFlushing_rootsChanged o.dispatcher
    exact h.stopped_of_same hsame.exited hsame.stopRequested
  | flush =>
    cases hmake
    exact h.stopped
  | submit job =>
    cases hmake
    have hsame := Dispatcher.sameFlushing_submit o.dispatcher (.host job) rfl
    exact h.stopped_of_same hsame.exited hsame.stopRequested
  | barrier =>
    cases hmake
    have hsame := Dispatcher.sameFlushing_barrier o.dispatcher
    exact h.stopped_of_same hsame.exited hsame.stopRequested
  | requestStop =>
    cases hmake
    exact fun _ => rfl
  | cancel =>
    cases hmake
    exact h.stopped
  | wait milliseconds =>
    cases hmake
    exact h.stopped
  | expire index =>
    obtain ⟨timer, -, -, rfl⟩ := Dispatcher.expire_cases hmake
    exact h.stopped
  | deliver index =>
    obtain ⟨timer, -, -, ⟨-, rfl⟩ | ⟨-, rfl⟩⟩ := Dispatcher.deliver_cases hmake <;> exact h.stopped
  | abandon index =>
    obtain ⟨-, rfl⟩ := Dispatcher.abandon_cases hmake
    exact h.stopped
  | poll =>
    simp only [Dispatcher.make, Dispatcher.poll] at hmake
    split at hmake <;> cases hmake
    rename_i hpoll
    exact Executor.exited_poll hpoll

/-- One move keeps the invariant. -/
theorem Sound.after (h : o.Sound) (hmake : o.dispatcher.make c jobs move = some d) :
    (o.after move d).Sound where
  timely hlive := (h.timely_make hmake hlive).settle
  settled := Watcher.lastDeadline_lastDeadline o.deadline d.watch.watcher
  stopped := h.stopped_make hmake

/-- At first no edit waits and no flush is on its way. -/
theorem sound_begun (options : WatcherOptions) (site : Site H) :
    ({ dispatcher := .begun options site } : Observation J H).Sound where
  timely _ :=
    { single := rfl
      waiting := fun hne => absurd rfl hne
      soon := fun hno => by cases hno
      due := fun hno => by cases hno
      idle := fun _ _ => Nat.le_refl 0 }
  settled := rfl
  stopped hno := by cases hno

theorem Follows.sound (h : o.Follows c jobs options site) : o.Sound := by
  induction h with
  | here => exact sound_begun options site
  | step move _ hmake ih => exact ih.after hmake

/-- The invariant holds after every sequence of moves. -/
theorem Follows.timely (h : o.Follows c jobs options site) (hlive : o.dispatcher.IsLive) :
    o.watcher.Timely o.dispatcher.queuedFlushes o.deadline o.since :=
  h.sound.timely hlive

/-- Every timer that is alive has the observed deadline: there is at most one. -/
theorem Sound.deadline_eq (h : o.Sound) (hlive : o.dispatcher.IsLive) {timer : Timer}
    (htimer : timer ∈ o.watcher.timers) : timer.deadline = o.deadline := by
  have hsingle := (h.timely hlive).single
  have hle := o.watcher.queue.armed.toNat_le
  obtain ⟨only, honly⟩ : ∃ only, o.watcher.timers = [only] := by
    refine List.length_eq_one_iff.mp ?_
    have := List.length_pos_of_mem htimer
    omega
  obtain rfl : timer = only := by simpa [honly] using htimer
  rw [← h.settled]
  simp [Watcher.lastDeadline, honly]

end Observation

/-- The flag is up exactly while one flush is on its way, and there is never a second one. -/
theorem Dispatcher.outstanding_of_timely {J H : Type} {d : Dispatcher J H} {known : Nat}
    {since : WatchedEdit → Nat} (h : d.watch.watcher.Timely d.queuedFlushes known since) :
    (d.watch.watcher.queue.armed = true ↔ d.outstanding = 1) ∧ d.outstanding ≤ 1 := by
  have hsingle : d.outstanding = d.watch.watcher.queue.armed.toNat := h.single
  rw [hsingle]
  cases d.watch.watcher.queue.armed <;> decide

end SchemaEngine
