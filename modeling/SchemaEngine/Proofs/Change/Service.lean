import SchemaEngine.Proofs.Change.Record

/-!
# An executor at work

A job takes time. While it runs, it and everybody else may submit further jobs, put up barriers, ask
the executor to stop and change what jobs work on. A service is an executor with its ledger and with
the job that it is at; a step of the executor only begins the next job, and the job ends by an act
of its own. So the acts of the executor and of those around it come in any order.

## Main definitions

* `Service`: an executor at work.
* `Service.Act`, `Service.make`: what may happen, and the service after it.
* `Service.along`: the service after several acts.
* `Service.stretch`: the acts of a whole step of the executor.
* `Service.Sound`: the invariant.

## Main results

* `Service.Sound.make`: an act keeps the invariant.
* `Service.along_stretch`: a whole step of the executor, with the job that it runs, is a stretch of
  acts.
* `Executor.map_fst_poll_congr`: what a job does but submit makes no difference to the executor.
* `Service.along_calm`: which jobs break down makes no difference to the executor.
* `executor_fifo_clean_stop`: jobs are started in the order of their acceptance, one at a time, and
  none after a stop was requested; barriers are released behind the jobs before them, or by the
  executor that leaves.
-/

set_option autoImplicit false

namespace SchemaEngine

variable {J σ : Type}

/-! ### Barriers in turn -/

namespace Executor

variable {executor next : Executor J}

@[simp] theorem waiting_append (queue further : List (Message J)) :
    waiting (queue ++ further) = waiting queue ++ waiting further :=
  List.filterMap_append

@[simp] theorem waiting_map_run (jobs : List J) : waiting (jobs.map .run) = [] := by
  simp [waiting]

/-- Barriers are released in the order in which they were put up, and none is forgotten. -/
def InTurn (executor : Executor J) : Prop :=
  executor.released ++ waiting executor.queue = List.range executor.tickets

theorem InTurn.submit (h : executor.InTurn) (job : J) : (executor.submit job).2.InTurn := by
  cases hexited : executor.exited with
  | true => rwa [submit_of_exited job hexited]
  | false =>
    rw [submit_of_not_exited job hexited]
    simpa [InTurn, waiting] using h

theorem InTurn.barrier (h : executor.InTurn)
    (hleft : executor.exited = true → executor.queue = []) : executor.barrier.2.InTurn := by
  unfold InTurn at h
  cases hexited : executor.exited with
  | true =>
    rw [hleft hexited] at h
    simpa [InTurn, Executor.barrier, hexited, hleft hexited, waiting, List.range_succ] using h
  | false => simp [InTurn, Executor.barrier, hexited, List.range_succ, ← h, waiting]

theorem InTurn.poll {perform : J → σ → JobRun J × σ} {note : Entry → σ → σ} {s t : σ}
    (h : executor.InTurn) (hpoll : executor.poll perform note s = some (next, t)) :
    next.InTurn := by
  unfold InTurn at h
  obtain ⟨hopen, ⟨-, rfl, -⟩ | ⟨-, -, rfl, -⟩ | ⟨-, -, hhead⟩⟩ := poll_cases hpoll
  · exact h
  · simpa [InTurn, exit, waiting] using h
  obtain ⟨ticket, queue, hqueue, rfl, -⟩ | ⟨job, queue, hqueue, rfl, -⟩ := hhead
  · rw [hqueue] at h
    simpa [InTurn, waiting] using h
  · rw [hqueue] at h
    rw [submitAll_of_not_exited _ { executor with queue := queue } hopen]
    simp only [InTurn, waiting_append, waiting_map_run, List.append_nil]
    exact h

/-- A step that runs no job does nothing to the state but note it, wherever the notes are kept. -/
theorem poll_of_next?_eq_none {τ : Type} {executor : Executor J} (hnext : executor.next? = none)
    (perform : J → σ → JobRun J × σ) (perform' : J → τ → JobRun J × τ) {note : Entry → σ → σ}
    {note' : Entry → τ → τ} (f : σ → τ) (hnote : ∀ entry s, f (note entry s) = note' entry (f s))
    (s : σ) :
    executor.poll perform' note' (f s) =
      (executor.poll perform note s).map fun (next, after) => (next, f after) := by
  unfold poll
  split
  · rfl
  split
  · simp [hnote]
  split
  · simp [hnote]
  cases hqueue : executor.queue with
  | nil => rfl
  | cons message queue =>
    cases message with
    | barrier ticket => rfl
    | run job => simp_all [next?, isRunning]

/-- To the executor it makes no difference what the job does that its step runs, beyond what that
submits: not on which state it works, and not whether it breaks down. -/
theorem map_fst_poll_congr {τ : Type} (executor : Executor J) {perform : J → σ → JobRun J × σ}
    {perform' : J → τ → JobRun J × τ} (note : Entry → σ → σ) (note' : Entry → τ → τ) {s : σ} {t : τ}
    (h : executor.submissions perform s = executor.submissions perform' t) :
    (executor.poll perform note s).map Prod.fst =
      (executor.poll perform' note' t).map Prod.fst := by
  cases hnext : executor.next? with
  | some job =>
    obtain ⟨queue, hqueue, hopen, hstarted, hgoing⟩ := next?_eq_some hnext
    simp only [submissions, hnext] at h
    simp only [poll_of_head hqueue hopen hstarted hgoing, Option.map_some, h]
  | none =>
    -- No job is run, so both steps are that of an executor that works on nothing.
    let nothing : Option (Executor J × Unit) :=
      executor.poll (fun _ _ => ({}, ())) (fun _ _ => ()) ()
    have hstep : nothing = (executor.poll perform note s).map fun (next, _) => (next, ()) :=
      poll_of_next?_eq_none hnext perform _ (fun _ => ()) (fun _ _ => rfl) s
    have hstep' : nothing = (executor.poll perform' note' t).map fun (next, _) => (next, ()) :=
      poll_of_next?_eq_none hnext perform' _ (fun _ => ()) (fun _ _ => rfl) t
    have hsame := congrArg (Option.map Prod.fst) (hstep.symm.trans hstep')
    rwa [Option.map_map, Option.map_map] at hsame

/-- The step that runs a job releases no barrier. -/
theorem released_poll {perform : J → σ → JobRun J × σ} {note : Entry → σ → σ} {s t : σ} {job : J}
    (hpoll : executor.poll perform note s = some (next, t)) (hnext : executor.next? = some job) :
    next.released = executor.released := by
  obtain ⟨hopen, ⟨hidle, -, -⟩ | ⟨-, hstop, -, -⟩ | ⟨-, -, hhead⟩⟩ := poll_cases hpoll
  · simp [next?, hidle] at hnext
  · simp [next?, isRunning, hstop] at hnext
  obtain ⟨ticket, queue, hqueue, -, -⟩ | ⟨job, queue, -, rfl, -⟩ := hhead
  · simp [next?, hqueue] at hnext
  · rw [submitAll_of_not_exited _ { executor with queue := queue } hopen]

end Executor

/-! ### Acts -/

/-- An executor at work. -/
structure Service (J σ : Type) where
  ledger : Ledger J := {}
  /-- What jobs and others work on. -/
  state : σ
  /-- The job that was begun and has not ended. -/
  running : Option J := none
  /-- The jobs that have ended, in order. -/
  finished : List J := []

namespace Service

/-- What may happen to an executor at work. -/
inductive Act (J σ : Type) where
  /-- Somebody submits a job; it may be the running job. -/
  | submit (job : J)
  /-- Somebody waits at a barrier. -/
  | barrier
  /-- Somebody asks the executor to stop. -/
  | requestStop
  /-- Somebody changes the state; it may be the running job. -/
  | change (f : σ → σ)
  /-- The executor makes its next step. -/
  | step
  /-- The running job ends. -/
  | finish (outcome : Outcome)

/-- The executor of a service. -/
def executor (s : Service J σ) : Executor J :=
  s.ledger.executor

/-- A job is begun and does nothing yet. -/
def takeUp (job : J) (s : Option J × σ) : JobRun J × Option J × σ :=
  ({}, some job, s.2)

/-- A step of the executor, which is at no job. -/
def step (note : Entry → σ → σ) (s : Service J σ) : Option (Service J σ) :=
  match s.running with
  | some _ => none
  | none =>
    (s.executor.poll takeUp (fun entry s => (s.1, note entry s.2)) (none, s.state)).map
      fun (executor, running, state) =>
        { s with
          ledger := s.ledger.polled takeUp (none, s.state) executor
          state := state
          running := running }

/-- The running job ends; if it breaks down this is noted. -/
def finish (note : Entry → σ → σ) (outcome : Outcome) (s : Service J σ) : Option (Service J σ) :=
  s.running.map fun job =>
    { s with
      running := none
      finished := s.finished ++ [job]
      state :=
        match outcome with
        | .finished => s.state
        | .crashed => note .jobFailed s.state }

/-- The service after an act, if the act is possible. -/
def make (note : Entry → σ → σ) (act : Act J σ) (s : Service J σ) : Option (Service J σ) :=
  match act with
  | .submit job => some { s with ledger := s.ledger.submit job }
  | .barrier => some { s with ledger := s.ledger.barrier }
  | .requestStop => some { s with ledger := s.ledger.requestStop }
  | .change f => some { s with state := f s.state }
  | .step => s.step note
  | .finish outcome => s.finish note outcome

/-- The service after several acts, if all of them are possible. -/
def along (note : Entry → σ → σ) : List (Act J σ) → Service J σ → Option (Service J σ)
  | [], s => some s
  | act :: acts, s =>
    match s.make note act with
    | none => none
    | some t => along note acts t

variable {note : Entry → σ → σ} {act : Act J σ} {acts : List (Act J σ)} {s t : Service J σ}

/-- The steps of an executor that is at no job. -/
theorem step_cases (h : s.step note = some t) :
    s.running = none ∧ ∃ executor running state,
      s.executor.poll takeUp (fun entry s => (s.1, note entry s.2)) (none, s.state) =
        some (executor, running, state) ∧
      t = { s with
        ledger := s.ledger.polled takeUp (none, s.state) executor
        state := state
        running := running } := by
  unfold step at h
  split at h
  · cases h
  rename_i hidle
  obtain ⟨⟨executor, running, state⟩, hpoll, rfl⟩ := Option.map_eq_some_iff.mp h
  exact ⟨hidle, executor, running, state, hpoll, rfl⟩

/-- What a step begins is the job that comes next. -/
theorem running_of_poll {executor : Executor J} {running : Option J} {state : σ}
    (h : s.executor.poll takeUp (fun entry s => (s.1, note entry s.2)) (none, s.state) =
      some (executor, running, state)) : running = s.executor.next? := by
  obtain ⟨hopen, ⟨hidle, -, hstate⟩ | ⟨-, hstop, -, hstate⟩ | ⟨hstarted, hgoing, hhead⟩⟩ :=
    Executor.poll_cases h
  · cases hstate
    simp [Executor.next?, hidle]
  · cases hstate
    simp [Executor.next?, Executor.isRunning, hstop]
  obtain ⟨ticket, queue, hqueue, -, hstate⟩ | ⟨job, queue, hqueue, -, hstate⟩ := hhead
  · cases hstate
    simp [Executor.next?, hqueue]
  · have hrunning : running = some job := by
      rcases hstate with hstate | hstate <;> exact congrArg Prod.fst hstate
    simp [Executor.next?, Executor.isRunning, hstarted, hgoing, hopen, hqueue, hrunning]

/-- The ended jobs and the running one. -/
theorem finish_cases {outcome : Outcome} (h : s.finish note outcome = some t) :
    ∃ job state, s.running = some job ∧
      t = { s with running := none, finished := s.finished ++ [job], state := state } := by
  obtain ⟨job, hrunning, rfl⟩ := Option.map_eq_some_iff.mp h
  exact ⟨job, _, hrunning, rfl⟩

/-! ### The invariant -/

/-- What is known of an executor at work. -/
structure Sound (s : Service J σ) : Prop where
  ledger : s.ledger.Sound
  inTurn : s.executor.InTurn
  oneByOne : s.ledger.started = s.finished ++ s.running.toList
  released : s.executor.exited = false → ∀ ticket ∈ s.executor.released,
    ∃ mark, s.ledger.marks[ticket]? = some mark ∧ mark ≤ s.finished.length

theorem sound_new (state : σ) : ({ state := state } : Service J σ).Sound where
  ledger := Ledger.sound_new
  inTurn := rfl
  oneByOne := rfl
  released _ _ h := by cases h

theorem Sound.submit (h : s.Sound) (job : J) :
    Sound { s with ledger := s.ledger.submit job } where
  ledger := h.ledger.submit job
  inTurn := h.inTurn.submit job
  oneByOne := h.oneByOne
  released := by
    have hreleased := h.released
    unfold executor at hreleased ⊢
    cases hexited : s.ledger.executor.exited with
    | true => simpa [Ledger.submit, Executor.submit_of_exited job hexited] using hreleased
    | false => simpa [Ledger.submit, Executor.submit_of_not_exited job hexited] using hreleased

theorem Sound.barrier (h : s.Sound) : Sound { s with ledger := s.ledger.barrier } where
  ledger := h.ledger.barrier
  inTurn := h.inTurn.barrier fun hexited => (h.ledger.left hexited).2
  oneByOne := h.oneByOne
  released := by
    have hreleased := h.released
    unfold executor at hreleased ⊢
    cases hexited : s.ledger.executor.exited with
    | true => simp [Ledger.barrier, Executor.barrier, hexited]
    | false =>
      simp only [Ledger.barrier, Executor.barrier, hexited, Bool.false_eq_true, ↓reduceIte]
      intro _ ticket hticket
      obtain ⟨mark, hmark, hle⟩ := hreleased hexited ticket hticket
      refine ⟨mark, ?_, hle⟩
      rw [List.getElem?_append_left (List.getElem?_eq_some_iff.mp hmark).1, hmark]

/-- A step that releases a barrier begins no job, so all started jobs have ended by then. -/
theorem Sound.step (h : s.Sound) (hstep : s.step note = some t) : t.Sound := by
  obtain ⟨hidle, executor, running, state, hpoll, rfl⟩ := step_cases hstep
  have hpolled := h.ledger.poll hpoll
  have hrunning := running_of_poll hpoll
  have hfinished : s.ledger.started = s.finished := by simpa [hidle] using h.oneByOne
  refine ⟨hpolled, h.inTurn.poll hpoll, ?_, fun hopen ticket hticket => ?_⟩
  · rw [Ledger.polled, hfinished, hrunning]
    rfl
  · cases hnext : s.executor.next? with
    | none =>
      have hsame : (s.ledger.polled takeUp (none, s.state) executor).started = s.finished := by
        have hnone : s.ledger.executor.next? = none := hnext
        simp [Ledger.polled, hnone, hfinished]
      rw [← hsame]
      exact hpolled.released hopen ticket hticket
    | some job =>
      have hsame := Executor.released_poll hpoll hnext
      have hold : ticket ∈ s.executor.released := hsame ▸ hticket
      exact h.released (Executor.poll_cases hpoll).1 ticket hold

theorem Sound.finish (h : s.Sound) {outcome : Outcome} (hfinish : s.finish note outcome = some t) :
    t.Sound := by
  obtain ⟨job, state, hrunning, rfl⟩ := finish_cases hfinish
  refine ⟨h.ledger, h.inTurn, ?_, fun hopen ticket hticket => ?_⟩
  · simpa [hrunning] using h.oneByOne
  · obtain ⟨mark, hmark, hle⟩ := h.released hopen ticket hticket
    exact ⟨mark, hmark, Nat.le_trans hle (by simp)⟩

/-- What an act keeps. -/
theorem Sound.make (h : s.Sound) (hmake : s.make note act = some t) : t.Sound := by
  cases act with
  | submit job =>
    cases hmake
    exact h.submit job
  | barrier =>
    cases hmake
    exact h.barrier
  | requestStop =>
    cases hmake
    exact ⟨h.ledger.requestStop, h.inTurn, h.oneByOne, h.released⟩
  | change f =>
    cases hmake
    exact ⟨h.ledger, h.inTurn, h.oneByOne, h.released⟩
  | step => exact h.step hmake
  | finish outcome => exact h.finish hmake

/-! ### What acts add -/

/-- An act only adds to the ledger. -/
theorem extends_make (hmake : s.make note act = some t) : s.ledger.Extends t.ledger := by
  cases act with
  | submit job =>
    cases hmake
    exact .submit job _
  | barrier =>
    cases hmake
    exact .barrier _
  | requestStop =>
    cases hmake
    exact .requestStop _
  | change f =>
    cases hmake
    exact .refl _
  | step =>
    obtain ⟨-, executor, running, state, hpoll, rfl⟩ := step_cases hmake
    exact .polled _ _ _ (Executor.poll_cases hpoll).1
  | finish outcome =>
    obtain ⟨job, state, -, rfl⟩ := finish_cases hmake
    exact .refl _

/-- After a request to stop no act begins a job, and the request stands. -/
theorem started_make (hstop : s.executor.stopRequested = true) (hmake : s.make note act = some t) :
    t.ledger.started = s.ledger.started ∧ t.executor.stopRequested = true := by
  unfold executor at hstop ⊢
  cases act with
  | submit job =>
    cases hmake
    exact ⟨rfl, by simpa [Ledger.stopRequested_submit] using hstop⟩
  | barrier =>
    cases hmake
    refine ⟨rfl, ?_⟩
    cases hexited : s.ledger.executor.exited <;>
      simpa [Ledger.barrier, Executor.barrier, hexited] using hstop
  | requestStop =>
    cases hmake
    exact ⟨rfl, rfl⟩
  | change f =>
    cases hmake
    exact ⟨rfl, hstop⟩
  | step =>
    obtain ⟨-, executor, running, state, hpoll, rfl⟩ := step_cases hmake
    have hnext : s.ledger.executor.next? = none := by
      simp [Executor.next?, Executor.isRunning, hstop]
    exact ⟨by simp [Ledger.polled, hnext], (Executor.stopRequested_poll hpoll).trans hstop⟩
  | finish outcome =>
    obtain ⟨job, state, -, rfl⟩ := finish_cases hmake
    exact ⟨rfl, hstop⟩

/-- What every act keeps is kept by several acts. -/
theorem along_keeps {P : Service J σ → Prop}
    (hmake : ∀ {act s t}, s.make note act = some t → P s → P t) :
    ∀ {acts : List (Act J σ)} {s t : Service J σ}, s.along note acts = some t → P s → P t := by
  intro acts
  induction acts with
  | nil =>
    intro s t h hs
    cases h
    exact hs
  | cons act acts ih =>
    intro s t h hs
    simp only [along] at h
    split at h
    · cases h
    · rename_i hact
      exact ih h (hmake hact hs)

theorem Sound.along (h : s.Sound) (halong : s.along note acts = some t) : t.Sound :=
  along_keeps (fun hmake hs => hs.make hmake) halong h

theorem extends_along (halong : s.along note acts = some t) : s.ledger.Extends t.ledger :=
  along_keeps (P := fun u => s.ledger.Extends u.ledger)
    (fun hmake hu => hu.trans (extends_make hmake)) halong (.refl _)

/-- After a request to stop no job is begun. -/
theorem started_along (hstop : s.executor.stopRequested = true)
    (halong : s.along note acts = some t) : t.ledger.started = s.ledger.started := by
  refine (along_keeps (P := fun u => u.ledger.started = s.ledger.started ∧
    u.executor.stopRequested = true) (fun hmake hu => ?_) halong ⟨rfl, hstop⟩).1
  obtain ⟨hstarted, hstands⟩ := started_make hu.2 hmake
  exact ⟨hstarted.trans hu.1, hstands⟩

/-- The jobs that were accepted before a barrier was put up have ended when it is released, if the
executor has not left. -/
theorem Sound.accepted_of_released (h : t.Sound) (hopen : t.executor.exited = false)
    {accepted : List J} (haccepted : accepted <+: t.ledger.accepted) {ticket : Nat}
    (hmark : t.ledger.marks[ticket]? = some accepted.length)
    (hticket : ticket ∈ t.executor.released) : accepted <+: t.finished := by
  obtain ⟨mark, hmark', hle⟩ := h.released hopen ticket hticket
  obtain rfl : accepted.length = mark := Option.some.inj (hmark.symm.trans hmark')
  have hended : t.finished <+: t.ledger.accepted :=
    (h.oneByOne ▸ List.prefix_append _ _).trans h.ledger.inOrder
  exact List.prefix_of_prefix_length_le haccepted hended hle

/-- An executor that has left has let go of everybody who waited. -/
theorem Sound.released_of_exited (h : s.Sound) (hexited : s.executor.exited = true) :
    s.executor.released = List.range s.executor.tickets := by
  have hturn := h.inTurn
  have hqueue : s.executor.queue = [] := (h.ledger.left hexited).2
  simpa [Executor.InTurn, hqueue, Executor.waiting] using hturn

/-! ### Whole steps -/

@[simp] theorem submissions_takeUp (executor : Executor J) (s : Option J × σ) :
    executor.submissions takeUp s = [] := by
  unfold Executor.submissions
  split <;> rfl

theorem polled_takeUp (ledger : Ledger J) (s : Option J × σ) (executor : Executor J) :
    ledger.polled takeUp s executor =
      { ledger with
        executor := executor, started := ledger.started ++ ledger.executor.next?.toList } := by
  simp [Ledger.polled]

theorem along_append {acts' : List (Act J σ)} :
    ∀ {s : Service J σ},
      s.along note (acts ++ acts') = (s.along note acts).bind (along note acts') := by
  induction acts with
  | nil => exact fun {_} => rfl
  | cons act acts ih =>
    intro s
    simp only [List.cons_append, along]
    cases s.make note act with
    | none => rfl
    | some t => exact ih

theorem along_submit (jobs : List J) :
    ∀ s : Service J σ,
      s.along note (jobs.map .submit) =
        some { s with ledger := jobs.foldl (fun ledger job => ledger.submit job) s.ledger } := by
  induction jobs with
  | nil => exact fun _ => rfl
  | cons job jobs ih => exact fun s => ih { s with ledger := s.ledger.submit job }

/-- What an executor that has not left accepts, one job after another. -/
theorem foldl_submit (jobs : List J) :
    ∀ ledger : Ledger J, ledger.executor.exited = false →
      jobs.foldl (fun ledger job => ledger.submit job) ledger =
        { ledger with
          executor := Executor.submitAll jobs ledger.executor
          accepted := ledger.accepted ++ jobs } := by
  induction jobs with
  | nil =>
    intro ledger _
    simp [Executor.submitAll]
  | cons job jobs ih =>
    intro ledger hopen
    have hsubmit := Executor.submit_of_not_exited job hopen
    have hafter : (ledger.submit job).executor.exited = false := by
      simp [Ledger.submit, hsubmit, hopen]
    rw [List.foldl_cons, ih _ hafter]
    simp [Ledger.submit, Executor.submitAll, hsubmit]

/-- The acts of a whole step of the executor: the step, and what the job does that it begins, which
submits further jobs, changes the state and ends. -/
def stretch (perform : J → σ → JobRun J × σ) (s : Service J σ) : List (Act J σ) :=
  match s.executor.next? with
  | none => [.step]
  | some job =>
    let (run, after) := perform job s.state
    .step :: (run.submissions.map .submit ++ [.change fun _ => after, .finish run.outcome])

/-- A whole step of the executor comes to what its acts come to, and is possible if they are. -/
theorem along_stretch (perform : J → σ → JobRun J × σ) (hidle : s.running = none) :
    s.along note (s.stretch perform) =
      (s.executor.poll perform note s.state).map fun (next, after) =>
        { ledger := s.ledger.polled perform s.state next
          state := after
          finished := s.finished ++ s.executor.next?.toList } := by
  cases hnext : s.executor.next? with
  | none =>
    have hnone : s.ledger.executor.next? = none := hnext
    have hstep : s.executor.poll takeUp (fun entry s => (s.1, note entry s.2)) (none, s.state) =
        (s.executor.poll perform note s.state).map fun (next, after) => (next, none, after) :=
      Executor.poll_of_next?_eq_none hnext perform _ (none, ·) (fun _ _ => rfl) s.state
    simp only [stretch, hnext, along, make, step, hidle, hstep]
    cases s.executor.poll perform note s.state with
    | none => rfl
    | some polled => simp [Ledger.polled, Executor.submissions, hnone]
  | some job =>
    have hrun : s.ledger.executor.next? = some job := hnext
    obtain ⟨queue, hqueue, hopen, hstarted, hgoing⟩ := Executor.next?_eq_some hnext
    have hstep : s.step note = some { s with
        ledger := { s.ledger with
          executor := { s.executor with queue := queue }
          started := s.ledger.started ++ [job] }
        running := some job } := by
      simp [step, hidle, Executor.poll_of_head hqueue hopen hstarted hgoing, takeUp,
        Executor.submitAll, polled_takeUp, hrun]
    rw [Executor.poll_of_head hqueue hopen hstarted hgoing]
    simp only [stretch, hnext, along, make, hstep, along_append, along_submit, Option.bind_some,
      finish, Option.map_some]
    rw [foldl_submit _ { s.ledger with
      executor := { s.executor with queue := queue }, started := s.ledger.started ++ [job] } hopen]
    cases (perform job s.state).1.outcome <;>
      simp [Ledger.polled, Executor.submissions, hrun, executor]

/-! ### Breakdowns -/

/-- The same act where no job breaks down and nothing is done to the state. -/
def Act.calm : Act J σ → Act J σ
  | .change _ => .change id
  | .finish _ => .finish .finished
  | act => act

/-- All of a service but the state that jobs work on. -/
def work (s : Service J σ) : Ledger J × Option J × List J :=
  (s.ledger, s.running, s.finished)

/-- Which step an executor makes does not depend on the state. -/
theorem poll_takeUp_congr (note : Entry → σ → σ) (executor : Executor J) (state other : σ) :
    (executor.poll takeUp (fun entry s => (s.1, note entry s.2)) (none, state)).map
        (fun next => (next.1, next.2.1)) =
      (executor.poll takeUp (fun entry s => (s.1, note entry s.2)) (none, other)).map
        (fun next => (next.1, next.2.1)) := by
  unfold Executor.poll
  split
  · rfl
  split
  · rfl
  split
  · rfl
  split <;> rfl

theorem work_step {s s' : Service J σ} (hwork : s.work = s'.work) :
    (s.step note).map work = (s'.step note).map work := by
  obtain ⟨ledger, state, running, finished⟩ := s
  obtain ⟨ledger', state', running', finished'⟩ := s'
  simp only [work, Prod.mk.injEq] at hwork
  obtain ⟨rfl, rfl, rfl⟩ := hwork
  cases running with
  | some job => rfl
  | none =>
    have hpoll := congrArg (Option.map fun next =>
      (ledger.polled takeUp (none, state) next.1, next.2, finished))
      (poll_takeUp_congr note ledger.executor state state')
    simp only [Option.map_map, polled_takeUp] at hpoll
    simp only [step, executor, Option.map_map, polled_takeUp]
    exact hpoll

/-- An act does the same to two services that differ in their states only, whether jobs break down
or not. -/
theorem work_make (note : Entry → σ → σ) {act' : Act J σ} {s s' : Service J σ}
    (hwork : s.work = s'.work) (hcalm : act.calm = act'.calm) :
    (s.make note act).map work = (s'.make note act').map work := by
  obtain ⟨ledger, state, running, finished⟩ := s
  obtain ⟨ledger', state', running', finished'⟩ := s'
  have hparts := hwork
  simp only [work, Prod.mk.injEq] at hparts
  obtain ⟨rfl, rfl, rfl⟩ := hparts
  cases act with
  | step =>
    cases act' <;> cases hcalm
    exact work_step hwork
  | submit | barrier | requestStop | change =>
    cases act' <;> cases hcalm
    rfl
  | finish =>
    cases act' <;> cases hcalm
    cases running <;> rfl

/-- Which jobs break down and what is done to the state makes no difference to the executor: with
the same acts otherwise the same jobs are accepted, started and ended in the same order, the same
one is running and the executor is in the same state. -/
theorem along_calm (note : Entry → σ → σ) {acts' : List (Act J σ)} :
    ∀ {s s' : Service J σ}, s.work = s'.work → acts.map Act.calm = acts'.map Act.calm →
      (s.along note acts).map work = (s'.along note acts').map work := by
  induction acts generalizing acts' with
  | nil =>
    intro s s' hwork hcalm
    obtain rfl := List.map_eq_nil_iff.mp hcalm.symm
    exact congrArg some hwork
  | cons act acts ih =>
    intro s s' hwork hcalm
    cases acts' with
    | nil => cases hcalm
    | cons act' acts' =>
      obtain ⟨hact, hacts⟩ := List.cons_eq_cons.mp hcalm
      have hmake := work_make note hwork hact
      simp only [along]
      cases ht : s.make note act with
      | none =>
        rw [ht, eq_comm, Option.map_none, Option.map_eq_none_iff] at hmake
        rw [hmake]
      | some t =>
        rw [ht, eq_comm, Option.map_some] at hmake
        obtain ⟨t', ht', hsame⟩ := Option.map_eq_some_iff.mp hmake
        rw [ht']
        exact ih hsame.symm hacts

end Service

/-! ### First come, first served, and a clean stop -/

/-- An executor is at work among submissions, barriers, requests to stop and whatever its jobs do,
in any order.

* The jobs that were started are the first ones of those that were accepted, in their order, and all
  of them but the running one have ended.
* A barrier that is released while no stop is requested is released after the end of every job that
  was accepted before it was put up.
* When the executor has left every barrier is released, nothing is accepted, and this stays so.
* After a request to stop no job is started any more.
* With other jobs breaking down, everything else is the same.
* All this is about the steps of the executor: each of them, with the job that it runs, comes to
  exactly what the acts come to that it is made of, which are the beginning of the job, what that
  submits, what it changes, and its end.
* A job that breaks down does no more to the executor than one that does not: beyond what the job
  submits, nothing that it does makes a difference to the step that runs it. -/
theorem executor_fifo_clean_stop {note : Entry → σ → σ} {start : σ} {acts : List (Service.Act J σ)}
    {s : Service J σ} (hs : Service.along note acts { state := start } = some s) :
    (s.ledger.started <+: s.ledger.accepted ∧
      s.ledger.started = s.finished ++ s.running.toList) ∧
    (∀ later t, Service.along note (.barrier :: later) s = some t →
      t.executor.stopRequested = false → s.executor.barrier.1 ∈ t.executor.released →
        s.ledger.accepted <+: t.finished) ∧
    (∀ later t, Service.along note later s = some t → s.executor.exited = true →
      t.executor.exited = true ∧ (∀ ticket < t.executor.tickets, ticket ∈ t.executor.released) ∧
        ∀ job, (t.executor.submit job).1 = false) ∧
    (∀ later t, Service.along note later s = some t → s.executor.stopRequested = true →
      t.ledger.started = s.ledger.started) ∧
    (∀ acts', acts'.map Service.Act.calm = acts.map Service.Act.calm →
      ∃ t, Service.along note acts' { state := start } = some t ∧ t.ledger = s.ledger ∧
        t.running = s.running ∧ t.finished = s.finished) ∧
    (∀ perform : J → σ → JobRun J × σ, s.running = none →
      Service.along note (s.stretch perform) s =
        (s.executor.poll perform note s.state).map fun (next, after) =>
          { ledger := s.ledger.polled perform s.state next
            state := after
            finished := s.finished ++ s.executor.next?.toList }) ∧
    ∀ (executor : Executor J) (perform perform' : J → σ → JobRun J × σ) (note' : Entry → σ → σ)
      (state state' : σ),
      executor.submissions perform state = executor.submissions perform' state' →
        (executor.poll perform note state).map Prod.fst =
          (executor.poll perform' note' state').map Prod.fst := by
  have hsound : s.Sound := (Service.sound_new start).along hs
  refine ⟨⟨hsound.ledger.inOrder, hsound.oneByOne⟩, fun later t ht hgoing hticket => ?_,
    fun later t ht hexited => ?_, fun later t ht hstop => Service.started_along hstop ht,
    fun acts' hcalm => ?_, fun perform hidle => Service.along_stretch perform hidle,
    fun executor _ _ note' _ _ hsame => executor.map_fst_poll_congr note note' hsame⟩
  · have hafter := hsound.along ht
    have hopen : t.executor.exited = false := by
      cases hexited : t.executor.exited with
      | false => rfl
      | true => exact absurd (hafter.ledger.left hexited).1 (Bool.not_eq_true _ ▸ hgoing)
    -- The barrier is the first act, and the rest comes after it.
    have hgrown : s.ledger.barrier.Extends t.ledger :=
      Service.extends_along (s := { s with ledger := s.ledger.barrier }) ht
    exact hafter.accepted_of_released hopen hgrown.accepted
      (hgrown.getElem?_marks hsound.ledger.getElem?_marks_barrier) hticket
  · have hleft : t.executor.exited = true := (Service.extends_along ht).exited hexited
    refine ⟨hleft, fun ticket hticket => ?_, fun job => ?_⟩
    · rw [(hsound.along ht).released_of_exited hleft]
      exact List.mem_range.mpr hticket
    · rw [Executor.submit_of_exited job hleft]
  · have hwork := Service.along_calm note (s := { state := start }) rfl hcalm
    rw [hs, Option.map_some] at hwork
    obtain ⟨t, ht, hsame⟩ := Option.map_eq_some_iff.mp hwork
    simp only [Service.work, Prod.mk.injEq] at hsame
    exact ⟨t, ht, hsame⟩

section Example

/-- The first job submits a third one and breaks down; a barrier stands between it and the second
job. While the second job runs, a barrier is put up, a stop is requested, and one more job is
accepted. -/
def lateSubmission : List (Service.Act Nat (List Entry)) :=
  [.step, .submit 1, .barrier, .submit 2, .step, .submit 3, .finish .crashed, .step, .step,
    .barrier, .requestStop, .submit 4, .finish .finished, .step]

/-- Two jobs are run, and the two that are left in the queue are not; both barriers are released. -/
theorem executor_fifo_clean_stop_late_submission :
    ∃ s, Service.along List.cons lateSubmission { state := [] } = some s ∧
      s.ledger.accepted = [1, 2, 3, 4] ∧ s.finished = [1, 2] ∧
      s.ledger.started <+: s.ledger.accepted ∧
      (∀ ticket < s.executor.tickets, ticket ∈ s.executor.released) ∧
      ∀ job, (s.executor.submit job).1 = false := by
  have hsome : (Service.along List.cons lateSubmission { state := [] }).isSome = true := by decide
  obtain ⟨s, hs⟩ := Option.isSome_iff_exists.mp hsome
  have hgood : (Service.along List.cons lateSubmission { state := [] }).all (fun s =>
      s.ledger.accepted == [1, 2, 3, 4] && s.finished == [1, 2] && s.executor.exited) = true := by
    decide
  simp only [hs, Option.all_some, Bool.and_eq_true, beq_iff_eq] at hgood
  obtain ⟨⟨haccepted, hfinished⟩, hexited⟩ := hgood
  have hfifo := executor_fifo_clean_stop hs
  have hleft := hfifo.2.2.1 [] s rfl hexited
  exact ⟨s, hs, haccepted, hfinished, hfifo.1.1, hleft.2⟩

end Example

end SchemaEngine
