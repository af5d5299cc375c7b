import SchemaEngine.Change.Dispatcher
import SchemaEngine.Proofs.Change.Ledger

/-!
# A dispatcher on record

The jobs of a dispatcher come from the host, from changes of the project roots, from timers and from
other jobs. A record is a dispatcher whose executor has a ledger, together with the number of
changes of the project roots that were reported. Between two moves the other parts of the engine may
change the site.

## Main definitions

* `Record`: a dispatcher with the ledger of its executor.
* `Record.after`: the record after a move.
* `Record.Follows`: the records along the moves from a dispatcher.
* `Ledger.Extends`: what a ledger says is still in a later one.

## Main results

* `Record.dispatcher_after`: the record after a move is one of the dispatcher after it.
* `Record.Sound.after`: a move keeps what is known of a record.
* `Record.extends_after`: a move only adds to the ledger.
-/

set_option autoImplicit false

namespace SchemaEngine

/-- Whether a job reloads the configuration because the project roots changed. -/
def Job.isReload {J : Type} : Job J → Bool
  | .reload => true
  | _ => false

/-- What one ledger says is still in a later one, and an executor that has left does not come
back. -/
structure Ledger.Extends {J : Type} (earlier later : Ledger J) : Prop where
  accepted : earlier.accepted <+: later.accepted
  started : earlier.started <+: later.started
  marks : earlier.marks <+: later.marks
  exited : earlier.executor.exited = true → later.executor.exited = true

namespace Ledger.Extends

variable {J : Type} {l m n : Ledger J}

theorem refl (l : Ledger J) : l.Extends l :=
  ⟨List.prefix_rfl, List.prefix_rfl, List.prefix_rfl, id⟩

theorem trans (h : l.Extends m) (h' : m.Extends n) : l.Extends n :=
  ⟨h.accepted.trans h'.accepted, h.started.trans h'.started, h.marks.trans h'.marks,
    h'.exited ∘ h.exited⟩

theorem submit (job : J) (l : Ledger J) : l.Extends (l.submit job) := by
  cases hexited : l.executor.exited with
  | true =>
    simp only [Ledger.submit, Executor.submit_of_exited job hexited, Bool.false_eq_true, ↓reduceIte]
    exact refl l
  | false =>
    simp only [Ledger.submit, Executor.submit_of_not_exited job hexited, ↓reduceIte]
    exact ⟨List.prefix_append _ _, List.prefix_rfl, List.prefix_rfl, id⟩

theorem barrier (l : Ledger J) : l.Extends l.barrier := by
  refine ⟨List.prefix_rfl, List.prefix_rfl, List.prefix_append _ _, fun hexited => ?_⟩
  simp [Ledger.barrier, Executor.barrier, hexited]

theorem requestStop (l : Ledger J) : l.Extends l.requestStop :=
  ⟨List.prefix_rfl, List.prefix_rfl, List.prefix_rfl, id⟩

theorem getElem?_marks (h : l.Extends m) {ticket mark : Nat}
    (hmark : l.marks[ticket]? = some mark) : m.marks[ticket]? = some mark := by
  obtain ⟨further, hfurther⟩ := h.marks
  rw [← hfurther, List.getElem?_append_left (List.getElem?_eq_some_iff.mp hmark).1, hmark]

/-- A step is made only by an executor that has not left. -/
theorem polled {σ : Type} (perform : J → σ → JobRun J × σ) (s : σ) (executor : Executor J)
    (hopen : l.executor.exited = false) : l.Extends (l.polled perform s executor) :=
  ⟨List.prefix_append _ _, List.prefix_append _ _, List.prefix_rfl, fun hexited => by
    simp [hopen] at hexited⟩

end Ledger.Extends

namespace Dispatcher

variable {J H : Type} {d : Dispatcher J H}

/-- The job that comes next is run by the next step; if it breaks down this is noted. -/
theorem poll_of_next? (c : Collaborators H) (jobs : HostJobs J H) {job : Job J}
    (h : d.executor.next? = some job) :
    ∃ e, d.poll c jobs = some e ∧
      (e.watch = (perform c jobs job d.watch).2 ∨
        e.watch = (perform c jobs job d.watch).2.note .jobFailed) := by
  obtain ⟨queue, hqueue, hexited, hstarted, hstop⟩ := Executor.next?_eq_some h
  simp only [poll, Executor.poll_of_head hqueue hexited hstarted hstop]
  cases (perform c jobs job d.watch).1.outcome with
  | finished => exact ⟨_, rfl, .inl rfl⟩
  | crashed => exact ⟨_, rfl, .inr rfl⟩

end Dispatcher

/-- A dispatcher, with the ledger of its executor. -/
structure Record (J H : Type) where
  ledger : Ledger (Job J) := {}
  watch : WatcherState H
  /-- How many changes of the project roots were reported. -/
  rootsChanges : Nat := 0

namespace Record

variable {J H : Type} {c : Collaborators H} {jobs : HostJobs J H} {move : Move J}
  {r : Record J H} {d e : Dispatcher J H}

/-- The dispatcher on record. -/
def dispatcher (r : Record J H) : Dispatcher J H :=
  ⟨r.ledger.executor, r.watch⟩

/-- The ledger after a move to a dispatcher. -/
def ledgerAfter (c : Collaborators H) (jobs : HostJobs J H) (move : Move J) (d : Dispatcher J H)
    (r : Record J H) : Ledger (Job J) :=
  match move with
  | .submit job => r.ledger.submit (.host job)
  | .rootsChanged => r.ledger.submit .reload
  | .deliver _ => r.ledger.submit .flush
  | .barrier => r.ledger.barrier
  | .requestStop => r.ledger.requestStop
  | .poll => r.ledger.polled (Dispatcher.perform c jobs) r.watch d.executor
  | _ => r.ledger

/-- The record after a move to a dispatcher. -/
def after (c : Collaborators H) (jobs : HostJobs J H) (move : Move J) (d : Dispatcher J H)
    (r : Record J H) : Record J H where
  ledger := r.ledgerAfter c jobs move d
  watch := d.watch
  rootsChanges :=
    match move with
    | .rootsChanged => r.rootsChanges + 1
    | _ => r.rootsChanges

/-- Another part of the engine changes the site. -/
def drift (site : Site H) (r : Record J H) : Record J H :=
  { r with watch := { r.watch with site := site } }

/-- The record of a dispatcher, with an empty ledger. -/
def opening (d : Dispatcher J H) : Record J H where
  ledger := { executor := d.executor }
  watch := d.watch

/-- The records along the moves from a dispatcher. -/
inductive Follows (c : Collaborators H) (jobs : HostJobs J H) (start : Dispatcher J H) :
    Record J H → Prop where
  | here : Follows c jobs start (.opening start)
  | move {r : Record J H} {d : Dispatcher J H} (move : Move J) : Follows c jobs start r →
      r.dispatcher.make c jobs move = some d → Follows c jobs start (r.after c jobs move d)
  | drift {r : Record J H} (site : Site H) : Follows c jobs start r →
      Follows c jobs start (r.drift site)

/-- The record after several moves, if all of them are possible. -/
def along (c : Collaborators H) (jobs : HostJobs J H) :
    List (Move J) → Record J H → Option (Record J H)
  | [], r => some r
  | move :: moves, r =>
    match r.dispatcher.make c jobs move with
    | none => none
    | some d => along c jobs moves (r.after c jobs move d)

theorem Follows.along {start : Dispatcher J H} {moves : List (Move J)} :
    ∀ {r s : Record J H}, r.Follows c jobs start → r.along c jobs moves = some s →
      s.Follows c jobs start := by
  induction moves with
  | nil =>
    intro r s hr h
    cases h
    exact hr
  | cons move moves ih =>
    intro r s hr h
    simp only [Record.along] at h
    split at h
    · cases h
    · rename_i hmake
      exact ih (.move move hr hmake) h

theorem poll_eq_some (h : d.poll c jobs = some e) :
    d.executor.poll (Dispatcher.perform c jobs) WatcherState.note d.watch =
      some (e.executor, e.watch) := by
  unfold Dispatcher.poll at h
  split at h <;> cases h
  assumption

theorem executor_rootsChanged (d : Dispatcher J H) :
    d.rootsChanged.executor = (d.executor.submit .reload).2 := by
  cases hexited : d.executor.exited with
  | true =>
    rw [Executor.submit_of_exited .reload hexited, Dispatcher.rootsChanged,
      Dispatcher.submit_of_exited .reload hexited]
    rfl
  | false =>
    rw [Executor.submit_of_not_exited .reload hexited, Dispatcher.rootsChanged,
      Dispatcher.submit_of_not_exited .reload hexited]

/-- The ledger of the record goes with the dispatcher. -/
theorem executor_ledgerAfter (h : r.dispatcher.make c jobs move = some d) :
    (r.ledgerAfter c jobs move d).executor = d.executor := by
  cases move with
  | filesChanged events => cases h; rfl
  | documentChanged document => cases h; rfl
  | rootsChanged =>
    cases h
    exact (executor_rootsChanged r.dispatcher).symm
  | flush => cases h; rfl
  | submit job => cases h; rfl
  | barrier => cases h; rfl
  | requestStop => cases h; rfl
  | cancel => cases h; rfl
  | wait milliseconds => cases h; rfl
  | expire index =>
    obtain ⟨timer, -, -, rfl⟩ := Dispatcher.expire_cases h
    rfl
  | deliver index =>
    obtain ⟨timer, -, -, ⟨hexited, rfl⟩ | ⟨hexited, rfl⟩⟩ := Dispatcher.deliver_cases h
    · exact congrArg Prod.snd (Executor.submit_of_not_exited .flush hexited)
    · exact congrArg Prod.snd (Executor.submit_of_exited .flush hexited)
  | abandon index =>
    obtain ⟨-, rfl⟩ := Dispatcher.abandon_cases h
    rfl
  | poll => rfl

theorem dispatcher_after (h : r.dispatcher.make c jobs move = some d) :
    (r.after c jobs move d).dispatcher = d := by
  simp only [dispatcher, after, executor_ledgerAfter h]

/-- A move only adds to the ledger. -/
theorem extends_after (h : r.dispatcher.make c jobs move = some d) :
    r.ledger.Extends (r.after c jobs move d).ledger := by
  cases move with
  | submit job => exact .submit _ _
  | rootsChanged => exact .submit _ _
  | deliver index => exact .submit _ _
  | barrier => exact .barrier _
  | requestStop => exact .requestStop _
  | poll => exact .polled _ _ _ (Executor.poll_cases (poll_eq_some h)).1
  | filesChanged | documentChanged | flush | cancel | wait | expire | abandon => exact .refl _

/-- Only the host asks the executor to stop. -/
theorem stopRequested_after (h : r.dispatcher.make c jobs move = some d)
    (hmove : move ≠ .requestStop) :
    (r.after c jobs move d).ledger.executor.stopRequested =
      r.ledger.executor.stopRequested := by
  cases move with
  | submit job => exact Ledger.stopRequested_submit _ _
  | rootsChanged => exact Ledger.stopRequested_submit _ _
  | deliver index => exact Ledger.stopRequested_submit _ _
  | barrier =>
    cases hexited : r.ledger.executor.exited <;>
      simp [after, ledgerAfter, Ledger.barrier, Executor.barrier, hexited]
  | requestStop => exact absurd rfl hmove
  | poll => exact Executor.stopRequested_poll (poll_eq_some h)
  | filesChanged | documentChanged | flush | cancel | wait | expire | abandon => rfl

/-- What a move keeps of the ledger. -/
theorem sound_ledgerAfter (h : r.ledger.Sound) (hmake : r.dispatcher.make c jobs move = some d) :
    (r.ledgerAfter c jobs move d).Sound := by
  cases move with
  | submit job => exact h.submit _
  | rootsChanged => exact h.submit _
  | deliver index => exact h.submit _
  | barrier => exact h.barrier
  | requestStop => exact h.requestStop
  | poll => exact h.poll (poll_eq_some hmake)
  | filesChanged | documentChanged | flush | cancel | wait | expire | abandon => exact h

/-- What is known of a record. Until the executor is asked to stop, every reported change of the
project roots has a job. -/
structure Sound (r : Record J H) : Prop where
  ledger : r.ledger.Sound
  reloads : r.ledger.executor.stopRequested = false →
    r.ledger.accepted.countP Job.isReload = r.rootsChanges

theorem Sound.not_exited (h : r.Sound) (hgoing : r.ledger.executor.stopRequested = false) :
    r.ledger.executor.exited = false := by
  cases hexited : r.ledger.executor.exited with
  | false => rfl
  | true => exact absurd (h.ledger.left hexited).1 (by simp [hgoing])

/-- No job submits a reload. -/
theorem countP_isReload_submissions (executor : Executor (Job J)) (s : WatcherState H) :
    (executor.submissions (Dispatcher.perform c jobs) s).countP Job.isReload = 0 := by
  unfold Executor.submissions
  split
  · rename_i job _
    cases job <;> simp [Dispatcher.perform, List.countP_eq_zero, Job.isReload]
  · rfl

theorem Sound.accepted_submit (h : r.Sound) (hgoing : r.ledger.executor.stopRequested = false)
    (job : Job J) : (r.ledger.submit job).accepted = r.ledger.accepted ++ [job] :=
  Ledger.accepted_submit_of_not_exited job (h.not_exited hgoing)

/-- What a move keeps. -/
theorem Sound.after (h : r.Sound) (hmake : r.dispatcher.make c jobs move = some d) :
    (r.after c jobs move d).Sound := by
  refine ⟨sound_ledgerAfter h.ledger hmake, fun hafter => ?_⟩
  have hmove : move ≠ .requestStop := by
    rintro rfl
    cases hafter
  have hgoing := (stopRequested_after hmake hmove).symm.trans hafter
  have hreloads := h.reloads hgoing
  cases move with
  | submit job =>
    simp [Record.after, Record.ledgerAfter, h.accepted_submit hgoing, hreloads, Job.isReload]
  | rootsChanged =>
    simp [Record.after, Record.ledgerAfter, h.accepted_submit hgoing, hreloads, Job.isReload]
  | deliver index =>
    simp [Record.after, Record.ledgerAfter, h.accepted_submit hgoing, hreloads, Job.isReload]
  | poll =>
    simp [Record.after, Record.ledgerAfter, Ledger.polled, countP_isReload_submissions, hreloads]
  | requestStop => exact absurd rfl hmove
  | barrier | filesChanged | documentChanged | flush | cancel | wait | expire | abandon =>
    exact hreloads

theorem Follows.sound (h : r.Follows c jobs d) (hnew : d.executor = {}) : r.Sound := by
  induction h with
  | here =>
    refine ⟨?_, fun _ => rfl⟩
    simp only [opening, hnew]
    exact Ledger.sound_new
  | move _ _ hmake ih => exact ih.after hmake
  | drift _ _ ih => exact ⟨ih.ledger, ih.reloads⟩

end Record

end SchemaEngine
