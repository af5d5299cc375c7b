import SchemaEngine.Proofs.Change.Observation
import SchemaEngine.Proofs.Change.Record
import SchemaEngine.Session.World

/-!
# Flushes that are lost with the executor

The flag of a queue of edits is lowered by the flush job when it runs, or by the timer when the
executor has left and accepts no flush job any more. There is a third way for a flush to end: the
job is accepted, and the executor leaves before it starts it. Then nobody lowers the flag. So where
the executor has left and no timer is alive, the flag is up exactly if a flush was lost in this way,
and it stays up for good.

## Main definitions

* `Job.flushes`: how many of some jobs are flushes.
* `Record.Balanced`: each flush that was called for is on its way, was started, or is lost.

## Main results

* `Record.Balanced.after`: a move keeps the balance.
* `armed_iff_flush_lost`: when the flag is up after the executor has left, and what follows.
* `flush_lost_with_executor`: a run in which a flush is lost.
-/

set_option autoImplicit false

namespace SchemaEngine

variable {J H : Type}

/-- How many of some jobs are flushes. -/
def Job.flushes (jobs : List (Job J)) : Nat :=
  (jobs.map Message.run).countP Message.isFlush

namespace Job

@[simp] theorem flushes_append (jobs further : List (Job J)) :
    flushes (jobs ++ further) = flushes jobs + flushes further := by
  simp [flushes]

@[simp] theorem flushes_flush : flushes [(.flush : Job J)] = 1 :=
  rfl

theorem flushes_of_ne_flush {job : Job J} (h : Message.isFlush (.run job) = false) :
    flushes [job] = 0 := by
  simp [flushes, h]

theorem flushes_mono {jobs further : List (Job J)} (h : jobs <+: further) :
    flushes jobs ≤ flushes further :=
  (h.map Message.run).sublist.countP_le

theorem flushes_pos_iff {jobs : List (Job J)} : 0 < flushes jobs ↔ .flush ∈ jobs := by
  simp only [flushes, List.countP_pos_iff, List.mem_map, exists_exists_and_eq_and]
  constructor
  · rintro ⟨job, hjob, hflush⟩
    cases job with
    | flush => exact hjob
    | reload => cases hflush
    | host job => cases hflush
  · exact fun h => ⟨.flush, h, rfl⟩

end Job

/-! ### The balance of flushes -/

/-- The timers and the accepted flush jobs of a watcher are as many as the started ones, and one
more while the flag is up. -/
def Watcher.Balanced (accepted started : Nat) (watcher : Watcher) : Prop :=
  watcher.cancelled = false → watcher.timers.length + accepted = watcher.queue.armed.toNat + started

/-- An edit that starts a timer raises the flag. -/
theorem Watcher.keptBySaving_balanced (accepted started : Nat) :
    KeptBySaving (Watcher.Balanced accepted started) where
  edited edit w hw := by
    cases harmed : w.queue.armed with
    | true =>
      rw [edited_of_armed edit harmed]
      exact hw
    | false =>
      rw [edited_of_not_armed edit harmed]
      intro hlive
      have hbalance := hw hlive
      simp only [harmed, Bool.toNat_false] at hbalance
      simp only [List.length_append, List.length_singleton, Bool.toNat_true]
      omega
  cancel w hw hlive := by cases hlive

/-- What is known of the flushes of a record. -/
structure Record.Balanced (r : Record J H) : Prop where
  ledger : r.ledger.Sound
  flushes : r.watch.watcher.Balanced (Job.flushes r.ledger.accepted) (Job.flushes r.ledger.started)

namespace Record

variable {c : Collaborators H} {jobs : HostJobs J H} {move : Move J} {r : Record J H}
  {d : Dispatcher J H}

theorem balanced_begun (options : WatcherOptions) (site : Site H) :
    (opening (.begun options site : Dispatcher J H)).Balanced :=
  ⟨Ledger.sound_new, fun _ => rfl⟩

/-- Submitting a job that is no flush. -/
theorem flushes_submit_other (ledger : Ledger (Job J)) (job : Job J)
    (h : Message.isFlush (.run job) = false) :
    Job.flushes (ledger.submit job).accepted = Job.flushes ledger.accepted := by
  cases hexited : ledger.executor.exited with
  | true => rw [Ledger.accepted_submit_of_exited job hexited]
  | false =>
    rw [Ledger.accepted_submit_of_not_exited job hexited, Job.flushes_append,
      Job.flushes_of_ne_flush h, Nat.add_zero]

/-- A timer that calls for a flush hands over to the job that is accepted; where none is accepted
it lowers the flag. -/
theorem Balanced.deliver (h : r.Balanced) {index : Nat}
    (hmake : r.dispatcher.deliver index = some d) :
    d.watch.watcher.Balanced (Job.flushes (r.ledger.submit .flush).accepted)
      (Job.flushes r.ledger.started) := by
  have hle := Job.flushes_mono h.ledger.inOrder
  obtain ⟨timer, htimer, -, hend⟩ := Dispatcher.deliver_cases hmake
  have hlt : index < r.watch.watcher.timers.length := (List.getElem?_eq_some_iff.mp htimer).1
  have hlength := List.length_eraseIdx_of_lt hlt
  have harmed := r.watch.watcher.queue.armed.toNat_le
  obtain ⟨hexited, rfl⟩ | ⟨hexited, rfl⟩ := hend
  · intro hlive
    have hbalance := h.flushes hlive
    rw [Ledger.accepted_submit_of_not_exited .flush hexited, Job.flushes_append, Job.flushes_flush]
    simp only [Dispatcher.dropTimer, Dispatcher.mapWatcher, dispatcher]
    omega
  · intro hlive
    have hbalance := h.flushes hlive
    rw [Ledger.accepted_submit_of_exited .flush hexited]
    simp only [Dispatcher.note, WatcherState.note, Dispatcher.dropTimer, Dispatcher.mapWatcher,
      dispatcher, FlushQueue.disarm, Bool.toNat_false]
    omega

/-- No job but a flush touches the watcher, and none submits a flush. -/
theorem flushes_submissions (c : Collaborators H) (jobs : HostJobs J H) (job : Job J)
    (s : WatcherState H) :
    Job.flushes (Dispatcher.perform c jobs job s).1.submissions = 0 := by
  cases job with
  | flush => rfl
  | reload => rfl
  | host job => exact (Dispatcher.perform_of_ne_flush c jobs rfl s).2

/-- A flush that is started lowers the flag before it saves the edits. -/
theorem Balanced.startFlush (h : r.Balanced)
    (hinitial : r.ledger.started ++ [.flush] <+: r.ledger.accepted) :
    (Dispatcher.perform c jobs .flush r.watch).2.watcher.Balanced (Job.flushes r.ledger.accepted)
      (Job.flushes r.ledger.started + 1) := by
  refine WatcherState.flush_keeps c (Watcher.keptBySaving_balanced ..) _ fun hlive => ?_
  have hbalance := h.flushes hlive
  have hle := Job.flushes_mono hinitial
  have harmed := r.watch.watcher.queue.armed.toNat_le
  rw [Job.flushes_append, Job.flushes_flush] at hle
  simp only [FlushQueue.take, FlushQueue.disarm, Bool.toNat_false]
  omega

/-- A step of the executor that runs no job leaves the watcher alone. -/
theorem watcher_poll_of_next? (hnext : r.ledger.executor.next? = none)
    (hmake : r.dispatcher.poll c jobs = some d) : d.watch.watcher = r.watch.watcher := by
  obtain ⟨hopen, ⟨-, -, hwatch⟩ | ⟨-, -, -, hwatch⟩ | ⟨hstarted, hgoing, hhead⟩⟩ :=
    Executor.poll_cases (poll_eq_some hmake)
  · rw [hwatch]
    rfl
  · rw [hwatch]
    rfl
  obtain ⟨ticket, queue, -, -, hwatch⟩ | ⟨job, queue, hqueue, -, -⟩ := hhead
  · rw [hwatch]
    rfl
  · simp only [dispatcher] at hopen hstarted hgoing hqueue
    simp [Executor.next?, Executor.isRunning, hopen, hstarted, hgoing, hqueue] at hnext

/-- A step of the executor that runs a job does to the watcher what the job does. -/
theorem watcher_poll {job : Job J} (hnext : r.ledger.executor.next? = some job)
    (hmake : r.dispatcher.poll c jobs = some d) :
    d.watch.watcher = (Dispatcher.perform c jobs job r.watch).2.watcher := by
  obtain ⟨e, hpoll, hwatch⟩ := Dispatcher.poll_of_next? (d := r.dispatcher) c jobs hnext
  obtain rfl : e = d := Option.some.inj (hpoll.symm.trans hmake)
  rcases hwatch with hwatch | hwatch <;> rw [hwatch] <;> rfl

/-- A step of the executor starts a flush that was accepted, or changes nothing in the balance. -/
theorem Balanced.poll (h : r.Balanced) (hmake : r.dispatcher.poll c jobs = some d) :
    d.watch.watcher.Balanced
      (Job.flushes (r.ledgerAfter c jobs .poll d).accepted)
      (Job.flushes (r.ledgerAfter c jobs .poll d).started) := by
  have hinitial := (h.ledger.poll (poll_eq_some hmake)).inOrder
  cases hnext : r.ledger.executor.next? with
  | none =>
    rw [watcher_poll_of_next? hnext hmake]
    simpa [ledgerAfter, Ledger.polled, Executor.submissions, hnext] using h.flushes
  | some job =>
    rw [watcher_poll hnext hmake]
    have hsubmitted := flushes_submissions c jobs job r.watch
    simp only [ledgerAfter, Ledger.polled, Executor.submissions, hnext, Option.toList_some,
      Job.flushes_append, hsubmitted, Nat.add_zero] at hinitial ⊢
    cases hflush : Message.isFlush (.run job) with
    | false =>
      rw [(Dispatcher.perform_of_ne_flush c jobs hflush r.watch).1, Job.flushes_of_ne_flush hflush]
      exact h.flushes
    | true =>
      obtain rfl : job = .flush := by
        cases job <;> simp_all [Message.isFlush]
      exact h.startFlush (by simpa [Dispatcher.perform] using hinitial)

/-- What a move keeps. -/
theorem Balanced.after (h : r.Balanced) (hmake : r.dispatcher.make c jobs move = some d) :
    (r.after c jobs move d).Balanced := by
  refine ⟨sound_ledgerAfter h.ledger hmake, ?_⟩
  cases move with
  | filesChanged events =>
    cases hmake
    have hsame := (Dispatcher.sameFlushing_filesChanged c r.dispatcher events).watcher
    exact (congrArg (Watcher.Balanced _ _) hsame).mpr h.flushes
  | documentChanged document =>
    cases hmake
    exact WatcherState.documentChanged_keeps c (Watcher.keptBySaving_balanced ..) document _
      h.flushes
  | rootsChanged =>
    cases hmake
    have hsame := (Dispatcher.sameFlushing_rootsChanged r.dispatcher).watcher
    have hflushes := flushes_submit_other r.ledger .reload rfl
    simp only [Record.after, ledgerAfter]
    rw [hsame, hflushes]
    exact h.flushes
  | flush =>
    cases hmake
    exact WatcherState.flush_keeps c (Watcher.keptBySaving_balanced ..) _ h.flushes
  | submit job =>
    cases hmake
    have hflushes := flushes_submit_other r.ledger (.host job) rfl
    simp only [Record.after, ledgerAfter]
    rw [hflushes]
    exact h.flushes
  | barrier | requestStop | wait =>
    cases hmake
    exact h.flushes
  | cancel =>
    cases hmake
    exact fun hlive => by cases hlive
  | expire index =>
    obtain ⟨timer, -, -, rfl⟩ := Dispatcher.expire_cases hmake
    intro hlive
    simpa [Record.after, ledgerAfter, dispatcher, Dispatcher.mapWatcher] using h.flushes hlive
  | deliver index => exact h.deliver hmake
  | abandon index =>
    obtain ⟨hcancelled, rfl⟩ := Dispatcher.abandon_cases hmake
    exact fun hlive => absurd (hcancelled.symm.trans hlive) (by simp)
  | poll => exact h.poll hmake

theorem Follows.balanced {options : WatcherOptions} {site : Site H}
    (h : r.Follows c jobs (.begun options site)) : r.Balanced := by
  induction h with
  | here => exact balanced_begun options site
  | move _ _ hmake ih => exact ih.after hmake
  | drift _ _ ih => exact ⟨ih.ledger, ih.flushes⟩

/-- Where no timer is alive the flag is up exactly if an accepted flush was not started. -/
theorem Balanced.armed_iff (h : r.Balanced) (hlive : r.watch.watcher.cancelled = false)
    (htimers : r.watch.watcher.timers = []) :
    r.watch.watcher.queue.armed = true ↔
      .flush ∈ r.ledger.accepted.drop r.ledger.started.length := by
  have hbalance := h.flushes hlive
  obtain ⟨rest, hrest⟩ := h.ledger.inOrder
  rw [htimers, ← hrest, Job.flushes_append] at hbalance
  rw [← hrest, List.drop_left, ← Job.flushes_pos_iff]
  cases harmed : r.watch.watcher.queue.armed with
  | false =>
    simp only [harmed, Bool.toNat_false, List.length_nil] at hbalance
    simp only [Bool.false_eq_true, false_iff]
    omega
  | true =>
    simp only [harmed, Bool.toNat_true, List.length_nil] at hbalance
    simp only [true_iff]
    omega

end Record

/-! ### After a flush was lost -/

/-- The flag is up and nothing is left that could lower it. -/
def Watcher.Stranded (watcher : Watcher) : Prop :=
  watcher.queue.armed = true ∧ watcher.timers = []

theorem Watcher.keptBySaving_stranded : KeptBySaving Watcher.Stranded where
  edited edit w hw := by
    rw [edited_of_armed edit hw.1]
    exact hw
  cancel _ hw := hw

namespace Dispatcher

variable {c : Collaborators H} {jobs : HostJobs J H} {d e : Dispatcher J H} {move : Move J}

/-- The executor has left, and the flag is up for good. -/
structure Stranded (d : Dispatcher J H) : Prop where
  left : d.executor.exited = true
  watcher : d.watch.watcher.Stranded

/-- No move brings a stranded watcher back. -/
theorem Stranded.make (h : d.Stranded) (hmake : d.make c jobs move = some e) : e.Stranded := by
  have hnone (index : Nat) : d.timer? index = none := by simp [timer?, h.watcher.2]
  cases move with
  | filesChanged events =>
    cases hmake
    exact ⟨h.left, (sameFlushing_filesChanged c d events).watcher ▸ h.watcher⟩
  | documentChanged document =>
    cases hmake
    exact ⟨h.left, WatcherState.documentChanged_keeps c Watcher.keptBySaving_stranded document _
      h.watcher⟩
  | rootsChanged =>
    cases hmake
    have hsame := sameFlushing_rootsChanged d
    exact ⟨hsame.exited.trans h.left, hsame.watcher ▸ h.watcher⟩
  | flush =>
    cases hmake
    exact ⟨h.left, WatcherState.flush_keeps c Watcher.keptBySaving_stranded _ h.watcher⟩
  | submit job =>
    cases hmake
    rw [submit_of_exited _ h.left]
    exact h
  | barrier =>
    cases hmake
    have hsame := sameFlushing_barrier d
    exact ⟨hsame.exited.trans h.left, hsame.watcher ▸ h.watcher⟩
  | requestStop | cancel | wait =>
    cases hmake
    exact ⟨h.left, h.watcher⟩
  | expire index => simp [make, expire, hnone] at hmake
  | deliver index => simp [make, deliver, hnone] at hmake
  | abandon index => simp [make, abandon, hnone] at hmake
  | poll => simp [make, poll, Executor.poll, h.left] at hmake

end Dispatcher

/-- A stranded watcher stays stranded. -/
theorem Record.Follows.stranded {c : Collaborators H} {jobs : HostJobs J H} {d : Dispatcher J H}
    {r : Record J H} (h : r.Follows c jobs d) (hd : d.Stranded) : r.dispatcher.Stranded := by
  induction h with
  | here => exact hd
  | move _ _ hmake ih =>
    rw [Record.dispatcher_after hmake]
    exact ih.make hmake
  | drift _ _ ih => exact ⟨ih.left, ih.watcher⟩

/-- The executor of a watcher has left, no flush timer is alive, and flushing is not called off. The
flag is then up exactly if a flush job was accepted that was never started. If it is down, the next
edit of a configuration document raises it and starts a timer; if it is up, it stays up without a
timer, whatever happens. -/
theorem armed_iff_flush_lost {c : Collaborators H} {jobs : HostJobs J H} {options : WatcherOptions}
    {site : Site H} {r : Record J H} (hr : r.Follows c jobs (.begun options site))
    (hleft : r.ledger.executor.exited = true) (htimers : r.watch.watcher.timers = [])
    (hlive : r.watch.watcher.cancelled = false) :
    (r.watch.watcher.queue.armed = true ↔
      .flush ∈ r.ledger.accepted.drop r.ledger.started.length) ∧
    (r.watch.watcher.queue.armed = false → ∀ document file,
      c.documents.fileOf r.watch.site.host document = some file → file.synthetic = false →
      r.watch.watcher.options.names.recognizes file = true →
        (r.watch.documentChanged c document).1 = true ∧
        (r.watch.documentChanged c document).2.watcher.queue.armed = true ∧
        (r.watch.documentChanged c document).2.watcher.timers =
          [⟨r.watch.watcher.clock + r.watch.watcher.options.debounceMs.toNat, false⟩]) ∧
    (r.watch.watcher.queue.armed = true → ∀ later : Record J H,
      later.Follows c jobs r.dispatcher →
        later.watch.watcher.queue.armed = true ∧ later.watch.watcher.timers = []) := by
  refine ⟨hr.balanced.armed_iff hlive htimers, fun hdown document file hfile hphysical hname => ?_,
    fun hup later hlater => (hlater.stranded ⟨hleft, hup, htimers⟩).watcher⟩
  have hedited := Watcher.edited_of_not_armed ⟨file, document⟩ hdown
  simp only [WatcherState.documentChanged, hfile, hphysical, hname, Bool.not_true, Bool.or_self,
    Bool.false_eq_true, ↓reduceIte, WatcherState.note, hedited, htimers, List.nil_append]
  exact ⟨trivial, trivial, rfl⟩

section Example

open Session

/-- A watcher of one open configuration document. -/
def oneEditStart : Dispatcher Task World :=
  .begun { names := ⟨["a"]⟩ } <|
    { host :=
      { documents :=
        { lastId := 1
          buffers := [(⟨1⟩, { file := ⟨⟨[47, 97]⟩, false⟩, text := "" })] } } }

/-- The document is edited, and the executor leaves before the timer calls for the flush. -/
def leftBeforeCall : List (Move Task) :=
  [.poll, .documentChanged ⟨1⟩, .wait 3000, .requestStop, .poll, .expire 0, .deliver 0]

/-- The document is edited, and the executor leaves just after the timer has called for the
flush. -/
def leftAfterCall : List (Move Task) :=
  [.poll, .documentChanged ⟨1⟩, .wait 3000, .expire 0, .deliver 0, .requestStop, .poll]

/-- The timer finds the executor gone and lowers the flag, so the next edit starts a timer. -/
theorem armed_iff_flush_lost_left_before_call :
    ∃ r, (Record.opening oneEditStart).along (World.collaborators none) World.runTask
        leftBeforeCall = some r ∧
      r.ledger.executor.exited = true ∧ r.watch.watcher.queue.armed = false ∧
      .flush ∉ r.ledger.accepted.drop r.ledger.started.length ∧
      (r.watch.documentChanged (World.collaborators none) ⟨1⟩).2.watcher.timers =
        [⟨6000, false⟩] := by
  have hgood : ((Record.opening oneEditStart).along (World.collaborators none) World.runTask
      leftBeforeCall).any (fun r => r.ledger.executor.exited && !r.watch.watcher.cancelled &&
        r.watch.watcher.timers == [] && !r.watch.watcher.queue.armed &&
        r.watch.watcher.clock == 3000 && r.watch.watcher.options.debounceMs == 3000 &&
        ((World.collaborators none).documents.fileOf r.watch.site.host ⟨1⟩).any fun file =>
          !file.synthetic && r.watch.watcher.options.names.recognizes file) = true := by decide
  obtain ⟨r, hr, hgood⟩ := (Option.any_eq_true _ _).mp hgood
  simp only [Bool.and_eq_true, Bool.not_eq_true', beq_iff_eq] at hgood
  obtain ⟨⟨⟨⟨⟨⟨hleft, hlive⟩, htimers⟩, hdown⟩, hclock⟩, hdebounce⟩, hdocument⟩ := hgood
  obtain ⟨file, hfile, hknown⟩ := (Option.any_eq_true _ _).mp hdocument
  simp only [Bool.and_eq_true, Bool.not_eq_true'] at hknown
  have hlost := armed_iff_flush_lost (Record.Follows.here.along hr) hleft htimers hlive
  have hnext := hlost.2.1 hdown ⟨1⟩ file hfile hknown.1 hknown.2
  rw [hclock, hdebounce] at hnext
  exact ⟨r, hr, hleft, hdown, fun hmem => by simp [hlost.1.mpr hmem] at hdown, hnext.2.2⟩

/-- Flushing is not called off, the executor has left and no timer is alive; still the flag is up,
and the next edit is taken in without a timer. -/
theorem flush_lost_with_executor :
    ∃ r, (Record.opening oneEditStart).along (World.collaborators none) World.runTask
        leftAfterCall = some r ∧
      r.watch.watcher.cancelled = false ∧ r.ledger.executor.exited = true ∧
      r.watch.watcher.timers = [] ∧ r.watch.watcher.queue.armed = true ∧
      (r.watch.documentChanged (World.collaborators none) ⟨1⟩).1 = true ∧
      (r.watch.documentChanged (World.collaborators none) ⟨1⟩).2.watcher.timers = [] := by
  have hgood : ((Record.opening oneEditStart).along (World.collaborators none) World.runTask
      leftAfterCall).any (fun r => !r.watch.watcher.cancelled && r.ledger.executor.exited &&
        r.watch.watcher.timers == [] && r.watch.watcher.queue.armed &&
        (r.watch.documentChanged (World.collaborators none) ⟨1⟩).1 &&
        (r.watch.documentChanged (World.collaborators none) ⟨1⟩).2.watcher.timers == []) =
          true := by decide
  obtain ⟨r, hr, hgood⟩ := (Option.any_eq_true _ _).mp hgood
  simp only [Bool.and_eq_true, Bool.not_eq_true', beq_iff_eq] at hgood
  obtain ⟨⟨⟨⟨⟨hlive, hleft⟩, htimers⟩, hup⟩, htaken⟩, hnext⟩ := hgood
  exact ⟨r, hr, hlive, hleft, htimers, hup, htaken, hnext⟩

end Example

end SchemaEngine
