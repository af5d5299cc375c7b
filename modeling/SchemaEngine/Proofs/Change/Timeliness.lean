import Mathlib.Tactic.Common
import SchemaEngine.Proofs.Change.Saving

/-!
# Flushes in time

A watcher keeps its edits from waiting too long: while the flag of its queue is up, exactly one
flush is on its way, either a timer that is alive or a flush job that was queued elsewhere, and the
flush is due no later than the debounce time after any edit that waits. Each operation of the
watcher keeps this, given what it does to the number of queued jobs.

## Main definitions

* `Watcher.lastDeadline`: when the flush that is on its way is due.
* `Watcher.Timely`: the invariant of a watcher.

## Main results

* `Watcher.Timely.edited`, `Watcher.Timely.take`: reporting an edit, and taking all of them.
* `Watcher.Timely.wait`, `Watcher.Timely.expire`, `Watcher.Timely.deliver`: time and timers.
-/

set_option autoImplicit false

namespace SchemaEngine

namespace Watcher

/-- When the last timer runs out; where no timer is alive, a deadline that was known before. -/
def lastDeadline (known : Nat) (watcher : Watcher) : Nat :=
  (watcher.timers.getLast?.map (·.deadline)).getD known

/-- How long an edit waits at most. -/
def debounce (watcher : Watcher) : Nat :=
  watcher.options.debounceMs.toNat

end Watcher

/-- The invariant of a watcher, for a number of queued flush jobs, a deadline that is known from
before, and the times since which edits wait: one flush is on its way while the flag is up, an edit
that waits keeps the flag up, and the flush is due in time for every edit. -/
structure Watcher.Timely (queued known : Nat) (since : WatchedEdit → Nat) (watcher : Watcher) :
    Prop where
  single : watcher.timers.length + queued = watcher.queue.armed.toNat
  waiting : watcher.queue.pending ≠ [] → watcher.queue.armed = true
  soon : watcher.queue.armed = true →
    watcher.lastDeadline known ≤ watcher.clock + watcher.debounce
  due : watcher.queue.armed = true →
    ∀ edit, watcher.lastDeadline known ≤ since edit + watcher.debounce
  /-- Where no flush is on its way no edit waits yet. -/
  idle : watcher.queue.armed = false → ∀ edit, watcher.clock ≤ since edit

namespace Watcher

variable {queued known : Nat} {since : WatchedEdit → Nat} {watcher : Watcher}

theorem lastDeadline_eq_of_map_eq {timers : List Timer} (known : Nat) (watcher : Watcher)
    (h : timers.map (·.deadline) = watcher.timers.map (·.deadline)) :
    lastDeadline known { watcher with timers := timers } = lastDeadline known watcher := by
  simp only [lastDeadline, ← List.getLast?_map, h]

theorem edited_of_armed (edit : WatchedEdit) (h : watcher.queue.armed = true) :
    watcher.edited edit = { watcher with queue := (watcher.queue.push edit).2 } := by
  simp [edited, schedule, FlushQueue.arm, FlushQueue.push, h]

theorem edited_of_not_armed (edit : WatchedEdit) (h : watcher.queue.armed = false) :
    watcher.edited edit =
      { watcher with
        queue := { (watcher.queue.push edit).2 with armed := true }
        timers := watcher.timers ++ [⟨watcher.clock + watcher.debounce, false⟩] } := by
  simp [edited, schedule, FlushQueue.arm, FlushQueue.push, debounce, h]

/-- An edit that finds a flush on its way joins it; any other edit starts a timer, which is due in
time for this edit and for all later ones. -/
theorem Timely.edited (h : watcher.Timely queued known since) (edit : WatchedEdit) :
    (watcher.edited edit).Timely queued known since := by
  cases harmed : watcher.queue.armed with
  | true =>
    rw [edited_of_armed edit harmed]
    exact ⟨h.single, fun _ => harmed, h.soon, h.due, h.idle⟩
  | false =>
    have hsingle := h.single
    have hidle := h.idle harmed
    rw [edited_of_not_armed edit harmed]
    refine ⟨?_, fun _ => rfl, fun _ => ?_, fun _ e => ?_, fun hno => by cases hno⟩
    · simp only [harmed, Bool.toNat_false] at hsingle
      simp only [List.length_append, List.length_singleton, Bool.toNat_true]
      omega
    · simp [lastDeadline, debounce]
    · have := hidle e
      simp only [lastDeadline, debounce, List.getLast?_concat, Option.map_some, Option.getD_some]
      omega

theorem edited_same (edit : WatchedEdit) (watcher : Watcher) :
    (watcher.edited edit).clock = watcher.clock ∧
      (watcher.edited edit).cancelled = watcher.cancelled ∧
      (watcher.edited edit).options = watcher.options := by
  cases harmed : watcher.queue.armed with
  | true => rw [edited_of_armed edit harmed]; exact ⟨rfl, rfl, rfl⟩
  | false => rw [edited_of_not_armed edit harmed]; exact ⟨rfl, rfl, rfl⟩

/-- The invariant at a given time, unless flushing is called off. -/
def TimelyAt (clock queued known : Nat) (since : WatchedEdit → Nat) (watcher : Watcher) : Prop :=
  watcher.clock = clock ∧ (watcher.cancelled = false → watcher.Timely queued known since)

/-- Saving edits takes no time and keeps the invariant. -/
theorem TimelyAt.keptBySaving (clock queued known : Nat) (since : WatchedEdit → Nat) :
    KeptBySaving (TimelyAt clock queued known since) where
  edited edit w hw := by
    obtain ⟨hclock, hcancelled, -⟩ := edited_same edit w
    exact ⟨hclock.trans hw.1, fun hlive => (hw.2 (hcancelled ▸ hlive)).edited edit⟩
  cancel w hw := ⟨hw.1, fun hlive => by cases hlive⟩

/-- Taking the edits leaves nothing that waits, so the times may be counted anew. -/
theorem Timely.take (h : watcher.Timely queued known since) :
    ({ watcher with queue := watcher.queue.take.2 } : Watcher).Timely queued known
      fun _ => watcher.clock where
  single := h.single
  waiting := fun hne => absurd rfl hne
  soon := h.soon
  due := fun harmed _ => h.soon harmed
  idle := fun _ _ => Nat.le_refl _

/-- When the flush job runs, it lowers the flag and takes the edits. -/
theorem Timely.run (h : watcher.Timely (queued + 1) known since) :
    ({ watcher with queue := watcher.queue.disarm.take.2 } : Watcher).Timely queued known
      fun _ => watcher.clock where
  single := by
    have := h.single
    have := watcher.queue.armed.toNat_le
    simp only [FlushQueue.take, FlushQueue.disarm, Bool.toNat_false]
    omega
  waiting := fun hne => absurd rfl hne
  soon := fun hno => by cases hno
  due := fun hno => by cases hno
  idle := fun _ _ => Nat.le_refl _

/-- The times may be counted anew for edits that do not wait. -/
theorem Timely.refresh (h : watcher.Timely queued known since) :
    watcher.Timely queued known fun edit =>
      if !watcher.queue.pending.contains edit then watcher.clock else since edit where
  single := h.single
  waiting := h.waiting
  soon := h.soon
  due harmed edit := by
    split
    · exact h.soon harmed
    · exact h.due harmed edit
  idle hno edit := by
    have hnone : watcher.queue.pending = [] := by
      by_contra hne
      simp [h.waiting hne] at hno
    simp [hnone]

/-- Time that passes brings no deadline nearer than the debounce time allows. -/
theorem Timely.wait (h : watcher.Timely queued known since) (milliseconds : Nat) :
    ({ watcher with clock := watcher.clock + milliseconds } : Watcher).Timely queued known
      fun edit =>
        if !watcher.queue.pending.contains edit then watcher.clock + milliseconds
        else since edit where
  single := h.single
  waiting := h.waiting
  soon harmed := by
    have hsoon := h.soon harmed
    simp only [lastDeadline, debounce] at hsoon ⊢
    omega
  due harmed edit := by
    have hsoon := h.soon harmed
    have hdue := h.due harmed edit
    simp only [lastDeadline, debounce] at hsoon hdue ⊢
    split <;> omega
  idle hno edit := by
    have hnone : watcher.queue.pending = [] := by
      by_contra hne
      simp [h.waiting hne] at hno
    simp [hnone]

/-- A timer that runs out is still alive, with the deadline that it had. -/
theorem Timely.expire (h : watcher.Timely queued known since) {index : Nat} {timer : Timer}
    (htimer : watcher.timers[index]? = some timer) :
    ({ watcher with timers := watcher.timers.set index { timer with expired := true } } :
      Watcher).Timely queued known since := by
  have hsame : (watcher.timers.set index { timer with expired := true }).map (·.deadline) =
      watcher.timers.map (·.deadline) := by
    obtain ⟨hlt, rfl⟩ := List.getElem?_eq_some_iff.mp htimer
    rw [List.map_set]
    have hmapped : index < (watcher.timers.map (·.deadline)).length := by simpa using hlt
    have hkept := List.set_getElem_self hmapped
    rwa [List.getElem_map] at hkept
  have hdeadline := lastDeadline_eq_of_map_eq known watcher hsame
  exact ⟨by simpa using h.single, h.waiting, fun harmed => hdeadline ▸ h.soon harmed,
    fun harmed edit => hdeadline ▸ h.due harmed edit, h.idle⟩

/-- The last timer calls for a flush: the job in the queue stands for it, and its deadline is still
known. -/
theorem Timely.deliver (h : watcher.Timely queued known since)
    (hknown : watcher.lastDeadline known = known) {index : Nat} {timer : Timer}
    (htimer : watcher.timers[index]? = some timer) :
    ({ watcher with timers := watcher.timers.eraseIdx index } : Watcher).Timely (queued + 1) known
      since := by
  have hsingle := h.single
  have hlt : index < watcher.timers.length := (List.getElem?_eq_some_iff.mp htimer).1
  have harmed := watcher.queue.armed.toNat_le
  have hlength := List.length_eraseIdx_of_lt hlt
  have hnone : watcher.timers.eraseIdx index = [] := List.length_eq_zero_iff.mp (by omega)
  have hdeadline : lastDeadline known { watcher with timers := [] } = known := rfl
  rw [hnone]
  refine ⟨?_, h.waiting, fun harmed => ?_, fun harmed edit => ?_, h.idle⟩
  · simp only [List.length_nil]
    omega
  · rw [hdeadline, ← hknown]
    exact h.soon harmed
  · rw [hdeadline, ← hknown]
    exact h.due harmed edit

theorem lastDeadline_lastDeadline (known : Nat) (watcher : Watcher) :
    watcher.lastDeadline (watcher.lastDeadline known) = watcher.lastDeadline known := by
  unfold lastDeadline
  cases watcher.timers.getLast? <;> rfl

/-- What is known of the timers that are alive may be taken for known from before. -/
theorem Timely.settle (h : watcher.Timely queued known since) :
    watcher.Timely queued (watcher.lastDeadline known) since := by
  have hsame := lastDeadline_lastDeadline known watcher
  exact ⟨h.single, h.waiting, by rw [hsame]; exact h.soon, by rw [hsame]; exact h.due, h.idle⟩

end Watcher

end SchemaEngine
