import SchemaEngine.Change.FlushQueue
import SchemaEngine.Proofs.Order.Sorted

/-!
# Waiting edits are neither lost nor doubled

An edit that is pushed while it waits is not taken in again, under whatever spelling of its file.
So every edit that was taken in is in exactly one batch or still waits. A batch holds what was
pushed since the batch before it, in the order of files and documents and not in that of the
pushes. The flag has a life of its own: it neither sees the edits nor is seen by them.

## Main definitions

* `WatchedEdit.same`: one document in one file.
* `FlushQueue.Act`, `FlushQueue.Event`: the operations, and what they give back.
* `FlushQueue.perform`, `FlushQueue.history`: one operation, and operations one after the other.
* `FlushQueue.accepted`, `FlushQueue.handedOut`: how often an edit was taken in and handed out.
* `FlushQueue.pushedSinceTake`: the edits that were pushed since a batch was last taken.

## Main results

* `FlushQueue.perform_balance`, `FlushQueue.history_balance`: every edit that was taken in is in a
  batch or waits.
* `FlushQueue.history_waits_eq`: what waits is what was pushed since the last batch.
* `FlushQueue.history_raised`: the flag is raised once until it is lowered.
* `FlushQueue.edits_conserved`: all of it, for every sequence of operations.
-/

set_option autoImplicit false

namespace SchemaEngine

open Std

namespace WatchedEdit

/-- Whether two edits are edits of one document in one file. -/
def same (a b : WatchedEdit) : Bool :=
  a.file.same b.file && a.document == b.document

instance : TransCmp order :=
  have := transCmp_comap FileRef.order file
  inferInstanceAs (TransCmp (compareLex (fun a b : WatchedEdit => a.file.order b.file)
    (compareOn fun a : WatchedEdit => a.document.number)))

theorem order_eq_iff {a b : WatchedEdit} : a.order b = .eq ↔ a.same b = true := by
  have hdocument : a.document.number = b.document.number ↔ (a.document == b.document) = true := by
    rw [beq_iff_eq, DocumentId.mk.injEq]
  rw [order, Ordering.then_eq_eq, FileRef.order_eq_iff, LawfulEqOrd.compare_eq_iff_eq, hdocument,
    same, Bool.and_eq_true]

theorem same_eq_isEq (a b : WatchedEdit) : a.same b = (a.order b).isEq := by
  rw [Bool.eq_iff_iff, ← order_eq_iff, Ordering.isEq_iff_eq_eq]

end WatchedEdit

namespace FlushQueue

/-- An operation of the queue. -/
inductive Act where
  | push (edit : WatchedEdit)
  | take
  | arm
  | disarm
  deriving DecidableEq

/-- An operation that was done, with what it gave back. -/
inductive Event where
  /-- An edit was pushed. -/
  | pushed (edit : WatchedEdit) (added : Bool)
  /-- The edits were taken. -/
  | took (batch : List WatchedEdit)
  /-- The flag was to be raised. -/
  | armed (raised : Bool)
  /-- The flag was lowered. -/
  | disarmed
  deriving DecidableEq

namespace Event

/-- The edits that an operation handed out. -/
def batch : Event → List WatchedEdit
  | took batch => batch
  | _ => []

/-- Whether an operation took an edit in. -/
def accepts (edit : WatchedEdit) : Event → Bool
  | pushed other added => added && edit.same other
  | _ => false

end Event

/-- Does one operation. -/
def perform (queue : FlushQueue) : Act → Event × FlushQueue
  | .push edit => (.pushed edit (queue.push edit).1, (queue.push edit).2)
  | .take => (.took queue.take.1, queue.take.2)
  | .arm => (.armed queue.arm.1, queue.arm.2)
  | .disarm => (.disarmed, queue.disarm)

/-- Does operations one after the other. -/
def history (queue : FlushQueue) : List Act → List Event × FlushQueue
  | [] => ([], queue)
  | act :: acts =>
    let later := (queue.perform act).2.history acts
    ((queue.perform act).1 :: later.1, later.2)

/-- Whether an edit waits, under any spelling of its file. -/
def waits (queue : FlushQueue) (edit : WatchedEdit) : Bool :=
  queue.pending.any (edit.same ·)

/-- How often an edit was taken in. -/
def accepted (edit : WatchedEdit) (events : List Event) : Nat :=
  events.countP (·.accepts edit)

/-- How often an edit stands in the batches that were handed out. -/
def handedOut (edit : WatchedEdit) (events : List Event) : Nat :=
  (events.flatMap Event.batch).countP (edit.same ·)

/-- How often the flag was raised. -/
def raised (events : List Event) : Nat :=
  events.count (.armed true)

/-- The edits pushed since a batch was last taken, an operation later. -/
def collect (pushed : List WatchedEdit) : Act → List WatchedEdit
  | .push edit => pushed ++ [edit]
  | .take => []
  | .arm | .disarm => pushed

/-- The edits that were pushed since a batch was last taken, taken in or not. -/
def pushedSinceTake (acts : List Act) : List WatchedEdit :=
  acts.foldl collect []

/-! ### One operation -/

/-- The waiting edits stand in their order, each once. -/
def Sound (queue : FlushQueue) : Prop :=
  Sorted.Increasing WatchedEdit.order queue.pending

variable {queue : FlushQueue} {edit other : WatchedEdit}

theorem waits_eq_contains (queue : FlushQueue) (edit : WatchedEdit) :
    queue.waits edit = Sorted.contains WatchedEdit.order edit queue.pending := by
  simp only [waits, Sorted.contains, WatchedEdit.same_eq_isEq]

theorem push_eq (queue : FlushQueue) (edit : WatchedEdit) :
    (queue.push edit).1 = !queue.waits edit := by
  rw [push, waits_eq_contains]

theorem waits_push (queue : FlushQueue) (edit other : WatchedEdit) :
    (queue.push edit).2.waits other = (other.same edit || queue.waits other) := by
  rw [waits_eq_contains, waits_eq_contains, Bool.eq_iff_iff, Bool.or_eq_true,
    ← WatchedEdit.order_eq_iff]
  exact Sorted.contains_insert

theorem waits_congr (queue : FlushQueue) (h : edit.same other = true) :
    queue.waits edit = queue.waits other := by
  rw [waits_eq_contains, waits_eq_contains]
  exact Sorted.contains_congr (WatchedEdit.order_eq_iff.mpr h)

theorem Sound.countP_pending (h : queue.Sound) (edit : WatchedEdit) :
    queue.pending.countP (edit.same ·) = (queue.waits edit).toNat := by
  simp only [WatchedEdit.same_eq_isEq, waits_eq_contains]
  exact Sorted.countP_increasing h

theorem Sound.perform (h : queue.Sound) (act : Act) : (queue.perform act).2.Sound := by
  cases act with
  | push edit => exact Sorted.increasing_insert h
  | take => exact .nil
  | arm => exact h
  | disarm => exact h

/-- What is in a batch or waits after an operation waited before or was taken in. -/
theorem perform_balance (h : queue.Sound) (act : Act) (edit : WatchedEdit) :
    (queue.perform act).1.batch.countP (edit.same ·) + ((queue.perform act).2.waits edit).toNat =
      (queue.waits edit).toNat + ((queue.perform act).1.accepts edit).toNat := by
  cases act with
  | push other =>
    simp only [FlushQueue.perform, Event.batch, Event.accepts, push_eq, waits_push,
      List.countP_nil, Nat.zero_add]
    cases hsame : edit.same other with
    | false => simp
    | true =>
      rw [← queue.waits_congr hsame]
      cases queue.waits edit <;> rfl
  | take => exact h.countP_pending edit
  | arm => exact Nat.zero_add _
  | disarm => exact Nat.zero_add _

/-- An operation leaves the edits that were pushed since the last batch waiting. -/
theorem perform_waits_eq {pushed : List WatchedEdit}
    (h : ∀ edit, queue.waits edit = pushed.any (edit.same ·)) (act : Act) (edit : WatchedEdit) :
    (queue.perform act).2.waits edit = (collect pushed act).any (edit.same ·) := by
  cases act with
  | push other =>
    rw [FlushQueue.perform, waits_push, h, collect, List.any_append, Bool.or_comm]
    simp
  | take => rfl
  | arm => exact h edit
  | disarm => exact h edit

/-- An operation that does not lower the flag raises it if it was down and is up now. -/
theorem perform_raised (queue : FlushQueue) {act : Act} (h : act ≠ .disarm) :
    raised [(queue.perform act).1] + (!(queue.perform act).2.armed).toNat =
      (!queue.armed).toNat := by
  cases act with
  | push edit => exact Nat.zero_add _
  | take => exact Nat.zero_add _
  | arm => cases hup : queue.armed <;> simp [FlushQueue.perform, arm, raised, hup]
  | disarm => exact absurd rfl h

/-! ### Operations one after the other -/

theorem history_cons_events (queue : FlushQueue) (act : Act) (acts : List Act) :
    (queue.history (act :: acts)).1 =
      (queue.perform act).1 :: ((queue.perform act).2.history acts).1 :=
  rfl

theorem history_cons_queue (queue : FlushQueue) (act : Act) (acts : List Act) :
    (queue.history (act :: acts)).2 = ((queue.perform act).2.history acts).2 :=
  rfl

theorem handedOut_cons (edit : WatchedEdit) (event : Event) (events : List Event) :
    handedOut edit (event :: events) =
      event.batch.countP (edit.same ·) + handedOut edit events := by
  rw [handedOut, List.flatMap_cons, List.countP_append, ← handedOut]

theorem accepted_cons (edit : WatchedEdit) (event : Event) (events : List Event) :
    accepted edit (event :: events) = (event.accepts edit).toNat + accepted edit events := by
  rw [accepted, List.countP_cons, ← accepted, Nat.add_comm]
  cases event.accepts edit <;> rfl

theorem raised_cons (event : Event) (events : List Event) :
    raised (event :: events) = raised [event] + raised events := by
  rw [← List.singleton_append, raised, List.count_append, ← raised, ← raised]

theorem Sound.history (h : queue.Sound) (acts : List Act) : (queue.history acts).2.Sound := by
  induction acts generalizing queue with
  | nil => exact h
  | cons act acts ih => exact ih (h.perform act)

/-- What is in a batch or waits in the end waited at first or was taken in. -/
theorem history_balance (h : queue.Sound) (acts : List Act) (edit : WatchedEdit) :
    handedOut edit (queue.history acts).1 + ((queue.history acts).2.waits edit).toNat =
      (queue.waits edit).toNat + accepted edit (queue.history acts).1 := by
  induction acts generalizing queue with
  | nil => exact Nat.zero_add _
  | cons act acts ih =>
    have hstep := perform_balance h act edit
    have hrest := ih (h.perform act)
    rw [history_cons_events, history_cons_queue, handedOut_cons, accepted_cons]
    omega

/-- What waits in the end is what was pushed since the last batch. -/
theorem history_waits_eq {pushed : List WatchedEdit}
    (h : ∀ edit, queue.waits edit = pushed.any (edit.same ·)) (acts : List Act)
    (edit : WatchedEdit) :
    (queue.history acts).2.waits edit = (acts.foldl collect pushed).any (edit.same ·) := by
  induction acts generalizing queue pushed with
  | nil => exact h edit
  | cons act acts ih => exact ih (perform_waits_eq h act)

/-- Until it is lowered the flag is raised once, if it was down and is up in the end. -/
theorem history_raised (queue : FlushQueue) {acts : List Act} (h : .disarm ∉ acts) :
    raised (queue.history acts).1 + (!(queue.history acts).2.armed).toNat =
      (!queue.armed).toNat := by
  induction acts generalizing queue with
  | nil => exact Nat.zero_add _
  | cons act acts ih =>
    obtain ⟨hact, hacts⟩ := not_or.mp (mt List.mem_cons.mpr h)
    have hstep := perform_raised queue (Ne.symm hact)
    have hrest := ih (queue.perform act).2 hacts
    rw [history_cons_events, history_cons_queue, raised_cons]
    omega

/-- A queue that waited for nothing waits for what was pushed since the last batch. -/
theorem waits_eq_pushedSinceTake (acts : List Act) (edit : WatchedEdit) :
    (history {} acts).2.waits edit = (pushedSinceTake acts).any (edit.same ·) :=
  history_waits_eq (fun _ => rfl) acts edit

theorem sound_new : Sound {} :=
  List.Pairwise.nil

theorem sound_history (acts : List Act) : (history {} acts).2.Sound :=
  sound_new.history acts

/-- After any operations on a new queue, every edit was taken in as often as it stands in a batch or
waits. It is taken in if it does not wait. The next batch strictly increases and holds the edits
that were pushed since the last one, so it is the same, up to spelling, after any other operations
that pushed these edits since their last batch. The flag and the waiting edits do not touch each
other, and however it goes on, the flag is raised at most once until it is lowered. -/
theorem edits_conserved {acts : List Act} {events : List Event} {queue : FlushQueue}
    (h : history {} acts = (events, queue)) :
    (∀ edit, handedOut edit events + (queue.waits edit).toNat = accepted edit events) ∧
    (∀ edit, (queue.push edit).1 = true ↔ queue.waits edit = false) ∧
    Sorted.Increasing WatchedEdit.order queue.take.1 ∧
    (∀ edit : WatchedEdit, (∃ taken ∈ queue.take.1, edit.same taken = true) ↔
      ∃ pushed ∈ pushedSinceTake acts, edit.same pushed = true) ∧
    (∀ others : List Act,
      (∀ edit : WatchedEdit, (∃ pushed ∈ pushedSinceTake acts, edit.same pushed = true) ↔
        ∃ pushed ∈ pushedSinceTake others, edit.same pushed = true) →
      List.Forall₂ (·.same · = true) queue.take.1 (history {} others).2.take.1) ∧
    queue.arm.2.pending = queue.pending ∧ queue.disarm.pending = queue.pending ∧
    (∀ edit, (queue.push edit).2.armed = queue.armed) ∧ queue.take.2.armed = queue.armed ∧
    (∀ further, .disarm ∉ further → raised (queue.history further).1 ≤ 1) := by
  obtain rfl : (history {} acts).1 = events := congrArg Prod.fst h
  obtain rfl : (history {} acts).2 = queue := congrArg Prod.snd h
  have hsound := sound_history acts
  refine ⟨fun edit => ?_, fun edit => ?_, hsound, fun edit => ?_, fun others hsame => ?_, rfl, rfl,
    fun _ => rfl, rfl, fun further hup => ?_⟩
  · exact (history_balance sound_new acts edit).trans (Nat.zero_add _)
  · rw [push_eq, Bool.not_eq_true']
  · rw [← List.any_eq_true, ← List.any_eq_true, ← waits_eq_pushedSinceTake]
    rfl
  · have hbatches := Sorted.forall₂_of_contains_eq hsound (sound_history others) fun edit => by
      rw [← waits_eq_contains, ← waits_eq_contains, waits_eq_pushedSinceTake,
        waits_eq_pushedSinceTake, Bool.eq_iff_iff, List.any_eq_true, List.any_eq_true, hsame]
    exact hbatches.imp fun _ _ => WatchedEdit.order_eq_iff.mp
  · have hraised := history_raised (history {} acts).2 hup
    have hdown := (!(history {} acts).2.armed).toNat_le
    omega

section Example

/-- A document, its file under another spelling, and a document of another file. -/
def exampleEdits : WatchedEdit × WatchedEdit × WatchedEdit :=
  (⟨⟨⟨[47, 97]⟩, false⟩, ⟨1⟩⟩, ⟨⟨⟨[47, 47, 97]⟩, false⟩, ⟨1⟩⟩, ⟨⟨⟨[47, 98]⟩, false⟩, ⟨2⟩⟩)

/-- Two edits are pushed against their order, the first of them twice. -/
def pushesBackwards : List Act :=
  [.push exampleEdits.2.2, .arm, .push exampleEdits.2.1, .push exampleEdits.2.2]

/-- They are pushed in their order, under another spelling and after a batch. -/
def pushesAfterBatch : List Act :=
  [.push exampleEdits.1, .take, .push exampleEdits.1, .push exampleEdits.2.2]

/-- The batch is the same whichever way the two edits were pushed, up to the spelling of a file. -/
theorem edits_conserved_respelled :
    (history {} pushesBackwards).2.take.1 = [exampleEdits.2.1, exampleEdits.2.2] ∧
      List.Forall₂ (·.same · = true) (history {} pushesBackwards).2.take.1
        (history {} pushesAfterBatch).2.take.1 ∧
      raised ((history {} pushesBackwards).2.history [.disarm, .arm, .arm]).1 = 1 ∧
      raised ((history {} pushesBackwards).2.history [.arm, .take, .arm]).1 ≤ 1 := by
  obtain ⟨-, -, -, -, hbatches, -, -, -, -, hraised⟩ :=
    edits_conserved (rfl : history {} pushesBackwards = _)
  have hspelling : ∀ edit : WatchedEdit,
      edit.same exampleEdits.2.1 = edit.same exampleEdits.1 := fun _ => rfl
  have hsame : ∀ edit : WatchedEdit,
      (∃ pushed ∈ pushedSinceTake pushesBackwards, edit.same pushed = true) ↔
        ∃ pushed ∈ pushedSinceTake pushesAfterBatch, edit.same pushed = true := by
    intro edit
    simp only [pushesBackwards, pushesAfterBatch, pushedSinceTake, List.foldl, collect,
      List.nil_append, List.cons_append, List.mem_cons, List.not_mem_nil, or_false,
      exists_eq_or_imp, exists_eq_left, hspelling]
    tauto
  exact ⟨by decide, hbatches pushesAfterBatch hsame, by decide, hraised _ (by decide)⟩

end Example

end FlushQueue

end SchemaEngine
