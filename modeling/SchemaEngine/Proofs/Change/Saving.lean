import SchemaEngine.Change.Dispatcher

/-!
# What happens to a watcher while documents are saved

Whoever saves a document may report further edits and may call flushing off, and does nothing else
to the watcher. A property of watchers that these two keep is therefore kept by saving any edits.

## Main definitions

* `KeptBySaving`: the property is kept by edits and by calling off.

## Main results

* `WatcherState.saveAll_keeps`: such a property is kept by saving edits.
-/

set_option autoImplicit false

namespace SchemaEngine

/-- What is kept of the hidden rest by every answer is kept by the whole turn. -/
theorem Turn.run_keeps {σ ω Q A R : Type} {P : ω → Prop} {answer : Q → σ → ω → A × σ × ω}
    (hanswer : ∀ question state rest, P rest → P (answer question state rest).2.2)
    (turn : Turn σ Q A R) : ∀ rest, P rest → P (turn.run answer rest).2.2 := by
  induction turn with
  | done state result => exact fun rest hrest => hrest
  | ask state question resume ih =>
    intro rest hrest
    exact ih _ _ _ (hanswer question state rest hrest)

/-- A property of watchers that edits and calling off keep. -/
structure KeptBySaving (P : Watcher → Prop) : Prop where
  edited : ∀ edit watcher, P watcher → P (watcher.edited edit)
  cancel : ∀ watcher, P watcher → P watcher.cancel

namespace WatcherState

theorem pending_edited (edit : WatchedEdit) (watcher : Watcher) :
    (watcher.edited edit).queue.pending =
      Sorted.insert WatchedEdit.order edit watcher.queue.pending := by
  unfold Watcher.edited Watcher.schedule
  dsimp only
  split <;> rfl

variable {H : Type} {P : Watcher → Prop} (c : Collaborators H)

theorem documentChanged_keeps (hP : KeptBySaving P) (document : DocumentId) (s : WatcherState H)
    (hs : P s.watcher) : P (s.documentChanged c document).2.watcher := by
  unfold documentChanged
  split
  · exact hs
  · split
    · exact hs
    · exact hP.edited _ _ hs

theorem duringSave_keeps (hP : KeptBySaving P) (event : SaveEvent) (site : Site H)
    (watcher : Watcher) (hw : P watcher) : P (duringSave c event site watcher).2.2 := by
  cases event with
  | edited document => exact documentChanged_keeps c hP document ⟨watcher, site⟩ hw
  | cancelled => exact hP.cancel watcher hw

theorem save_keeps (hP : KeptBySaving P) (document : DocumentId) (s : WatcherState H)
    (hs : P s.watcher) : P (s.save c document).2.watcher :=
  Turn.run_keeps (duringSave_keeps c hP) _ _ hs

theorem saveAll_keeps (hP : KeptBySaving P) (edits : List WatchedEdit) :
    ∀ (summary : FlushSummary) (s : WatcherState H), P s.watcher →
      P (saveAll c edits summary s).2.watcher := by
  induction edits with
  | nil => exact fun summary s hs => hs
  | cons edit edits ih =>
    intro summary s hs
    have hsaved := save_keeps c hP edit.document s hs
    unfold saveAll
    split
    · exact hs
    · split
      · exact ih _ _ hs
      · split <;> rename_i heq <;> rw [heq] at hsaved <;> exact ih _ _ hsaved

/-- A flush takes the waiting edits first; after that it only saves. -/
theorem flush_keeps (hP : KeptBySaving P) (s : WatcherState H)
    (hs : P { s.watcher with queue := s.watcher.queue.take.2 }) : P (s.flush c).2.watcher := by
  unfold flush
  simp only
  split
  · exact hs
  · exact saveAll_keeps c hP _ _ ⟨_, s.site⟩ hs

end WatcherState

end SchemaEngine
