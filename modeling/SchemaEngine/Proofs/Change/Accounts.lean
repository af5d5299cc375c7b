import SchemaEngine.Proofs.Change.Coalescing
import SchemaEngine.Proofs.Change.Silence
import SchemaEngine.Proofs.Host.Minutes

/-!
# A flush accounts for its batch

A flush takes the edits that wait and visits them in order. A visit ends in one of four ways, and
only a visit to an edit whose file is valid asks for a save. While a document is saved, edits may be
pushed and flushing may be called off; then the rest of the batch is not visited. The visits are
made explicit here, and what a flush does is read off them: its summary, the saves that it asks for,
and the edits that wait when it is over.

## Main definitions

* `Turn.gather`: what is gathered at the questions of a turn.
* `Fate`, `Visit`: what became of one edit of a batch.
* `WatcherState.Meets`, `WatcherState.Passes`: one visit, and visits one after the other.
* `FlushSummary.tally`: a summary with visits added.

## Main results

* `WatcherState.saveAll_of_passes`, `WatcherState.saveAll_minuted_of_passes`: visits lead through
  the first edits of a batch.
* `WatcherState.exists_passes`: a batch is visited to its end or until flushing is called off.
* `WatcherState.pending_of_passes`: what waits after visits.
* `WatcherState.flush_accounts_for_batch`: all of it, for every flush.
-/

set_option autoImplicit false

namespace SchemaEngine

/-! ### What is gathered during a turn -/

namespace Turn

variable {σ ω Q A R E V : Type}

/-- What is gathered at the questions of a turn, in the order in which they are asked. -/
def gather (answer : Q → σ → ω → A × σ × ω) (seen : Q → σ → ω → List E) :
    Turn σ Q A R → ω → List E
  | done _ _, _ => []
  | ask state question resume, rest =>
    seen question state rest ++
      (resume (answer question state rest).2.1 (answer question state rest).1).gather answer seen
        (answer question state rest).2.2

/-- What every answer adds to the hidden rest is added by the whole turn. -/
theorem run_eq_foldl_gather {answer : Q → σ → ω → A × σ × ω} {seen : Q → σ → ω → List E}
    (view : ω → V) {add : V → E → V}
    (h : ∀ question state rest, view (answer question state rest).2.2 =
      (seen question state rest).foldl add (view rest))
    (turn : Turn σ Q A R) : ∀ rest,
      view (turn.run answer rest).2.2 = (turn.gather answer seen rest).foldl add (view rest) := by
  induction turn with
  | done state result => exact fun rest => rfl
  | ask state question resume ih =>
    intro rest
    rw [gather, List.foldl_append, ← h]
    exact ih _ _ _

end Turn

/-- Nothing waits as long as nothing is pushed. -/
theorem FlushQueue.pending_history_of_not_pushed {queue : FlushQueue} (h : queue.pending = [])
    {acts : List Act} (hacts : ∀ edit, .push edit ∉ acts) :
    (queue.history acts).2.pending = [] := by
  induction acts generalizing queue with
  | nil => exact h
  | cons act acts ih =>
    have hrest : ∀ edit, .push edit ∉ acts := fun edit hedit =>
      hacts edit (List.mem_cons_of_mem act hedit)
    cases act with
    | push edit => exact absurd List.mem_cons_self (hacts edit)
    | take => exact ih rfl hrest
    | arm | disarm => exact ih h hrest

/-! ### Visits -/

/-- What becomes of an edit of a batch. -/
inductive Fate where
  /-- Its document was written. -/
  | saved
  /-- There was nothing to write. -/
  | unchanged
  /-- Its file is gone. -/
  | dropped
  /-- It could not be written. -/
  | failed
  deriving Repr, DecidableEq

/-- A visit to one edit of a batch. -/
structure Visit where
  edit : WatchedEdit
  fate : Fate
  /-- The edits that were pushed meanwhile. -/
  pushed : List WatchedEdit
  deriving Repr, DecidableEq

/-- What a visit asks for: the document is saved, unless the edit is dropped. -/
def Visit.requests (visit : Visit) : List Request :=
  if visit.fate = .dropped then [] else [.save visit.edit.document]

namespace FlushSummary

/-- The summary with one more edit. -/
def count (summary : FlushSummary) : Fate → FlushSummary
  | .saved => { summary with saved := summary.saved + 1 }
  | .unchanged => { summary with unchanged := summary.unchanged + 1 }
  | .dropped => { summary with dropped := summary.dropped + 1 }
  | .failed => { summary with failed := summary.failed + 1 }

/-- How many visits ended in a certain way. -/
def ended (fate : Fate) (visits : List Visit) : Nat :=
  visits.countP (·.fate = fate)

/-- The summary with visits added. -/
def tally (summary : FlushSummary) (visits : List Visit) : FlushSummary :=
  visits.foldl (fun summary visit => summary.count visit.fate) summary

theorem ended_cons (fate : Fate) (visit : Visit) (visits : List Visit) :
    ended fate (visit :: visits) = ended fate visits + if visit.fate = fate then 1 else 0 := by
  rw [ended, List.countP_cons, ← ended]
  simp only [decide_eq_true_eq]

theorem tally_eq (summary : FlushSummary) (visits : List Visit) :
    summary.tally visits =
      { saved := summary.saved + ended .saved visits
        unchanged := summary.unchanged + ended .unchanged visits
        dropped := summary.dropped + ended .dropped visits
        failed := summary.failed + ended .failed visits
        cancelled := summary.cancelled } := by
  induction visits generalizing summary with
  | nil => rfl
  | cons visit visits ih =>
    refine (ih (summary.count visit.fate)).trans ?_
    simp only [ended_cons]
    cases visit.fate <;>
      simp only [count, if_true, reduceCtorEq, if_false, Nat.add_zero, Nat.add_assoc,
        Nat.add_comm 1]

/-- Every visit ends in exactly one way. -/
theorem sum_ended (visits : List Visit) :
    ended .saved visits + ended .unchanged visits + ended .dropped visits + ended .failed visits =
      visits.length := by
  induction visits with
  | nil => rfl
  | cons visit visits ih =>
    simp only [ended_cons, List.length_cons, ← ih]
    cases visit.fate <;> simp only [if_true, reduceCtorEq, if_false] <;> omega

end FlushSummary

namespace WatcherState

variable {H : Type}

/-- The edits that are pushed by what happens while a document is being saved. -/
def pushedDuring (c : Collaborators H) (event : SaveEvent) (site : Site H) (watcher : Watcher) :
    List WatchedEdit :=
  match event with
  | .edited document =>
    if (documentChanged c document ⟨watcher, site⟩).1 then
      (c.documents.fileOf site.host document).toList.map fun file => ⟨file, document⟩
    else []
  | .cancelled => []

/-- The edits that are pushed while a document is saved. -/
def pushedBySave (c : Collaborators H) (document : DocumentId) (s : WatcherState H) :
    List WatchedEdit :=
  (c.documents.save document s.site).gather (duringSave c) (pushedDuring c) s.watcher

/-- An edit is visited in one state, and left in another one. -/
inductive Meets (c : Collaborators H) (edit : WatchedEdit) :
    WatcherState H → Visit → WatcherState H → Prop where
  | saved {s t : WatcherState H} (hvalid : c.files.isValid s.site.host edit.file = true)
      (hsave : s.save c edit.document = (.ok true, t)) :
      Meets c edit s ⟨edit, .saved, s.pushedBySave c edit.document⟩ t
  | unchanged {s t : WatcherState H} (hvalid : c.files.isValid s.site.host edit.file = true)
      (hsave : s.save c edit.document = (.ok false, t)) :
      Meets c edit s ⟨edit, .unchanged, s.pushedBySave c edit.document⟩ t
  | dropped {s : WatcherState H} (hvalid : c.files.isValid s.site.host edit.file = false) :
      Meets c edit s ⟨edit, .dropped, []⟩ s
  | failed {s t : WatcherState H} {e : StorageError}
      (hvalid : c.files.isValid s.site.host edit.file = true)
      (hsave : s.save c edit.document = (.error e, t)) :
      Meets c edit s ⟨edit, .failed, s.pushedBySave c edit.document⟩
        (t.note (.saveFailed edit.file e))

/-- Edits are visited one after the other; flushing is not called off before any of the visits. -/
inductive Passes (c : Collaborators H) : WatcherState H → List Visit → WatcherState H → Prop where
  | nil (s : WatcherState H) : Passes c s [] s
  | cons {s t u : WatcherState H} {visit : Visit} {visits : List Visit}
      (hgoes : s.watcher.cancelled = false) (hmeets : Meets c visit.edit s visit t)
      (hpasses : Passes c t visits u) : Passes c s (visit :: visits) u

variable {c : Collaborators H} {s t : WatcherState H} {edit : WatchedEdit} {visit : Visit}
  {visits : List Visit}

theorem Meets.edit_eq (h : Meets c edit s visit t) : visit.edit = edit := by
  cases h <;> rfl

/-- Every edit can be visited. -/
theorem exists_meets (c : Collaborators H) (edit : WatchedEdit) (s : WatcherState H) :
    ∃ visit t, Meets c edit s visit t := by
  cases hvalid : c.files.isValid s.site.host edit.file with
  | false => exact ⟨_, _, .dropped hvalid⟩
  | true =>
    rcases hsave : s.save c edit.document with ⟨⟨e⟩ | ⟨written⟩, t⟩
    · exact ⟨_, _, .failed hvalid hsave⟩
    · cases written with
      | false => exact ⟨_, _, .unchanged hvalid hsave⟩
      | true => exact ⟨_, _, .saved hvalid hsave⟩

/-- A batch is visited to its end, or until flushing is found called off. -/
theorem exists_passes (c : Collaborators H) (batch : List WatchedEdit) (s : WatcherState H) :
    ∃ visits t rest, Passes c s visits t ∧ batch = visits.map Visit.edit ++ rest ∧
      (rest ≠ [] → t.watcher.cancelled = true) := by
  induction batch generalizing s with
  | nil => exact ⟨[], s, [], .nil s, rfl, fun h => absurd rfl h⟩
  | cons edit edits ih =>
    cases hcancelled : s.watcher.cancelled with
    | true => exact ⟨[], s, edit :: edits, .nil s, rfl, fun _ => hcancelled⟩
    | false =>
      -- The rest is visited from the state that this visit leaves.
      obtain ⟨visit, t, hmeets⟩ := exists_meets c edit s
      obtain ⟨visits, u, rest, hpasses, rfl, hrest⟩ := ih t
      obtain rfl := hmeets.edit_eq
      exact ⟨visit :: visits, u, rest, .cons hcancelled hmeets hpasses, rfl, hrest⟩

/-! ### The summary -/

theorem saveAll_cons_of_meets (hgoes : s.watcher.cancelled = false) (h : Meets c edit s visit t)
    (edits : List WatchedEdit) (summary : FlushSummary) :
    saveAll c (edit :: edits) summary s = saveAll c edits (summary.count visit.fate) t := by
  cases h with
  | dropped hvalid => simp [saveAll, hgoes, hvalid, FlushSummary.count]
  | saved hvalid hsave | unchanged hvalid hsave | failed hvalid hsave =>
    simp [saveAll, hgoes, hvalid, hsave, FlushSummary.count]

/-- The edits that are visited are counted, and the rest of the batch is left. -/
theorem saveAll_of_passes (h : Passes c s visits t) (rest : List WatchedEdit)
    (summary : FlushSummary) :
    saveAll c (visits.map Visit.edit ++ rest) summary s =
      saveAll c rest (summary.tally visits) t := by
  induction h generalizing summary with
  | nil s => rfl
  | cons hgoes hmeets _ ih => exact (saveAll_cons_of_meets hgoes hmeets _ summary).trans (ih _)

/-! ### The saves that are asked for -/

/-- A watcher at a site with minutes. -/
def minuted (requests : List Request) (s : WatcherState H) : WatcherState (Minuted H) :=
  ⟨s.watcher, s.site.minuted requests⟩

@[simp]
theorem note_minuted (requests : List Request) (entry : Entry) (s : WatcherState H) :
    (s.minuted requests).note entry = (s.note entry).minuted requests :=
  rfl

theorem documentChanged_minuted (c : Collaborators H) (document : DocumentId)
    (requests : List Request) (s : WatcherState H) :
    (s.minuted requests).documentChanged c.minuted document =
      ((s.documentChanged c document).1, (s.documentChanged c document).2.minuted requests) := by
  have hfile : c.minuted.documents.fileOf (s.minuted requests).site.host document =
      c.documents.fileOf s.site.host document := rfl
  have hwatcher : (s.minuted requests).watcher = s.watcher := rfl
  unfold documentChanged
  rw [hfile, hwatcher]
  split
  case h_1 => rfl
  case h_2 => split <;> rfl

theorem duringSave_minuted (c : Collaborators H) (event : SaveEvent) (requests : List Request)
    (site : Site H) (watcher : Watcher) :
    duringSave c.minuted event (site.minuted requests) watcher =
      ((duringSave c event site watcher).1, (duringSave c event site watcher).2.1.minuted requests,
        (duringSave c event site watcher).2.2) := by
  cases event with
  | edited document =>
    have hchanged := documentChanged_minuted c document requests ⟨watcher, site⟩
    simp only [duringSave]
    exact congrArg (fun outcome => (outcome.1, outcome.2.site, outcome.2.watcher)) hchanged
  | cancelled => rfl

/-- A save is what it was, and is noted. -/
theorem save_minuted (c : Collaborators H) (document : DocumentId) (requests : List Request)
    (s : WatcherState H) :
    (s.minuted requests).save c.minuted document =
      ((s.save c document).1, (s.save c document).2.minuted (requests ++ [.save document])) := by
  have hrun := Turn.run_minuted (requests ++ [.save document])
    (fun event site watcher => duringSave_minuted c event _ site watcher)
    (c.documents.save document s.site) s.watcher
  exact congrArg (fun outcome => (outcome.1, WatcherState.mk outcome.2.2 outcome.2.1)) hrun

theorem saveAll_minuted_cons_of_meets (hgoes : s.watcher.cancelled = false)
    (h : Meets c edit s visit t) (edits : List WatchedEdit) (summary : FlushSummary)
    (requests : List Request) :
    saveAll c.minuted (edit :: edits) summary (s.minuted requests) =
      saveAll c.minuted edits (summary.count visit.fate)
        (t.minuted (requests ++ visit.requests)) := by
  have hvalid : c.minuted.files.isValid (s.minuted requests).site.host edit.file =
      c.files.isValid s.site.host edit.file := rfl
  have hwatcher : (s.minuted requests).watcher = s.watcher := rfl
  rw [saveAll, hwatcher, hvalid, save_minuted]
  cases h with
  | dropped hvalid => simp [hgoes, hvalid, FlushSummary.count, Visit.requests]
  | saved hvalid hsave | unchanged hvalid hsave | failed hvalid hsave =>
    simp [hgoes, hvalid, hsave, FlushSummary.count, Visit.requests]

/-- The visits make their requests, in order, and change nothing else. -/
theorem saveAll_minuted_of_passes (h : Passes c s visits t) (rest : List WatchedEdit)
    (summary : FlushSummary) (requests : List Request) :
    saveAll c.minuted (visits.map Visit.edit ++ rest) summary (s.minuted requests) =
      saveAll c.minuted rest (summary.tally visits)
        (t.minuted (requests ++ visits.flatMap Visit.requests)) := by
  induction h generalizing summary requests with
  | nil s => rw [List.flatMap_nil, List.append_nil]; rfl
  | cons hgoes hmeets _ ih =>
    rw [List.flatMap_cons, ← List.append_assoc]
    exact (saveAll_minuted_cons_of_meets hgoes hmeets _ summary requests).trans (ih _ _)

/-! ### The edits that wait -/

theorem pending_duringSave (c : Collaborators H) (event : SaveEvent) (site : Site H)
    (watcher : Watcher) :
    (duringSave c event site watcher).2.2.queue.pending =
      Sorted.union WatchedEdit.order watcher.queue.pending
        (pushedDuring c event site watcher) := by
  cases event with
  | edited document =>
    simp only [duringSave, pushedDuring, documentChanged]
    split
    case h_1 => rfl
    case h_2 file hfile =>
      split
      case isTrue => rfl
      case isFalse => rw [hfile]; exact pending_edited ⟨file, document⟩ watcher
  | cancelled => rfl

theorem pending_save (c : Collaborators H) (document : DocumentId) (s : WatcherState H) :
    (s.save c document).2.watcher.queue.pending =
      Sorted.union WatchedEdit.order s.watcher.queue.pending (s.pushedBySave c document) :=
  Turn.run_eq_foldl_gather (fun watcher : Watcher => watcher.queue.pending)
    (pending_duringSave c) _ _

theorem Meets.pending_eq (h : Meets c edit s visit t) :
    t.watcher.queue.pending =
      Sorted.union WatchedEdit.order s.watcher.queue.pending visit.pushed := by
  cases h with
  | dropped => rfl
  | saved _ hsave | unchanged _ hsave | failed _ hsave =>
    have hpending := pending_save c edit.document s
    rwa [hsave] at hpending

/-- What waits after visits waited before or was pushed during one of them. -/
theorem pending_of_passes (h : Passes c s visits t) :
    t.watcher.queue.pending =
      Sorted.union WatchedEdit.order s.watcher.queue.pending (visits.flatMap Visit.pushed) := by
  induction h with
  | nil s => rfl
  | cons _ hmeets _ ih =>
    rw [List.flatMap_cons, Sorted.union, List.foldl_append]
    exact ih.trans (congrArg (Sorted.union WatchedEdit.order · _) hmeets.pending_eq)

/-! ### A flush -/

/-- What is left of a batch when flushing is called off is lost, and the summary says so. -/
theorem saveAll_rest {rest : List WatchedEdit} (h : rest ≠ [] → t.watcher.cancelled = true)
    {summary : FlushSummary} (hsummary : summary.cancelled = false) :
    saveAll c rest summary t =
      ({ summary with cancelled := !rest.isEmpty },
        if rest.isEmpty then t else t.note .flushCancelled) := by
  cases rest with
  | nil => cases summary; cases hsummary; rfl
  | cons edit edits => exact saveAll_of_cancelled (h (List.cons_ne_nil edit edits)) _ _

theorem flush_of_nothing_waiting (c : Collaborators H) (h : s.watcher.queue.pending = []) :
    s.flush c = ({}, s) := by
  have htaken : s.taken = s := by
    rw [taken, FlushQueue.take, ← h]
  rw [flush_eq, h, htaken]
  rfl

/-- A flush is the saving of its batch, which is reported if there is one. -/
theorem flush_of_saveAll {summary : FlushSummary}
    (h : saveAll c s.watcher.queue.pending {} s.taken = (summary, t)) :
    s.flush c =
      (summary, if s.watcher.queue.pending.isEmpty then t else t.note (.flushed summary)) := by
  rw [flush_eq, h]
  split
  case isTrue hempty =>
    rw [List.isEmpty_iff.mp hempty] at h
    exact h
  case isFalse => rfl

/-- A flush does what its visits do. -/
theorem flush_of_passes {rest : List WatchedEdit} (h : Passes c s.taken visits t)
    (hbatch : s.watcher.queue.pending = visits.map Visit.edit ++ rest)
    (hrest : rest ≠ [] → t.watcher.cancelled = true) :
    (s.flush c).1 = { FlushSummary.tally {} visits with cancelled := !rest.isEmpty } ∧
      (s.flush c).2.watcher = t.watcher ∧ (s.flush c).2.site.host = t.site.host ∧
      (s.minuted []).flush c.minuted =
        ((s.flush c).1, (s.flush c).2.minuted (visits.flatMap Visit.requests)) := by
  have hsummary : (FlushSummary.tally {} visits).cancelled = false := by
    rw [FlushSummary.tally_eq]
  have hplain := flush_of_saveAll <| hbatch ▸
    (saveAll_of_passes h rest {}).trans (saveAll_rest hrest hsummary)
  have hminuted := flush_of_saveAll (s := s.minuted []) (c := c.minuted) <| hbatch ▸
    (saveAll_minuted_of_passes h rest {} []).trans
      (saveAll_rest (t := t.minuted (visits.flatMap Visit.requests)) hrest hsummary)
  have hwatcher : (s.minuted []).watcher = s.watcher := rfl
  rw [hplain, hminuted, hwatcher]
  -- What is left of the batch, and whether there was one, shows in the journal only.
  refine ⟨rfl, ?_, ?_, ?_⟩ <;>
    cases s.watcher.queue.pending.isEmpty <;> cases rest.isEmpty <;> rfl

end WatcherState

open WatcherState

/-- A flush takes every edit that waits, which is every edit that was pushed since the last batch
was taken, and visits them in their strict order until it is over or finds flushing called off. So
the edits that are visited are the first ones of the batch, and the others are lost; there are
others just if the summary says that flushing was called off. The summary counts how the visits
ended, and each of them ended in one way. A document is saved once for each visit to an edit whose
file is valid, in the order of the visits, and nothing else is asked for. What waits afterwards is
what was pushed during the visits; if that is nothing, a further flush does nothing, unless an edit
is pushed before it. -/
theorem flush_accounts_for_batch {H : Type} (c : Collaborators H) {s : WatcherState H}
    {acts : List FlushQueue.Act}
    (hqueue : s.watcher.queue = (FlushQueue.history {} acts).2) :
    Sorted.Increasing WatchedEdit.order s.watcher.queue.pending ∧
    (∀ edit : WatchedEdit, (∃ waiting ∈ s.watcher.queue.pending, edit.same waiting = true) ↔
      ∃ pushed ∈ FlushQueue.pushedSinceTake acts, edit.same pushed = true) ∧
    ∃ (visits : List Visit) (t : WatcherState H),
      visits.map Visit.edit = s.watcher.queue.pending.take visits.length ∧
      Passes c s.taken visits t ∧
      (visits.length < s.watcher.queue.pending.length → t.watcher.cancelled = true) ∧
      (s.flush c).1 =
        { saved := FlushSummary.ended .saved visits
          unchanged := FlushSummary.ended .unchanged visits
          dropped := FlushSummary.ended .dropped visits
          failed := FlushSummary.ended .failed visits
          cancelled := decide (visits.length < s.watcher.queue.pending.length) } ∧
      FlushSummary.ended .saved visits + FlushSummary.ended .unchanged visits +
        FlushSummary.ended .dropped visits + FlushSummary.ended .failed visits = visits.length ∧
      (s.minuted []).flush c.minuted =
        ((s.flush c).1, (s.flush c).2.minuted (visits.flatMap Visit.requests)) ∧
      (s.flush c).2.site.host = t.site.host ∧ (s.flush c).2.watcher = t.watcher ∧
      (s.flush c).2.watcher.queue.pending =
        Sorted.union WatchedEdit.order [] (visits.flatMap Visit.pushed) ∧
      ((∀ visit ∈ visits, visit.pushed = []) →
        ∀ (later : WatcherState H) (further : List FlushQueue.Act),
          later.watcher.queue = ((s.flush c).2.watcher.queue.history further).2 →
          (∀ edit, .push edit ∉ further) →
            later.flush c = ({}, later) ∧
              (later.minuted []).flush c.minuted = ({}, later.minuted [])) := by
  have hsound : s.watcher.queue.Sound := hqueue ▸ FlushQueue.sound_history acts
  refine ⟨hsound, fun edit => ?_, ?_⟩
  · rw [← List.any_eq_true, ← List.any_eq_true, ← FlushQueue.waits_eq_pushedSinceTake, ← hqueue]
    rfl
  obtain ⟨visits, t, rest, hpasses, hbatch, hrest⟩ :=
    exists_passes c s.watcher.queue.pending s.taken
  obtain ⟨hsummary, hwatcher, hhost, hminuted⟩ := flush_of_passes hpasses hbatch hrest
  have hpending : (s.flush c).2.watcher.queue.pending =
      Sorted.union WatchedEdit.order [] (visits.flatMap Visit.pushed) := by
    rw [hwatcher]
    exact pending_of_passes hpasses
  have hlength : s.watcher.queue.pending.length = visits.length + rest.length := by
    rw [hbatch, List.length_append, List.length_map]
  have hleft : (!rest.isEmpty) = decide (visits.length < s.watcher.queue.pending.length) := by
    rw [hlength]
    cases rest <;> simp
  refine ⟨visits, t, ?_, hpasses, fun hless => hrest fun hnil => ?_, ?_,
    FlushSummary.sum_ended visits, hminuted, hhost, hwatcher, hpending,
    fun hnone later further hlater hfurther => ?_⟩
  · rw [hbatch, List.take_left' (List.length_map Visit.edit)]
  · rw [hlength, hnil] at hless
    exact absurd hless (Nat.lt_irrefl _)
  · rw [hsummary, hleft, FlushSummary.tally_eq]
    simp only [Nat.zero_add]
  · have hempty : (s.flush c).2.watcher.queue.pending = [] := by
      rw [hpending, List.flatMap_eq_nil_iff.mpr hnone]
      rfl
    have hnothing : later.watcher.queue.pending = [] :=
      hlater ▸ FlushQueue.pending_history_of_not_pushed hempty hfurther
    exact ⟨flush_of_nothing_waiting c hnothing,
      flush_of_nothing_waiting (s := later.minuted []) c.minuted hnothing⟩

section Example

/-- The edit of a document over a file with the name of its number. -/
def numberedEdit (number : Nat) : WatchedEdit :=
  ⟨⟨⟨[47, 48 + number.toUInt8]⟩, false⟩, ⟨number⟩⟩

/-- Collaborators that save documents in different ways. The first document is edited once more
while it is written, the second one has no file any more, the third one cannot be written, and
flushing is called off while the fourth one is looked at. -/
def hurriedCollaborators : Collaborators Unit where
  resolver :=
    { stamp := fun _ => 0
      projectConfig := fun _ site => (none, site)
      hasConfigFiles := fun site => (false, site)
      directories := fun _ => []
      configFileIn := fun _ site => (none, site)
      reload := fun site => (.finished, site) }
  files :=
    { isValid := fun _ file => file != (numberedEdit 2).file
      isDirectory := fun _ _ => false
      isInProject := fun _ _ => true
      stamp := fun _ _ => 0 }
  documents :=
    { fileOf := fun _ document => some (numberedEdit document.number).file
      save := fun document site =>
        match document.number with
        | 1 => .ask site (.edited document) fun site _ => .done site (.ok true)
        | 3 => .done site (.error (.unknownDocument document))
        | _ => .ask site .cancelled fun site _ => .done site (.ok false) }
  libraries site := ([], site)
  registryInfo _ site := .done site (.ok {})
  validate _ site := .done site (.ok [])

/-- The edits of five documents are pushed, one of them twice. -/
def fivePushes : List FlushQueue.Act :=
  [4, 2, 5, 1, 3, 2].map fun number => .push (numberedEdit number)

/-- A watcher with five edits that wait. -/
def fiveWaiting : WatcherState Unit where
  watcher :=
    { options := { names := .ofList ["1"] }
      queue := (FlushQueue.history {} fivePushes).2 }
  site := { host := () }

/-- The fifth edit is lost, and the first document waits once more. -/
theorem flush_accounts_for_batch_hurried :
    fiveWaiting.watcher.queue.pending = [1, 2, 3, 4, 5].map numberedEdit ∧
    ((fiveWaiting.minuted []).flush hurriedCollaborators.minuted).2.site.host.requests =
      [.save ⟨1⟩, .save ⟨3⟩, .save ⟨4⟩] ∧
    ∃ visits : List Visit,
      visits.map Visit.edit = [1, 2, 3, 4].map numberedEdit ∧
      visits.flatMap Visit.requests = [.save ⟨1⟩, .save ⟨3⟩, .save ⟨4⟩] ∧
      (fiveWaiting.flush hurriedCollaborators).1 =
        { saved := 1, unchanged := 1, dropped := 1, failed := 1, cancelled := true } ∧
      (fiveWaiting.flush hurriedCollaborators).2.watcher.queue.pending = [numberedEdit 1] := by
  have hbatch : fiveWaiting.watcher.queue.pending = [1, 2, 3, 4, 5].map numberedEdit := by decide
  have hsummary : (fiveWaiting.flush hurriedCollaborators).1 =
      { saved := 1, unchanged := 1, dropped := 1, failed := 1, cancelled := true } := by decide
  have hrequests :
      ((fiveWaiting.minuted []).flush hurriedCollaborators.minuted).2.site.host.requests =
        [.save ⟨1⟩, .save ⟨3⟩, .save ⟨4⟩] := by decide
  obtain ⟨-, -, visits, t, hvisited, -, -, hcounts, hsum, hminuted, -⟩ :=
    flush_accounts_for_batch hurriedCollaborators
      (rfl : fiveWaiting.watcher.queue = (FlushQueue.history {} fivePushes).2)
  have hlength : visits.length = 4 := by
    rw [hsummary, FlushSummary.mk.injEq] at hcounts
    omega
  rw [hminuted] at hrequests
  rw [hlength, hbatch] at hvisited
  exact ⟨hbatch, hminuted ▸ hrequests, visits, hvisited, hrequests, hsummary, by decide⟩

end Example

end SchemaEngine
