import SchemaEngine.Document.Store
import SchemaEngine.Proofs.Disk.Writing

/-!
# What a document that is not dirty says about its file

A document that is not dirty has the text of its file. Opening reads it, an edit makes the document
dirty, saving writes it, and nothing that is done to another document reaches it as long as no two
open documents share a file. What fails changes nothing. The file systems that serve the operations
may refuse at any time, each operation may have its own, and all that is asked of them is that they
write a file as a whole or not at all.

## Main definitions

* `Desk`: open documents and the world of their files.
* `Desk.perform`: an operation on a document.
* `Desk.Effect`: all that an operation can do.
* `Desk.Unshared`: no two open documents share a file.
* `Desk.Runs`: what comes of operations one after the other.
* `Desk.Truthful`: a document that is not dirty has the text of its file.

## Main results

* `Desk.perform_effect`: what an operation does is one of the effects.
* `Desk.Truthful.effect`, `Desk.Runs.truthful`: dirtiness stays truthful.
* `Desk.dirtiness_tells_truth`: what dirtiness says, and what an operation leaves alone.
-/

set_option autoImplicit false

namespace SchemaEngine

/-! ### The documents of a store -/

namespace DocumentStore

variable {store : DocumentStore} {document other : DocumentId} {buffer : Buffer}

theorem buffer?_eq (store : DocumentStore) (document : DocumentId) :
    store.buffer? document = Keyed.at? document store.buffers :=
  rfl

theorem buffer?_setBuffer (document other : DocumentId) (buffer : Buffer)
    (store : DocumentStore) :
    (store.setBuffer document buffer).buffer? other =
      if other = document then (store.buffer? other).map fun _ => buffer
      else store.buffer? other :=
  Keyed.at?_replace document other buffer store.buffers

theorem buffer?_setBuffer_self (h : store.buffer? document = some buffer) (changed : Buffer) :
    (store.setBuffer document changed).buffer? document = some changed := by
  rw [buffer?_setBuffer, if_pos rfl, h, Option.map_some]

theorem buffer?_close (document other : DocumentId) (store : DocumentStore) :
    (store.close document).2.buffer? other =
      if other = document then none else store.buffer? other :=
  Keyed.at?_filter document other store.buffers

theorem buffer?_append (number : Nat) (document other : DocumentId) (buffer : Buffer)
    (store : DocumentStore) :
    buffer? ⟨number, store.buffers ++ [(document, buffer)]⟩ other =
      (store.buffer? other).or (if other = document then some buffer else none) := by
  rw [buffer?_eq, Keyed.at?_append, Keyed.at?_cons]
  rfl

theorem isDirty_eq (h : store.buffer? document = some buffer) :
    store.isDirty document = (buffer.version != buffer.savedVersion) := by
  rw [isDirty, h]

end DocumentStore

/-! ### Operations -/

/-- Open documents, and the world of their files. -/
structure Desk (W : Type) where
  store : DocumentStore := {}
  world : W

namespace Desk

variable {W : Type} {view : FileView W}

/-- An operation, and the file system that serves it. -/
inductive Act (W : Type) where
  | openFile (fs : FileSystem W) (file : FileRef)
  | edit (document : DocumentId) (text : String)
  | save (fs : FileSystem W) (document : DocumentId)
  | close (document : DocumentId)

/-- What an operation gives back. -/
inductive Answer where
  | opened (result : Except StorageError DocumentId)
  | edited (result : Except StorageError Nat)
  | saved (result : Except StorageError Bool)
  | closed (found : Bool)

/-- The file system of an operation writes all or nothing. -/
def Act.Served (view : FileView W) : Act W → Prop
  | .openFile fs _ => view.Served fs
  | .save fs _ => view.Served fs
  | .edit .. => True
  | .close _ => True

/-- The document that was opened. -/
def Answer.opened? : Answer → Option DocumentId
  | .opened (.ok document) => some document
  | _ => none

/-- Whether an operation failed. -/
def Answer.failed : Answer → Bool
  | .opened (.error _) => true
  | .edited (.error _) => true
  | .saved (.error _) => true
  | _ => false

/-- The document that an operation is about. -/
def Act.document? : Act W → Answer → Option DocumentId
  | .openFile .., answer => answer.opened?
  | .edit document _, _ => some document
  | .save _ document, _ => some document
  | .close document, _ => some document

/-- Does an operation. -/
def perform (desk : Desk W) : Act W → Answer × Desk W
  | .openFile fs file =>
    let (result, store) := desk.store.openFile fs desk.world file
    (.opened result, { desk with store := store })
  | .edit document text =>
    let (result, store) := desk.store.edit document text
    (.edited result, { desk with store := store })
  | .save fs document =>
    let (result, store, world) := desk.store.save fs document desk.world
    (.saved result, ⟨store, world⟩)
  | .close document =>
    let (found, store) := desk.store.close document
    (.closed found, { desk with store := store })

/-- All that an operation can do. -/
inductive Effect (desk : Desk W) : Act W → Answer → Desk W → Prop
  | notOpened {fs file error}
      (hread : DocumentStore.initialText fs desk.world file = .error error) :
      Effect desk (.openFile fs file) (.opened (.error error)) desk
  | opened {fs file text} (hread : DocumentStore.initialText fs desk.world file = .ok text) :
      Effect desk (.openFile fs file) (.opened (.ok ⟨desk.store.lastId + 1⟩))
        { desk with
          store := ⟨desk.store.lastId + 1,
            desk.store.buffers ++ [(⟨desk.store.lastId + 1⟩, { file := file, text := text })]⟩ }
  | notEdited {document text} (hbuffer : desk.store.buffer? document = none) :
      Effect desk (.edit document text) (.edited (.error (.unknownDocument document))) desk
  | edited {document text buffer} (hbuffer : desk.store.buffer? document = some buffer) :
      Effect desk (.edit document text) (.edited (.ok (buffer.version + 1)))
        { desk with
          store := desk.store.setBuffer document
            { buffer with text := text, version := buffer.version + 1 } }
  | unknown {fs document} (hbuffer : desk.store.buffer? document = none) :
      Effect desk (.save fs document) (.saved (.error (.unknownDocument document))) desk
  | idle {fs document buffer} (hbuffer : desk.store.buffer? document = some buffer)
      (hidle : buffer.version = buffer.savedVersion ∨ buffer.file.synthetic = true) :
      Effect desk (.save fs document) (.saved (.ok false)) desk
  | refused {fs document buffer fault world} (hbuffer : desk.store.buffer? document = some buffer)
      (hdirty : buffer.version ≠ buffer.savedVersion) (hphysical : buffer.file.synthetic = false)
      (hwrite : fs.write buffer.file.path buffer.text desk.world = (.error fault, world)) :
      Effect desk (.save fs document) (.saved (.error (.io buffer.file.path fault)))
        ⟨desk.store, world⟩
  | saved {fs document buffer world} (hbuffer : desk.store.buffer? document = some buffer)
      (hdirty : buffer.version ≠ buffer.savedVersion) (hphysical : buffer.file.synthetic = false)
      (hwrite : fs.write buffer.file.path buffer.text desk.world = (.ok (), world)) :
      Effect desk (.save fs document) (.saved (.ok true))
        ⟨desk.store.setBuffer document
          { buffer with savedVersion := max buffer.savedVersion buffer.version }, world⟩
  | closed {document} :
      Effect desk (.close document) (.closed (desk.store.buffer? document).isSome)
        { desk with store := (desk.store.close document).2 }

/-- What an operation does is one of the effects. -/
theorem perform_effect (desk : Desk W) (act : Act W) :
    desk.Effect act (desk.perform act).1 (desk.perform act).2 := by
  cases act with
  | openFile fs file =>
    simp only [perform, DocumentStore.openFile]
    split
    case h_1 hread => exact .notOpened hread
    case h_2 hread => exact .opened hread
  | edit document text =>
    simp only [perform, DocumentStore.edit]
    split
    case h_1 hbuffer => exact .notEdited hbuffer
    case h_2 hbuffer => exact .edited hbuffer
  | save fs document =>
    simp only [perform, DocumentStore.save]
    split
    case h_1 hbuffer => exact .unknown hbuffer
    case h_2 buffer hbuffer =>
      split
      case isTrue hidle =>
        rw [Bool.or_eq_true, decide_eq_true_eq] at hidle
        exact .idle hbuffer hidle
      case isFalse hbusy =>
        simp only [Bool.or_eq_true, decide_eq_true_eq, not_or, Bool.not_eq_true] at hbusy
        split
        case h_1 hwrite => exact .refused hbuffer hbusy.1 hbusy.2 hwrite
        case h_2 hwrite => exact .saved hbuffer hbusy.1 hbusy.2 hwrite
  | close document => exact .closed

/-! ### One operation -/

/-- No two open documents share a file. -/
def Unshared (view : FileView W) (desk : Desk W) : Prop :=
  ∀ ⦃document other : DocumentId⦄ ⦃buffer buffer' : Buffer⦄, document ≠ other →
    desk.store.buffer? document = some buffer → desk.store.buffer? other = some buffer' →
    buffer.file.synthetic = false → buffer'.file.synthetic = false →
    ¬ view.shared desk.world buffer.file.path buffer'.file.path

/-- What the counts of a document say: it has the text of its file once all its edits are written,
and its number was given out. -/
structure Tells (view : FileView W) (desk : Desk W) (document : DocumentId) (buffer : Buffer) :
    Prop where
  saved_le : buffer.savedVersion ≤ buffer.version
  clean : buffer.file.synthetic = false → buffer.version = buffer.savedVersion →
    view.text desk.world buffer.file.path = some buffer.text
  issued : document.number ≤ desk.store.lastId

/-- The counts of every open document say what they should. -/
def Truthful (view : FileView W) (desk : Desk W) : Prop :=
  ∀ ⦃document : DocumentId⦄ ⦃buffer : Buffer⦄, desk.store.buffer? document = some buffer →
    desk.Tells view document buffer

namespace Effect

variable {desk after : Desk W} {act : Act W} {answer : Answer} {document : DocumentId}

/-- What fails leaves the documents and the files as they are. -/
theorem of_failed (h : desk.Effect act answer after) (hserved : act.Served view)
    (hfailed : answer.failed = true) :
    after.store = desk.store ∧ view.content after.world = view.content desk.world := by
  cases h with
  | notOpened | notEdited | unknown => exact ⟨rfl, rfl⟩
  | refused _ _ _ hwrite => exact ⟨rfl, hserved.refused hwrite⟩
  | opened | edited | idle | saved | closed => cases hfailed

/-- A document that an operation is not about stays as it is. -/
theorem buffer?_of_ne (h : desk.Effect act answer after)
    (hother : act.document? answer ≠ some document) :
    after.store.buffer? document = desk.store.buffer? document := by
  cases h with
  | notOpened | notEdited | unknown | idle | refused => rfl
  | opened =>
    have hne : document ≠ ⟨desk.store.lastId + 1⟩ := fun heq => hother (heq ▸ rfl)
    rw [DocumentStore.buffer?_append, if_neg hne, Option.or_none]
  | @edited changed | @saved _ changed =>
    have hne : document ≠ changed := fun heq => hother (heq ▸ rfl)
    rw [DocumentStore.buffer?_setBuffer, if_neg hne]
  | @closed left =>
    have hne : document ≠ left := fun heq => hother (heq ▸ rfl)
    rw [DocumentStore.buffer?_close, if_neg hne]

/-- So does its file. -/
theorem content_of_ne (h : desk.Effect act answer after) (hserved : act.Served view)
    (hunshared : desk.Unshared view) (hother : act.document? answer ≠ some document)
    {buffer : Buffer} (hbuffer : desk.store.buffer? document = some buffer)
    (hphysical : buffer.file.synthetic = false) :
    view.content after.world buffer.file.path = view.content desk.world buffer.file.path := by
  cases h with
  | notOpened | opened | notEdited | edited | unknown | idle | closed => rfl
  | refused _ _ _ hwrite => exact congrFun (hserved.refused hwrite) _
  | @saved _ written _ _ hwritten _ hphysical' hwrite =>
    have hne : written ≠ document := fun heq => hother (heq ▸ rfl)
    exact hserved.frame hwrite _ (hunshared hne hwritten hbuffer hphysical' hphysical)

theorem lastId_le (h : desk.Effect act answer after) : desk.store.lastId ≤ after.store.lastId := by
  cases h with
  | opened => exact Nat.le_succ _
  | notOpened | notEdited | edited | unknown | idle | refused | saved | closed =>
    exact Nat.le_refl _

/-- The number of an opened document is a new one. -/
theorem opened?_number (h : desk.Effect act answer after)
    (hopened : answer.opened? = some document) :
    desk.store.lastId < document.number ∧ document.number ≤ after.store.lastId := by
  cases h with
  | opened =>
    cases hopened
    exact ⟨Nat.lt_succ_self _, Nat.le_refl _⟩
  | notOpened | notEdited | edited | unknown | idle | refused | saved | closed => cases hopened

end Effect

/-- A document that was just opened has the text of its file. -/
theorem text_of_initialText {fs : FileSystem W} {world : W} {file : FileRef} {text : String}
    (hserved : view.Served fs) (hphysical : file.synthetic = false)
    (hread : DocumentStore.initialText fs world file = .ok text) :
    view.text world file.path = some text := by
  rw [DocumentStore.initialText, if_neg (by rw [hphysical]; exact Bool.false_ne_true)] at hread
  cases hfile : fs.read world file.path with
  | error fault => rw [hfile] at hread; cases hread
  | ok found =>
    rw [hfile] at hread
    cases hread
    exact hserved.read hfile

variable {desk after : Desk W} {act : Act W} {answer : Answer}

/-- An operation leaves what the counts say true. -/
theorem Truthful.effect (hdesk : desk.Truthful view) (h : desk.Effect act answer after)
    (hserved : act.Served view) (hunshared : desk.Unshared view) : after.Truthful view := by
  intro document buffer hbuffer
  by_cases hother : act.document? answer = some document
  case neg =>
    rw [h.buffer?_of_ne hother] at hbuffer
    obtain ⟨hle, hclean, hissued⟩ := hdesk hbuffer
    refine ⟨hle, fun hphysical hsaved => ?_, Nat.le_trans hissued h.lastId_le⟩
    rw [FileView.text, h.content_of_ne hserved hunshared hother hbuffer hphysical]
    exact hclean hphysical hsaved
  cases h with
  | notOpened => cases hother
  | notEdited | unknown | idle => exact hdesk hbuffer
  | opened hread =>
    cases hother
    have hnew : desk.store.buffer? ⟨desk.store.lastId + 1⟩ = none :=
      Option.eq_none_iff_forall_ne_some.mpr fun old hold =>
        absurd (hdesk hold).issued (Nat.not_succ_le_self _)
    rw [DocumentStore.buffer?_append, hnew, if_pos rfl] at hbuffer
    cases hbuffer
    exact ⟨Nat.le_refl _, fun hphysical _ => text_of_initialText hserved hphysical hread,
      Nat.le_refl _⟩
  | edited hold =>
    cases hother
    rw [DocumentStore.buffer?_setBuffer_self hold] at hbuffer
    cases hbuffer
    obtain ⟨hle, -, hissued⟩ := hdesk hold
    exact ⟨Nat.le_succ_of_le hle, fun _ hsaved => absurd (hsaved ▸ hle) (Nat.not_succ_le_self _),
      hissued⟩
  | refused hold hdirty _ hwrite =>
    obtain ⟨hle, -, hissued⟩ := hdesk hbuffer
    cases hother
    cases hold.symm.trans hbuffer
    exact ⟨hle, fun _ hsaved => absurd hsaved hdirty, hissued⟩
  | saved hold _ _ hwrite =>
    cases hother
    rw [DocumentStore.buffer?_setBuffer_self hold] at hbuffer
    cases hbuffer
    obtain ⟨hle, -, hissued⟩ := hdesk hold
    exact ⟨Nat.max_le.mpr ⟨hle, Nat.le_refl _⟩, fun _ _ => hserved.text_written hwrite, hissued⟩
  | closed =>
    cases hother
    rw [DocumentStore.buffer?_close, if_pos rfl] at hbuffer
    cases hbuffer

/-! ### Operations one after the other -/

/-- What operations give back and leave, from no open document on. No two documents share a file
while an operation is done. -/
inductive Runs (view : FileView W) : List Answer → Desk W → Prop
  | start (world : W) : Runs view [] { world := world }
  | act {answers : List Answer} {desk : Desk W} (act : Act W) (h : Runs view answers desk)
      (hunshared : desk.Unshared view) (hserved : act.Served view) :
      Runs view (answers ++ [(desk.perform act).1]) (desk.perform act).2

theorem Runs.truthful {answers : List Answer} (h : Runs view answers desk) :
    desk.Truthful view := by
  induction h with
  | start => exact fun _ _ hbuffer => nomatch hbuffer
  | act act _ hunshared hserved ih => exact ih.effect (perform_effect _ act) hserved hunshared

/-- Documents are numbered in the order in which they are opened. -/
theorem Runs.opened_increasing {answers : List Answer} (h : Runs view answers desk) :
    (answers.filterMap Answer.opened?).Pairwise (·.number < ·.number) ∧
      ∀ document ∈ answers.filterMap Answer.opened?, document.number ≤ desk.store.lastId := by
  induction h with
  | start => exact ⟨.nil, fun _ hmem => nomatch hmem⟩
  | @act answers desk act _ _ _ ih =>
    obtain ⟨hincreasing, hissued⟩ := ih
    have heffect := perform_effect desk act
    have hkept : ∀ document ∈ answers.filterMap Answer.opened?,
        document.number ≤ (desk.perform act).2.store.lastId := fun document hmem =>
      Nat.le_trans (hissued document hmem) heffect.lastId_le
    rw [List.filterMap_append]
    cases hopened : (desk.perform act).1.opened? with
    | none =>
      rw [List.filterMap_cons_none hopened, List.filterMap_nil, List.append_nil]
      exact ⟨hincreasing, hkept⟩
    | some document =>
      obtain ⟨hnew, hnumber⟩ := heffect.opened?_number hopened
      rw [List.filterMap_cons_some hopened, List.filterMap_nil]
      refine ⟨List.pairwise_append.mpr ⟨hincreasing, List.pairwise_singleton _ _, ?_⟩, ?_⟩
      · intro earlier hmem later hlater
        rw [List.mem_singleton.mp hlater]
        exact Nat.lt_of_le_of_lt (hissued earlier hmem) hnew
      · intro other hmem
        rcases List.mem_append.mp hmem with hmem | hmem
        · exact hkept other hmem
        · rwa [List.mem_singleton.mp hmem]

/-! ### What dirtiness says -/

/-- Saving writes exactly what is open, physical and dirty, if the file system takes it. -/
theorem Effect.saved_iff {fs : FileSystem W} {document : DocumentId}
    {result : Except StorageError Bool}
    (h : desk.Effect (.save fs document) (.saved result) after) :
    result = .ok true ↔ ∃ buffer, desk.store.buffer? document = some buffer ∧
      buffer.file.synthetic = false ∧ desk.store.isDirty document = true ∧
      (fs.write buffer.file.path buffer.text desk.world).1 = .ok () := by
  constructor
  · rintro rfl
    cases h with
    | saved hbuffer hdirty hphysical hwrite =>
      refine ⟨_, hbuffer, hphysical, ?_, congrArg Prod.fst hwrite⟩
      rw [DocumentStore.isDirty_eq hbuffer, bne_iff_ne]
      exact hdirty
  · rintro ⟨buffer, hbuffer, hphysical, hdirty, hwrite⟩
    rw [DocumentStore.isDirty_eq hbuffer, bne_iff_ne] at hdirty
    cases h with
    | unknown hnone => cases hnone.symm.trans hbuffer
    | idle hsame hidle =>
      cases hsame.symm.trans hbuffer
      rw [hphysical] at hidle
      exact absurd hidle (by simp [hdirty])
    | refused hsame _ _ hrefused =>
      cases hsame.symm.trans hbuffer
      rw [hrefused] at hwrite
      cases hwrite
    | saved => rfl

/-- What has nothing to write, or no file, is not written by any file system. -/
theorem perform_save_of_idle {document : DocumentId} {buffer : Buffer}
    (hbuffer : desk.store.buffer? document = some buffer)
    (hidle : buffer.version = buffer.savedVersion ∨ buffer.file.synthetic = true)
    (fs : FileSystem W) : desk.perform (.save fs document) = (.saved (.ok false), desk) := by
  have hcheck :
      (decide (buffer.version = buffer.savedVersion) || buffer.file.synthetic) = true := by
    rwa [Bool.or_eq_true, decide_eq_true_eq]
  simp only [perform, DocumentStore.save, hbuffer, if_pos hcheck]

/-- A document that is written is not dirty and has the text of its file, and is not written
again. -/
theorem Truthful.after_save (hdesk : desk.Truthful view) {fs : FileSystem W}
    {document : DocumentId} (hserved : view.Served fs)
    (h : desk.Effect (.save fs document) (.saved (.ok true)) after) :
    after.store.isDirty document = false ∧
      (∃ buffer, after.store.buffer? document = some buffer ∧
        desk.store.text? document = some buffer.text ∧
        view.text after.world buffer.file.path = some buffer.text) ∧
      ∀ again : FileSystem W,
        after.perform (.save again document) = (.saved (.ok false), after) := by
  cases h with
  | @saved _ _ buffer world hbuffer hdirty hphysical hwrite =>
    have hmax : buffer.version = max buffer.savedVersion buffer.version :=
      (Nat.max_eq_right (hdesk hbuffer).saved_le).symm
    have hafter := DocumentStore.buffer?_setBuffer_self hbuffer
      { buffer with savedVersion := max buffer.savedVersion buffer.version }
    refine ⟨?_, ⟨_, hafter, ?_, hserved.text_written hwrite⟩, perform_save_of_idle hafter (.inl hmax)⟩
    · rw [DocumentStore.isDirty_eq hafter, bne_eq_false_iff_eq]
      exact hmax
    · rw [DocumentStore.text?, hbuffer, Option.map_some]

/-- After any operations, served by any file systems that write all or nothing, as long as no two
open documents share a file: a document that is not dirty has the text of its file. A save writes if
and only if the document is open, has a file, is dirty and the file system takes the text; after
that it is not dirty, its file has its text, and a further save writes nothing. What fails changes
nothing; what is done to one document changes neither text nor dirtiness nor file of another; a
scratch buffer is never written; and documents are numbered upwards, so that no number is given out
twice. -/
theorem dirtiness_tells_truth {answers : List Answer} {desk : Desk W} (h : Runs view answers desk)
    (hunshared : desk.Unshared view) :
    (∀ document buffer, desk.store.buffer? document = some buffer →
      buffer.file.synthetic = false → buffer.savedVersion ≤ buffer.version ∧
        (desk.store.isDirty document = false →
          view.text desk.world buffer.file.path = some buffer.text)) ∧
    (∀ fs document result after, view.Served fs →
      desk.perform (.save fs document) = (.saved result, after) →
        (result = .ok true ↔ ∃ buffer, desk.store.buffer? document = some buffer ∧
          buffer.file.synthetic = false ∧ desk.store.isDirty document = true ∧
          (fs.write buffer.file.path buffer.text desk.world).1 = .ok ()) ∧
        (result = .ok true → after.store.isDirty document = false ∧
          (∃ buffer, after.store.buffer? document = some buffer ∧
            desk.store.text? document = some buffer.text ∧
            view.text after.world buffer.file.path = some buffer.text) ∧
          ∀ again : FileSystem W,
            after.perform (.save again document) = (.saved (.ok false), after))) ∧
    (∀ act answer after, act.Served view → desk.perform act = (answer, after) →
      (answer.failed = true →
        after.store = desk.store ∧ view.content after.world = view.content desk.world) ∧
      ∀ document, act.document? answer ≠ some document →
        after.store.text? document = desk.store.text? document ∧
        after.store.isDirty document = desk.store.isDirty document ∧
        after.store.fileOf document = desk.store.fileOf document ∧
        ∀ file, desk.store.fileOf document = some file → file.synthetic = false →
          view.content after.world file.path = view.content desk.world file.path) ∧
    (∀ fs document file, desk.store.fileOf document = some file → file.synthetic = true →
      desk.perform (.save fs document) = (.saved (.ok false), desk)) ∧
    (answers.filterMap Answer.opened?).Pairwise (·.number < ·.number) := by
  have htruthful := h.truthful
  refine ⟨?_, ?_, ?_, ?_, h.opened_increasing.1⟩
  · intro document buffer hbuffer hphysical
    obtain ⟨hle, hclean, -⟩ := htruthful hbuffer
    refine ⟨hle, fun hdirty => hclean hphysical ?_⟩
    rwa [DocumentStore.isDirty_eq hbuffer, bne_eq_false_iff_eq] at hdirty
  · intro fs document result after hserved hperform
    have heffect := hperform ▸ perform_effect desk (.save fs document)
    refine ⟨heffect.saved_iff, fun hresult => ?_⟩
    rw [hresult] at heffect
    exact htruthful.after_save hserved heffect
  · intro act answer after hserved hperform
    have heffect := hperform ▸ perform_effect desk act
    refine ⟨heffect.of_failed hserved, fun document hother => ?_⟩
    have hbuffer := heffect.buffer?_of_ne hother
    refine ⟨by rw [DocumentStore.text?, hbuffer]; rfl, by rw [DocumentStore.isDirty, hbuffer]; rfl,
      by rw [DocumentStore.fileOf, hbuffer]; rfl, fun file hfile hphysical => ?_⟩
    obtain ⟨buffer, hopen, rfl⟩ := Option.map_eq_some_iff.mp hfile
    exact heffect.content_of_ne hserved hunshared hother hopen hphysical
  · intro fs document file hfile hsynthetic
    obtain ⟨buffer, hopen, rfl⟩ := Option.map_eq_some_iff.mp hfile
    exact perform_save_of_idle hopen (.inr hsynthetic) fs

section Example

theorem unshared_of_length_le_one (h : desk.store.buffers.length ≤ 1) : desk.Unshared view := by
  intro document other buffer buffer' hne hbuffer hbuffer'
  rw [DocumentStore.buffer?_eq] at hbuffer hbuffer'
  match hbuffers : desk.store.buffers, h with
  | [], _ =>
    rw [hbuffers] at hbuffer
    cases hbuffer
  | [(only, kept)], _ =>
    rw [hbuffers, Keyed.at?_cons] at hbuffer hbuffer'
    have hsame {document : DocumentId} {buffer : Buffer}
        (h : (if document = only then some kept else none) = some buffer) : document = only :=
      (Option.ite_none_right_eq_some.mp h).1
    exact absurd ((hsame hbuffer).trans (hsame hbuffer').symm) hne

/-- A disk with one file, which is empty. -/
def emptyFile : Disk :=
  { entries := [([[97]], .file [] 0)] }

/-- The reference to that file. -/
def fileRef : FileRef :=
  ⟨⟨[47, 97]⟩, false⟩

/-- The file is opened and edited; the first save is refused, and the second one is not. -/
def savedDesk : Desk Disk :=
  ((((Desk.perform { world := emptyFile } (.openFile Disk.fileSystem fileRef)).2.perform
    (.edit ⟨1⟩ "a")).2.perform
    (.save (.failing (.errno 13)) ⟨1⟩)).2.perform
    (.save Disk.fileSystem ⟨1⟩)).2

/-- The document is not dirty after that, so its text is in the file; it is not written again. -/
theorem dirtiness_tells_truth_saved :
    savedDesk.store.isDirty ⟨1⟩ = false ∧
      Disk.view.text savedDesk.world fileRef.path = some "a" ∧
      (savedDesk.perform (.save Disk.fileSystem ⟨1⟩)).1 ≠ .saved (.ok true) := by
  have hruns : Runs Disk.view _ savedDesk :=
    .act (.save Disk.fileSystem ⟨1⟩)
      (.act (.save (.failing (.errno 13)) ⟨1⟩)
        (.act (.edit ⟨1⟩ "a")
          (.act (.openFile Disk.fileSystem fileRef) (.start emptyFile)
            (unshared_of_length_le_one (by decide)) Disk.served_fileSystem)
          (unshared_of_length_le_one (by decide)) trivial)
        (unshared_of_length_le_one (by decide)) (Disk.view.served_failing _))
      (unshared_of_length_le_one (by decide)) Disk.served_fileSystem
  obtain ⟨htext, hsave, -⟩ :=
    dirtiness_tells_truth hruns (unshared_of_length_le_one (by decide))
  have hclean : savedDesk.store.isDirty ⟨1⟩ = false := by decide
  have hbuffer : savedDesk.store.buffer? ⟨1⟩ = some ⟨fileRef, "a", 1, 1⟩ := by decide
  refine ⟨hclean, (htext _ _ hbuffer rfl).2 hclean, fun hsaved => ?_⟩
  have hdirty := (hsave _ _ _ _ Disk.served_fileSystem (Prod.ext hsaved rfl)).1.mp rfl
  obtain ⟨-, -, -, hdirty, -⟩ := hdirty
  rw [hclean] at hdirty
  cases hdirty

end Example

end Desk

end SchemaEngine
