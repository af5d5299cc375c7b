import SchemaEngine.Disk.Index
import SchemaEngine.Proofs.Change.Coalescing
import SchemaEngine.Proofs.Change.Silence
import SchemaEngine.Proofs.Document.Dirtiness

/-!
# What a flush leaves in files

A flush saves the waiting documents in the order of files and documents, which is not the order in
which they were edited. Each document with edits that are not written overwrites what a document
before it has left in the same file. So where several documents are open on one file, the file holds
the latest edit of the last of them that had anything to write; a later edit of another document of
the batch is overwritten.

## Main definitions

* `IsLast`: the last member of a list with a property.
* `Shelf.Lawful`, `Shelf.desk`: a place for documents and files in a world.
* `WatcherState.DocumentStep`, `WatcherState.DocumentRun`: opening, editing, reporting and flushing,
  with the edits that were made.
* `Desk.Recorded`, `Desk.Watches`, `WatcherState.Consistent`: the invariant of such runs.
* `Desk.Unsaved`: an edit that waits has something to write to a file.

## Main results

* `WatcherState.DocumentStep.consistent`, `WatcherState.DocumentRun.consistent`: what one step and a
  whole run preserve.
* `WatcherState.writes_of_flush`: a flush that succeeds saves every waiting document.
* `Desk.Writes.content`: what documents that are saved in order leave in a file.
* `flushed_file_holds_last_document`: what a file of the batch holds after the flush.
* `flush_overwrites_latest_edit`: a run where that is not the latest edit.
-/

set_option autoImplicit false

namespace SchemaEngine

/-! ### The last member with a property -/

/-- A member of a list has a property, and those after it do not. -/
def IsLast {α : Type} (P : α → Prop) (xs : List α) (x : α) : Prop :=
  ∃ before later, xs = before ++ x :: later ∧ P x ∧ ∀ y ∈ later, ¬ P y

namespace IsLast

variable {α : Type} {P Q : α → Prop} {xs : List α} {x y : α}

theorem cons (h : IsLast P xs x) (y : α) : IsLast P (y :: xs) x := by
  obtain ⟨before, later, rfl, hx, hlater⟩ := h
  exact ⟨y :: before, later, rfl, hx, hlater⟩

theorem cons_self (hx : P x) (h : ∀ y ∈ xs, ¬ P y) : IsLast P (x :: xs) x :=
  ⟨[], xs, rfl, hx, h⟩

theorem append (h : IsLast P xs x) {ys : List α} (hys : ∀ y ∈ ys, ¬ P y) :
    IsLast P (xs ++ ys) x := by
  obtain ⟨before, later, rfl, hx, hlater⟩ := h
  refine ⟨before, later ++ ys, by simp, hx, fun y hy => ?_⟩
  exact (List.mem_append.mp hy).elim (hlater y) (hys y)

theorem concat (xs : List α) (hx : P x) : IsLast P (xs ++ [x]) x :=
  ⟨xs, [], rfl, hx, fun _ hy => nomatch hy⟩

theorem mono (h : IsLast Q xs x) (hx : P x) (hQ : ∀ y, P y → Q y) : IsLast P xs x := by
  obtain ⟨before, later, hxs, -, hlater⟩ := h
  exact ⟨before, later, hxs, hx, fun y hy hP => hlater y hy (hQ y hP)⟩

theorem congr (h : IsLast P xs x) (hPQ : ∀ y ∈ xs, P y ↔ Q y) : IsLast Q xs x := by
  obtain ⟨before, later, rfl, hx, hlater⟩ := h
  refine ⟨before, later, rfl, (hPQ x (by simp)).mp hx, fun y hy hQ => ?_⟩
  exact hlater y hy ((hPQ y (by simp [hy])).mpr hQ)

open Classical in
theorem getLast?_filter (h : IsLast P xs x) : (xs.filter (P ·)).getLast? = some x := by
  obtain ⟨before, later, rfl, hx, hlater⟩ := h
  have hnone : later.filter (P ·) = [] :=
    List.filter_eq_nil_iff.mpr fun y hy => by simp [hlater y hy]
  simp [List.filter_append, hx, hnone]

theorem holds (h : IsLast P xs x) : P x := by
  obtain ⟨-, -, -, hx, -⟩ := h
  exact hx

theorem mem (h : IsLast P xs x) : x ∈ xs := by
  obtain ⟨before, later, rfl, -⟩ := h
  simp

/-- There is one last member. -/
theorem unique (hx : IsLast P xs x) (hy : IsLast P xs y) : x = y :=
  Option.some.inj (hx.getLast?_filter.symm.trans hy.getLast?_filter)

end IsLast

/-! ### Documents and files in a world -/

namespace Shelf

variable {H W : Type} {shelf : Shelf H W}

/-- What is put into the world is found there. -/
structure Lawful (shelf : Shelf H W) : Prop where
  store_put : ∀ store world h, shelf.store (shelf.put store world h) = store
  world_put : ∀ store world h, shelf.world (shelf.put store world h) = world

/-- The documents and the files at a site. -/
def desk (shelf : Shelf H W) (site : Site H) : Desk W :=
  ⟨shelf.store site.host, shelf.world site.host⟩

theorem Lawful.desk_put (h : shelf.Lawful) (store : DocumentStore) (world : W) (site : Site H) :
    shelf.desk { site with host := shelf.put store world site.host } = ⟨store, world⟩ := by
  rw [desk, h.store_put, h.world_put]

theorem Lawful.desk_openFile (h : shelf.Lawful) (file : FileRef) (site : Site H) :
    shelf.desk (shelf.openFile file site).2 =
      ((shelf.desk site).perform (.openFile shelf.fs file)).2 := by
  unfold openFile
  split
  case h_1 hopen | h_2 hopen =>
    refine (h.desk_put _ _ site).trans ?_
    simp only [Desk.perform, desk, hopen]

theorem Lawful.desk_save (h : shelf.Lawful) (document : DocumentId) (site : Site H) :
    shelf.desk (shelf.save document site).2 =
      ((shelf.desk site).perform (.save shelf.fs document)).2 := by
  unfold save
  dsimp only
  split <;> exact h.desk_put _ _ site

theorem saved_eq (shelf : Shelf H W) (document : DocumentId) (site : Site H) :
    ((shelf.desk site).perform (.save shelf.fs document)).1 =
      .saved (shelf.save document site).1 := by
  unfold save
  dsimp only
  split <;> rfl

/-- Saving a document has one of the effects that saving can have. -/
theorem Lawful.effect_save (h : shelf.Lawful) (document : DocumentId) (site : Site H) :
    (shelf.desk site).Effect (.save shelf.fs document) (.saved (shelf.save document site).1)
      (shelf.desk (shelf.save document site).2) := by
  rw [h.desk_save, ← saved_eq]
  exact Desk.perform_effect _ _

theorem Lawful.effect_openFile (h : shelf.Lawful) (file : FileRef) (site : Site H) :
    (shelf.desk site).Effect (.openFile shelf.fs file)
      ((shelf.desk site).perform (.openFile shelf.fs file)).1
      (shelf.desk (shelf.openFile file site).2) := by
  rw [h.desk_openFile]
  exact Desk.perform_effect _ _

theorem Lawful.effect_edit (h : shelf.Lawful) {document : DocumentId} {text : String}
    {version : Nat} {store : DocumentStore} {site : Site H}
    (hedit : (shelf.store site.host).edit document text = (.ok version, store)) :
    (shelf.desk site).Effect (.edit document text) (.edited (.ok version))
      (shelf.desk (shelf.setStore store site)) := by
  have heffect := Desk.perform_effect (shelf.desk site) (.edit document text)
  simp only [Desk.perform, desk, hedit] at heffect
  rwa [setStore, h.desk_put]

theorem Lawful.effect_close (h : shelf.Lawful) (document : DocumentId) (site : Site H) :
    (shelf.desk site).Effect (.close document)
      (.closed ((shelf.store site.host).close document).1)
      (shelf.desk (shelf.setStore ((shelf.store site.host).close document).2 site)) := by
  rw [setStore, h.desk_put]
  exact .closed

end Shelf

/-! ### Documents and the edits that were made -/

namespace DocumentStore

/-- The number of a document was given out, and as long as it has edits that are not written, its
text is that of its latest edit. -/
structure Remembers (edits : List (DocumentId × String)) (store : DocumentStore)
    (document : DocumentId) (buffer : Buffer) : Prop where
  issued : document.number ≤ store.lastId
  latest : buffer.version ≠ buffer.savedVersion →
    IsLast (fun made => made.1 = document) edits (document, buffer.text)

/-- The open documents go with the edits that were made. -/
def Recorded (edits : List (DocumentId × String)) (store : DocumentStore) : Prop :=
  ∀ ⦃document : DocumentId⦄ ⦃buffer : Buffer⦄, store.buffer? document = some buffer →
    store.Remembers edits document buffer

/-- An edit that waits is one of a document with a file, and the document is over that file as long
as it is open. -/
structure Watches (store : DocumentStore) (edit : WatchedEdit) : Prop where
  issued : edit.document.number ≤ store.lastId
  physical : edit.file.synthetic = false
  file : ∀ buffer, store.buffer? edit.document = some buffer → buffer.file = edit.file

end DocumentStore

namespace Desk

variable {W : Type} {desk after : Desk W} {act : Act W} {answer : Answer}
  {edits : List (DocumentId × String)} {edit : WatchedEdit}

/-- The edit that an operation made, if it is one. -/
def made : Act W → Answer → List (DocumentId × String)
  | .edit document text, .edited (.ok _) => [(document, text)]
  | _, _ => []

theorem document?_of_mem_made {document : DocumentId} {text : String}
    (h : (document, text) ∈ made act answer) : act.document? answer = some document := by
  unfold made at h
  split at h
  · cases List.mem_singleton.mp h
    rfl
  · cases h

theorem Effect.recorded (heffect : desk.Effect act answer after)
    (h : desk.store.Recorded edits) : after.store.Recorded (edits ++ made act answer) := by
  intro document buffer hbuffer
  by_cases hother : act.document? answer = some document
  case neg =>
    rw [heffect.buffer?_of_ne hother] at hbuffer
    obtain ⟨hissued, hlatest⟩ := h hbuffer
    refine ⟨Nat.le_trans hissued heffect.lastId_le, fun hdirty => (hlatest hdirty).append ?_⟩
    rintro ⟨other, text⟩ hmade rfl
    exact hother (document?_of_mem_made hmade)
  cases heffect with
  | notOpened => cases hother
  | notEdited hnone | unknown hnone => cases hother; cases hnone.symm.trans hbuffer
  | idle =>
    exact (List.append_nil edits).symm ▸ h hbuffer
  | refused =>
    obtain ⟨hissued, hlatest⟩ := h hbuffer
    exact ⟨hissued, (List.append_nil edits).symm ▸ hlatest⟩
  | opened =>
    cases hother
    have hnew : desk.store.buffer? ⟨desk.store.lastId + 1⟩ = none :=
      Option.eq_none_iff_forall_ne_some.mpr fun old hold =>
        absurd (h hold).issued (Nat.not_succ_le_self _)
    rw [DocumentStore.buffer?_append, hnew, if_pos rfl] at hbuffer
    cases hbuffer
    exact ⟨Nat.le_refl _, fun hdirty => absurd rfl hdirty⟩
  | edited hold =>
    cases hother
    rw [DocumentStore.buffer?_setBuffer_self hold] at hbuffer
    cases hbuffer
    exact ⟨(h hold).issued, fun _ => .concat edits rfl⟩
  | saved hold hunsaved =>
    cases hother
    rw [DocumentStore.buffer?_setBuffer_self hold] at hbuffer
    cases hbuffer
    obtain ⟨hissued, hlatest⟩ := h hold
    exact ⟨hissued, fun _ => (List.append_nil edits).symm ▸ hlatest hunsaved⟩
  | closed =>
    cases hother
    rw [DocumentStore.buffer?_close, if_pos rfl] at hbuffer
    cases hbuffer

theorem Effect.watches (heffect : desk.Effect act answer after) (h : desk.store.Watches edit) :
    after.store.Watches edit := by
  refine ⟨Nat.le_trans h.issued heffect.lastId_le, h.physical, fun buffer hbuffer => ?_⟩
  by_cases hother : act.document? answer = some edit.document
  case neg =>
    rw [heffect.buffer?_of_ne hother] at hbuffer
    exact h.file buffer hbuffer
  cases heffect with
  | notOpened => cases hother
  | notEdited | unknown | idle | refused => exact h.file buffer hbuffer
  | opened =>
    -- a document that is opened now has a number that was not given out before
    have hnumber := congrArg DocumentId.number (Option.some.inj hother)
    have hissued := h.issued
    exact absurd (hnumber ▸ hissued) (Nat.not_succ_le_self _)
  | edited hchanged | saved hchanged =>
    cases hother
    rw [DocumentStore.buffer?_setBuffer_self hchanged] at hbuffer
    rw [← h.file _ hchanged, ← Option.some.inj hbuffer]
  | closed =>
    cases hother
    rw [DocumentStore.buffer?_close, if_pos rfl] at hbuffer
    cases hbuffer

end Desk

/-! ### Saving the documents of a batch -/

namespace WatcherState

variable {H W : Type} {c : Collaborators H} {shelf : Shelf H W} {s : WatcherState H}
  {edits : List (DocumentId × String)}

theorem save_eq (hdocuments : c.documents = shelf.storage) (document : DocumentId)
    (s : WatcherState H) :
    s.save c document =
      ((shelf.save document s.site).1, ⟨s.watcher, (shelf.save document s.site).2⟩) := by
  rw [save, hdocuments]
  rfl

/-- What saving a document keeps of the documents and files is kept by saving a batch, however it
ends; and nothing is reported to the watcher meanwhile. -/
theorem saveAll_keeps_desk (hdocuments : c.documents = shelf.storage) (hshelf : shelf.Lawful)
    {P : Desk W → Prop}
    (hP : ∀ {desk after document answer},
      desk.Effect (.save shelf.fs document) answer after → P desk → P after)
    (batch : List WatchedEdit) :
    ∀ (summary : FlushSummary) (s : WatcherState H), P (shelf.desk s.site) →
      P (shelf.desk (saveAll c batch summary s).2.site) ∧
        (saveAll c batch summary s).2.watcher = s.watcher := by
  induction batch with
  | nil => exact fun summary s hs => ⟨hs, rfl⟩
  | cons edit batch ih =>
    intro summary s hs
    have hsaved := hP (hshelf.effect_save edit.document s.site) hs
    unfold saveAll
    split
    · exact ⟨hs, rfl⟩
    split
    · exact ih _ _ hs
    rw [save_eq hdocuments]
    split <;> rename_i heq <;> obtain ⟨-, rfl⟩ := Prod.mk.inj heq <;>
      exact ih _ ⟨s.watcher, _⟩ hsaved

/-- The counts of a summary only grow. -/
theorem le_saveAll (c : Collaborators H) (batch : List WatchedEdit) :
    ∀ (summary : FlushSummary) (s : WatcherState H),
      summary.dropped ≤ (saveAll c batch summary s).1.dropped ∧
        summary.failed ≤ (saveAll c batch summary s).1.failed := by
  induction batch with
  | nil => exact fun summary s => ⟨Nat.le_refl _, Nat.le_refl _⟩
  | cons edit batch ih =>
    intro summary s
    unfold saveAll
    split
    · exact ⟨Nat.le_refl _, Nat.le_refl _⟩
    split
    · exact (ih { summary with dropped := summary.dropped + 1 } s).imp_left Nat.le_of_succ_le
    split
    · exact ih { summary with saved := summary.saved + 1 } _
    · exact ih { summary with unchanged := summary.unchanged + 1 } _
    · exact (ih { summary with failed := summary.failed + 1 } _).imp_right Nat.le_of_succ_le

end WatcherState

namespace Desk

variable {W : Type} {view : FileView W} {fs : FileSystem W} {desk next after : Desk W}
  {path : Path} {edit other : WatchedEdit} {batch : List WatchedEdit} {wrote : Bool}

/-- Documents are saved one after the other, and no save fails. -/
inductive Writes (fs : FileSystem W) : List WatchedEdit → Desk W → Desk W → Prop
  | nil (desk : Desk W) : Writes fs [] desk desk
  | cons {edit : WatchedEdit} {batch : List WatchedEdit} {desk next after : Desk W} {wrote : Bool}
      (hsave : desk.Effect (.save fs edit.document) (.saved (.ok wrote)) next)
      (h : Writes fs batch next after) : Writes fs (edit :: batch) desk after

/-- The document of an edit has something to write to the file at a path. -/
def Unsaved (view : FileView W) (desk : Desk W) (path : Path) (edit : WatchedEdit) : Prop :=
  view.shared desk.world edit.file.path path ∧ desk.store.isDirty edit.document = true

/-! One save that does not fail. -/

theorem exists_buffer_of_saved (h : desk.Effect (.save fs edit.document) (.saved (.ok wrote)) next) :
    ∃ buffer, desk.store.buffer? edit.document = some buffer := by
  cases h with
  | idle hbuffer | saved hbuffer => exact ⟨_, hbuffer⟩

theorem buffer?_of_saved (h : desk.Effect (.save fs edit.document) (.saved (.ok wrote)) next)
    (hother : other.document ≠ edit.document) :
    next.store.buffer? other.document = desk.store.buffer? other.document :=
  h.buffer?_of_ne fun heq => hother (Option.some.inj heq).symm

theorem unsaved_iff_of_saved (hfs : view.Linked fs)
    (h : desk.Effect (.save fs edit.document) (.saved (.ok wrote)) next)
    (hother : other.document ≠ edit.document) :
    next.Unsaved view path other ↔ desk.Unsaved view path other := by
  have hshared : view.shared next.world = view.shared desk.world := by
    cases h with
    | idle => rfl
    | saved _ _ _ hwrite => exact hfs.steady hwrite
  rw [Unsaved, Unsaved, hshared, DocumentStore.isDirty, buffer?_of_saved h hother,
    DocumentStore.isDirty]

/-- A document with something to write to a file leaves its text there. -/
theorem content_of_unsaved (hfs : view.Linked fs) (hwatches : desk.store.Watches edit)
    (h : desk.Effect (.save fs edit.document) (.saved (.ok wrote)) next)
    (hunsaved : desk.Unsaved view path edit)
    (hread : (view.content desk.world path).isSome = true ∨ edit.file.path = path) :
    ∃ text, desk.store.text? edit.document = some text ∧
      view.content next.world path = some (Utf8.encodeString text) := by
  cases h with
  | idle hbuffer hidle =>
    obtain ⟨-, hdirty⟩ := hunsaved
    rw [DocumentStore.isDirty_eq hbuffer, bne_iff_ne] at hdirty
    rcases hidle with hclean | hsynthetic
    · exact absurd hclean hdirty
    · rw [hwatches.file _ hbuffer, hwatches.physical] at hsynthetic
      cases hsynthetic
  | saved hbuffer _ _ hwrite =>
    rw [hwatches.file _ hbuffer] at hwrite
    refine ⟨_, congrArg (Option.map _) hbuffer, ?_⟩
    rcases hread with hread | rfl
    · exact hfs.linked hwrite path hunsaved.1 hread
    · exact hfs.written hwrite

/-- Any other one leaves the file as it is. -/
theorem content_of_not_unsaved (hfs : view.Linked fs) (hwatches : desk.store.Watches edit)
    (h : desk.Effect (.save fs edit.document) (.saved (.ok wrote)) next)
    (hnot : ¬ desk.Unsaved view path edit) :
    view.content next.world path = view.content desk.world path := by
  cases h with
  | idle => rfl
  | saved hbuffer hdirty _ hwrite =>
    rw [hwatches.file _ hbuffer] at hwrite
    refine hfs.frame hwrite path fun hshared => hnot ⟨hshared, ?_⟩
    rw [DocumentStore.isDirty_eq hbuffer, bne_iff_ne]
    exact hdirty

theorem isSome_content_of_saved (hfs : view.Linked fs) (hwatches : desk.store.Watches edit)
    (h : desk.Effect (.save fs edit.document) (.saved (.ok wrote)) next)
    (hread : (view.content desk.world path).isSome = true ∨
      edit.file.path = path ∧ desk.store.isDirty edit.document = true) :
    (view.content next.world path).isSome = true := by
  by_cases hunsaved : desk.Unsaved view path edit
  case pos =>
    obtain ⟨text, -, hcontent⟩ :=
      content_of_unsaved hfs hwatches h hunsaved (hread.imp_right And.left)
    rw [hcontent, Option.isSome_some]
  case neg =>
    rw [content_of_not_unsaved hfs hwatches h hunsaved]
    rcases hread with hread | ⟨rfl, hdirty⟩
    · exact hread
    · exact absurd ⟨hfs.shared_self _ _, hdirty⟩ hunsaved

/-! Saves one after the other. -/

theorem Writes.exists_buffer (h : Writes fs batch desk after) :
    ∀ edit ∈ batch, ∃ buffer, desk.store.buffer? edit.document = some buffer := by
  induction h with
  | nil => exact fun _ hedit => nomatch hedit
  | @cons first batch desk next after wrote hsave h ih =>
    intro edit hedit
    by_cases hfirst : edit.document = first.document
    · exact hfirst ▸ exists_buffer_of_saved hsave
    · have hlater := (List.mem_cons.mp hedit).resolve_left fun heq => hfirst (heq ▸ rfl)
      rw [← buffer?_of_saved hsave hfirst]
      exact ih edit hlater

/-- A batch in order holds no open document twice. -/
theorem nodup_of_increasing (hincreasing : Sorted.Increasing WatchedEdit.order batch)
    (hwatches : ∀ edit ∈ batch, desk.store.Watches edit)
    (hopen : ∀ edit ∈ batch, ∃ buffer, desk.store.buffer? edit.document = some buffer) :
    (batch.map (·.document)).Nodup := by
  refine List.pairwise_map.mpr (hincreasing.imp_of_mem fun {edit other} hedit hother hlt heq => ?_)
  obtain ⟨buffer, hbuffer⟩ := hopen edit hedit
  have hfile := (hwatches edit hedit).file buffer hbuffer
  have hfile' := (hwatches other hother).file buffer (heq ▸ hbuffer)
  have hsame : edit = other := by
    cases edit
    cases other
    cases heq
    cases hfile
    cases hfile'
    rfl
  have hself : other.order other = .eq := Std.ReflCmp.compare_self
  rw [hsame, hself] at hlt
  cases hlt

/-- What documents that are saved in order leave in a file: the text of the last one that had
anything to write there, or else what it held before. -/
theorem Writes.content (hfs : view.Linked fs) (h : Writes fs batch desk after)
    (hnodup : (batch.map (·.document)).Nodup)
    (hwatches : ∀ edit ∈ batch, desk.store.Watches edit)
    (hread : (view.content desk.world path).isSome = true ∨
      ∃ edit ∈ batch, edit.file.path = path ∧ desk.store.isDirty edit.document = true) :
    (∃ last text, IsLast (desk.Unsaved view path) batch last ∧
      desk.store.text? last.document = some text ∧
        view.content after.world path = some (Utf8.encodeString text)) ∨
      (∀ edit ∈ batch, ¬ desk.Unsaved view path edit) ∧
        view.content after.world path = view.content desk.world path := by
  induction h with
  | nil => exact .inr ⟨List.forall_mem_nil _, rfl⟩
  | @cons first batch desk next after wrote hsave h ih =>
    obtain ⟨hfresh, hnodup⟩ := List.nodup_cons.mp hnodup
    obtain ⟨hfirst, hbatch⟩ := List.forall_mem_cons.mp hwatches
    have hother : ∀ edit ∈ batch, edit.document ≠ first.document := fun edit hedit heq =>
      hfresh (List.mem_map.mpr ⟨edit, hedit, heq⟩)
    have hkept : ∀ edit ∈ batch, next.Unsaved view path edit ↔ desk.Unsaved view path edit :=
      fun edit hedit => unsaved_iff_of_saved hfs hsave (hother edit hedit)
    have hself : ∀ edit : WatchedEdit, edit.file.path = path →
        desk.store.isDirty edit.document = true → desk.Unsaved view path edit :=
      fun edit hpath hdirty => ⟨hpath ▸ hfs.shared_self _ _, hdirty⟩
    have hread' : (view.content next.world path).isSome = true ∨
        ∃ edit ∈ batch, edit.file.path = path ∧ next.store.isDirty edit.document = true := by
      rcases hread with hread | ⟨edit, hedit, hpath, hdirty⟩
      · exact .inl (isSome_content_of_saved hfs hfirst hsave (.inl hread))
      rcases List.mem_cons.mp hedit with rfl | hedit
      · exact .inl (isSome_content_of_saved hfs hfirst hsave (.inr ⟨hpath, hdirty⟩))
      · refine .inr ⟨edit, hedit, hpath, ?_⟩
        rwa [DocumentStore.isDirty, buffer?_of_saved hsave (hother edit hedit),
          ← DocumentStore.isDirty]
    rcases ih hnodup (fun edit hedit => hsave.watches (hbatch edit hedit)) hread' with
      ⟨last, text, hlast, htext, hcontent⟩ | ⟨hnone, hcontent⟩
    · refine .inl ⟨last, text, (hlast.congr hkept).cons first, ?_, hcontent⟩
      rwa [DocumentStore.text?, ← buffer?_of_saved hsave (hother last hlast.mem)]
    have hnone' : ∀ edit ∈ batch, ¬ desk.Unsaved view path edit := fun edit hedit =>
      mt (hkept edit hedit).mpr (hnone edit hedit)
    by_cases hunsaved : desk.Unsaved view path first
    case pos =>
      have hfound : (view.content desk.world path).isSome = true ∨ first.file.path = path := by
        rcases hread with hread | ⟨edit, hedit, hpath, hdirty⟩
        · exact .inl hread
        rcases List.mem_cons.mp hedit with rfl | hedit
        · exact .inr hpath
        · exact absurd (hself edit hpath hdirty) (hnone' edit hedit)
      obtain ⟨text, htext, hwritten⟩ := content_of_unsaved hfs hfirst hsave hunsaved hfound
      exact .inl ⟨first, text, .cons_self hunsaved hnone', htext, hcontent.trans hwritten⟩
    case neg =>
      refine .inr ⟨List.forall_mem_cons.mpr ⟨hunsaved, hnone'⟩, ?_⟩
      exact hcontent.trans (content_of_not_unsaved hfs hfirst hsave hunsaved)

end Desk

namespace WatcherState

variable {H W : Type} {c : Collaborators H} {shelf : Shelf H W}

/-- Where none is dropped or fails and nobody calls flushing off, every document is saved. -/
theorem writes_of_saveAll (hdocuments : c.documents = shelf.storage) (hshelf : shelf.Lawful)
    (batch : List WatchedEdit) :
    ∀ {summary final : FlushSummary} {s after : WatcherState H},
      saveAll c batch summary s = (final, after) → final.cancelled = false →
        final.dropped = summary.dropped → final.failed = summary.failed →
          Desk.Writes shelf.fs batch (shelf.desk s.site) (shelf.desk after.site) := by
  induction batch with
  | nil =>
    rintro summary final s after ⟨⟩ - - -
    exact .nil _
  | cons edit batch ih =>
    intro summary final s after h hcancelled hdropped hfailed
    have heffect := hshelf.effect_save edit.document s.site
    rw [saveAll, save_eq hdocuments] at h
    split at h
    case isTrue =>
      cases h
      cases hcancelled
    split at h
    case isTrue =>
      have hle := (le_saveAll c batch { summary with dropped := summary.dropped + 1 } s).1
      rw [h, hdropped] at hle
      exact absurd hle (Nat.not_succ_le_self _)
    split at h <;> rename_i heq <;> obtain ⟨hresult, rfl⟩ := Prod.mk.inj heq
    case h_1 | h_2 => exact .cons (hresult ▸ heffect) (ih h hcancelled hdropped hfailed)
    case h_3 error =>
      have hle := (le_saveAll c batch { summary with failed := summary.failed + 1 }
        (note (.saveFailed edit.file error) ⟨s.watcher, (shelf.save edit.document s.site).2⟩)).2
      rw [h, hfailed] at hle
      exact absurd hle (Nat.not_succ_le_self _)

/-! ### Runs -/

/-- What is done to documents and to the watcher, with the edit that is made. -/
inductive DocumentStep (c : Collaborators H) (shelf : Shelf H W) (s : WatcherState H) :
    List (DocumentId × String) → WatcherState H → Prop
  | opened (file : FileRef) :
    DocumentStep c shelf s [] { s with site := (shelf.openFile file s.site).2 }
  | edited {document : DocumentId} {text : String} {version : Nat} {store : DocumentStore}
      (h : (shelf.store s.site.host).edit document text = (.ok version, store)) :
    DocumentStep c shelf s [(document, text)] { s with site := shelf.setStore store s.site }
  | closed (document : DocumentId) :
    DocumentStep c shelf s []
      { s with site := shelf.setStore ((shelf.store s.site.host).close document).2 s.site }
  | saved (document : DocumentId) : DocumentStep c shelf s [] (s.save c document).2
  | reported (document : DocumentId) : DocumentStep c shelf s [] (s.documentChanged c document).2
  | flushed : DocumentStep c shelf s [] (s.flush c).2
  /-- Whatever else happens, to files too, as long as documents and waiting edits stay. -/
  | elsewhere {after : WatcherState H}
      (hstore : shelf.store after.site.host = shelf.store s.site.host)
      (hpending : after.watcher.queue.pending = s.watcher.queue.pending) :
    DocumentStep c shelf s [] after

/-- What comes of steps one after the other, from no open document and no waiting edit on, with the
edits that were made. -/
inductive DocumentRun (c : Collaborators H) (shelf : Shelf H W) :
    List (DocumentId × String) → WatcherState H → Prop
  | start {s : WatcherState H} (hstore : shelf.store s.site.host = {})
      (hpending : s.watcher.queue.pending = []) : DocumentRun c shelf [] s
  | step {edits made : List (DocumentId × String)} {s after : WatcherState H}
      (h : DocumentRun c shelf edits s) (hstep : DocumentStep c shelf s made after) :
    DocumentRun c shelf (edits ++ made) after

/-- The documents go with the edits that were made, and the waiting edits with the documents. -/
structure Consistent (shelf : Shelf H W) (edits : List (DocumentId × String))
    (s : WatcherState H) : Prop where
  recorded : (shelf.store s.site.host).Recorded edits
  sound : s.watcher.queue.Sound
  watches : ∀ edit ∈ s.watcher.queue.pending, (shelf.store s.site.host).Watches edit

variable {s after : WatcherState H} {edits made : List (DocumentId × String)}

theorem Consistent.of_eq (h : Consistent shelf edits s)
    (hstore : shelf.store after.site.host = shelf.store s.site.host)
    (hpending : after.watcher.queue.pending = s.watcher.queue.pending) :
    Consistent shelf edits after where
  recorded := hstore ▸ h.recorded
  sound := by
    rw [FlushQueue.Sound, hpending]
    exact h.sound
  watches edit hedit := hstore ▸ h.watches edit (hpending ▸ hedit)

/-- An operation on documents keeps both. -/
theorem Consistent.effect (h : Consistent shelf edits s) {act : Desk.Act W} {answer : Desk.Answer}
    {site : Site H} (heffect : (shelf.desk s.site).Effect act answer (shelf.desk site)) :
    Consistent shelf (edits ++ Desk.made act answer) { s with site := site } where
  recorded := heffect.recorded h.recorded
  sound := h.sound
  watches edit hedit := heffect.watches (h.watches edit hedit)

/-- An edit that is reported waits for a document with a file, which is the file it waits under. -/
theorem Consistent.documentChanged (h : Consistent shelf edits s)
    (hdocuments : c.documents = shelf.storage) (document : DocumentId) :
    Consistent shelf edits (s.documentChanged c document).2 := by
  unfold WatcherState.documentChanged
  split
  case h_1 => exact h
  case h_2 file hfile =>
    split
    case isTrue => exact h
    case isFalse hwatched =>
      rw [hdocuments] at hfile
      obtain ⟨buffer, hbuffer, rfl⟩ := Option.map_eq_some_iff.mp hfile
      rw [Bool.or_eq_true, not_or, Bool.not_eq_true] at hwatched
      have hpending := pending_edited ⟨buffer.file, document⟩ s.watcher
      refine ⟨h.recorded, ?_, fun edit hedit => ?_⟩
      · rw [FlushQueue.Sound]
        exact hpending ▸ Sorted.increasing_insert h.sound
      · rcases Sorted.eq_or_mem_of_mem_insert (hpending ▸ hedit) with rfl | hold
        · refine ⟨(h.recorded hbuffer).issued, hwatched.1, fun other hother => ?_⟩
          rw [Option.some.inj (hbuffer.symm.trans hother)]
        · exact h.watches edit hold

/-- A flush is the saving of its batch, up to the journal. -/
theorem flush_eq_saveAll (c : Collaborators H) (shelf : Shelf H W) (s : WatcherState H) :
    (s.flush c).1 = (saveAll c s.watcher.queue.pending {} s.taken).1 ∧
      shelf.desk (s.flush c).2.site =
        shelf.desk (saveAll c s.watcher.queue.pending {} s.taken).2.site ∧
      (s.flush c).2.watcher = (saveAll c s.watcher.queue.pending {} s.taken).2.watcher := by
  rw [flush_eq]
  split
  case isTrue hempty =>
    rw [List.isEmpty_iff.mp hempty]
    exact ⟨rfl, rfl, rfl⟩
  case isFalse => exact ⟨rfl, rfl, rfl⟩

/-- A flush leaves no edit waiting, however it ends. -/
theorem Consistent.flush (h : Consistent shelf edits s) (hdocuments : c.documents = shelf.storage)
    (hshelf : shelf.Lawful) : Consistent shelf edits (s.flush c).2 := by
  obtain ⟨-, hdesk, hwatcher⟩ := flush_eq_saveAll c shelf s
  obtain ⟨hrecorded, hkept⟩ :=
    saveAll_keeps_desk (P := fun desk => desk.store.Recorded edits) hdocuments hshelf
      (fun heffect hrecorded => by simpa [Desk.made] using heffect.recorded hrecorded)
      s.watcher.queue.pending {} s.taken h.recorded
  have hpending : (s.flush c).2.watcher.queue.pending = [] := by
    rw [hwatcher, hkept]
    rfl
  refine ⟨?_, ?_, fun edit hedit => ?_⟩
  · rwa [← hdesk] at hrecorded
  · rw [FlushQueue.Sound, hpending]
    exact .nil
  · rw [hpending] at hedit
    cases hedit

/-- What one step preserves. -/
theorem DocumentStep.consistent (hstep : DocumentStep c shelf s made after)
    (h : Consistent shelf edits s) (hdocuments : c.documents = shelf.storage)
    (hshelf : shelf.Lawful) : Consistent shelf (edits ++ made) after := by
  cases hstep with
  | opened file => exact h.effect (hshelf.effect_openFile file s.site)
  | edited hedit => exact h.effect (hshelf.effect_edit hedit)
  | closed document => exact h.effect (hshelf.effect_close document s.site)
  | saved document =>
    rw [save_eq hdocuments]
    exact h.effect (hshelf.effect_save document s.site)
  | reported document => exact (List.append_nil edits).symm ▸ h.documentChanged hdocuments document
  | flushed => exact (List.append_nil edits).symm ▸ h.flush hdocuments hshelf
  | elsewhere hstore hpending => exact (List.append_nil edits).symm ▸ h.of_eq hstore hpending

/-- What a whole run preserves. -/
theorem DocumentRun.consistent (h : DocumentRun c shelf edits s)
    (hdocuments : c.documents = shelf.storage) (hshelf : shelf.Lawful) :
    Consistent shelf edits s := by
  induction h with
  | start hstore hpending =>
    refine ⟨?_, ?_, fun edit hedit => ?_⟩
    · rw [hstore]
      exact fun _ _ hbuffer => nomatch hbuffer
    · rw [FlushQueue.Sound, hpending]
      exact .nil
    · rw [hpending] at hedit
      cases hedit
  | step _ hstep ih => exact hstep.consistent ih hdocuments hshelf

/-- A flush that is not called off and in which none is dropped or fails saves every waiting
document. -/
theorem writes_of_flush (hdocuments : c.documents = shelf.storage) (hshelf : shelf.Lawful)
    {summary : FlushSummary} (h : s.flush c = (summary, after))
    (hcancelled : summary.cancelled = false) (hdropped : summary.dropped = 0)
    (hfailed : summary.failed = 0) :
    Desk.Writes shelf.fs s.watcher.queue.pending (shelf.desk s.site) (shelf.desk after.site) := by
  obtain ⟨hsummary, hdesk, -⟩ := flush_eq_saveAll c shelf s
  rw [h] at hsummary hdesk
  have hsaved : saveAll c s.watcher.queue.pending {} s.taken =
      (summary, (saveAll c s.watcher.queue.pending {} s.taken).2) := Prod.ext hsummary.symm rfl
  have hwrites := writes_of_saveAll hdocuments hshelf _ hsaved
  rw [hdesk]
  exact hwrites hcancelled hdropped hfailed

end WatcherState

open WatcherState

/-- After any run of a document store on a file system behind a watcher, and a flush that was not
called off and in which no document was dropped or failed: a file of the batch holds the latest
edit of the last document, in the order of the batch, that is over this file and had anything to
write, or it is unchanged if there is none. So it holds the latest edit of all documents of the
batch that are over this file if that was made to the last one of them with anything to write; an
edit of another document may be overwritten. -/
theorem flushed_file_holds_last_document {H W : Type} {c : Collaborators H} {shelf : Shelf H W}
    {view : FileView W} (hdocuments : c.documents = shelf.storage) (hshelf : shelf.Lawful)
    (hfs : view.Linked shelf.fs) {edits : List (DocumentId × String)} {s after : WatcherState H}
    (hrun : DocumentRun c shelf edits s) {summary : FlushSummary}
    (hflush : s.flush c = (summary, after)) (hcancelled : summary.cancelled = false)
    (hdropped : summary.dropped = 0) (hfailed : summary.failed = 0) {edit : WatchedEdit}
    (hedit : edit ∈ s.watcher.queue.pending)
    (hread : (view.content (shelf.world s.site.host) edit.file.path).isSome = true ∨
      (shelf.store s.site.host).isDirty edit.document = true) :
    (∃ last text,
      IsLast ((shelf.desk s.site).Unsaved view edit.file.path) s.watcher.queue.pending last ∧
        IsLast (fun made => made.1 = last.document) edits (last.document, text) ∧
        view.text (shelf.world after.site.host) edit.file.path = some text ∧
        ∀ latest, IsLast (fun made => ∃ waiting ∈ s.watcher.queue.pending,
            waiting.document = made.1 ∧
              view.shared (shelf.world s.site.host) waiting.file.path edit.file.path) edits latest →
          latest.1 = last.document →
            view.text (shelf.world after.site.host) edit.file.path = some latest.2) ∨
      (∀ waiting ∈ s.watcher.queue.pending,
        ¬ (shelf.desk s.site).Unsaved view edit.file.path waiting) ∧
        view.content (shelf.world after.site.host) edit.file.path =
          view.content (shelf.world s.site.host) edit.file.path := by
  have hconsistent := hrun.consistent hdocuments hshelf
  have hwrites := writes_of_flush hdocuments hshelf hflush hcancelled hdropped hfailed
  have hnodup := Desk.nodup_of_increasing hconsistent.sound hconsistent.watches
    hwrites.exists_buffer
  refine (hwrites.content hfs hnodup hconsistent.watches
    (hread.imp_right fun hdirty => ⟨edit, hedit, rfl, hdirty⟩)).imp_left ?_
  rintro ⟨last, text, hlast, htext, hcontent⟩
  obtain ⟨hshared, hdirty⟩ := hlast.holds
  obtain ⟨buffer, hbuffer, rfl⟩ := Option.map_eq_some_iff.mp htext
  rw [DocumentStore.isDirty_eq hbuffer, bne_iff_ne] at hdirty
  have hmade := (hconsistent.recorded hbuffer).latest hdirty
  have hfile : view.text (shelf.world after.site.host) edit.file.path = some buffer.text := by
    rw [FileView.text]
    exact hcontent ▸ Utf8.decode_encodeString buffer.text
  refine ⟨last, buffer.text, hlast, hmade, hfile, fun latest hlatest hdocument => ?_⟩
  -- the latest edit of all documents is then the latest one of this document
  have hsame := hmade.unique (hlatest.mono hdocument fun made hmade =>
    ⟨last, hlast.mem, hmade.symm, hshared⟩)
  rw [hfile, ← hsame]

section Example

/-- A world that is documents over a disk. -/
def diskShelf : Shelf (Desk Disk) Disk where
  store desk := desk.store
  world desk := desk.world
  put store disk _ := ⟨store, disk⟩
  fs := Disk.fileSystem

theorem lawful_diskShelf : diskShelf.Lawful :=
  ⟨fun _ _ _ => rfl, fun _ _ _ => rfl⟩

/-- Collaborators that know of files and documents on a disk, and of nothing else. -/
def diskCollaborators : Collaborators (Desk Disk) where
  resolver :=
    { stamp := fun _ => 0
      projectConfig := fun _ site => (none, site)
      hasConfigFiles := fun site => (false, site)
      directories := fun _ => []
      configFileIn := fun _ site => (none, site)
      reload := fun site => (.finished, site) }
  files := .ofDisk ⟨[47]⟩ Desk.world
  documents := diskShelf.storage
  libraries site := ([], site)
  registryInfo _ site := .done site (.ok {})
  validate _ site := .done site (.ok [])

/-- A new watcher at a disk with one file, which is a configuration file. -/
def atEmptyFile : WatcherState (Desk Disk) where
  watcher := { options := { names := .ofList ["a"] } }
  site := { host := { world := Desk.emptyFile } }

/-- The file is opened. -/
def openedAgain (s : WatcherState (Desk Disk)) : WatcherState (Desk Disk) :=
  { s with site := (diskShelf.openFile Desk.fileRef s.site).2 }

/-- A document is edited, and the edit is reported. -/
def editedAndReported (document : DocumentId) (text : String) (s : WatcherState (Desk Disk)) :
    WatcherState (Desk Disk) :=
  (WatcherState.documentChanged diskCollaborators document
    { s with
      site := diskShelf.setStore ((diskShelf.store s.site.host).edit document text).2 s.site }).2

/-- Two documents are opened on the file; the second one is edited first. -/
def firstEditedLast : WatcherState (Desk Disk) :=
  editedAndReported ⟨1⟩ "a" (editedAndReported ⟨2⟩ "b" (openedAgain (openedAgain atEmptyFile)))

/-- After that the second one is edited again. -/
def secondEditedLast : WatcherState (Desk Disk) :=
  editedAndReported ⟨2⟩ "c" firstEditedLast

theorem run_editedAndReported {edits : List (DocumentId × String)} {s : WatcherState (Desk Disk)}
    {document : DocumentId} {text : String} {version : Nat}
    (h : DocumentRun diskCollaborators diskShelf edits s)
    (hedit : ((diskShelf.store s.site.host).edit document text).1 = .ok version) :
    DocumentRun diskCollaborators diskShelf (edits ++ [(document, text)])
      (editedAndReported document text s) := by
  have hreported := (h.step (.edited (Prod.ext hedit rfl))).step (.reported document)
  rwa [List.append_nil] at hreported

theorem run_firstEditedLast :
    DocumentRun diskCollaborators diskShelf [(⟨2⟩, "b"), (⟨1⟩, "a")] firstEditedLast := by
  have hstart : DocumentRun diskCollaborators diskShelf [] atEmptyFile := .start rfl rfl
  have hopened := (hstart.step (.opened Desk.fileRef)).step (.opened Desk.fileRef)
  exact run_editedAndReported (run_editedAndReported hopened rfl) rfl

/-- The edit that waits for a document over the file. -/
def overEmptyFile (number : Nat) : WatchedEdit :=
  ⟨Desk.fileRef, ⟨number⟩⟩

/-- Whether an edit was made to one of the waiting documents over the file. -/
def MadeToWaiting (s : WatcherState (Desk Disk)) (made : DocumentId × String) : Prop :=
  ∃ waiting ∈ s.watcher.queue.pending, waiting.document = made.1 ∧
    Disk.view.shared (diskShelf.world s.site.host) waiting.file.path Desk.fileRef.path

/-- The batch is written in the order of documents: the latest edit is that of the first one, and
the file holds the earlier edit of the second one after a flush that wrote both. -/
theorem flush_overwrites_latest_edit :
    DocumentRun diskCollaborators diskShelf [(⟨2⟩, "b"), (⟨1⟩, "a")] firstEditedLast ∧
      IsLast (MadeToWaiting firstEditedLast) [(⟨2⟩, "b"), (⟨1⟩, "a")] (⟨1⟩, "a") ∧
      (firstEditedLast.flush diskCollaborators).1 = { saved := 2 } ∧
      Disk.view.text
        (diskShelf.world (firstEditedLast.flush diskCollaborators).2.site.host)
        Desk.fileRef.path = some "b" := by
  refine ⟨run_firstEditedLast, ?_, by decide, by decide⟩
  exact .concat [((⟨2⟩ : DocumentId), "b")] ⟨overEmptyFile 1, by decide, rfl, rfl⟩

/-- Where the second document is edited once more, the file holds that edit, which is the latest
one. -/
theorem flushed_file_holds_last_document_latest :
    (secondEditedLast.flush diskCollaborators).1 = { saved := 2 } ∧
      Disk.view.text
        (diskShelf.world (secondEditedLast.flush diskCollaborators).2.site.host)
        Desk.fileRef.path = some "c" := by
  have hrun := run_editedAndReported run_firstEditedLast
    (rfl : ((diskShelf.store firstEditedLast.site.host).edit ⟨2⟩ "c").1 = .ok 2)
  have hsummary : (secondEditedLast.flush diskCollaborators).1 = { saved := 2 } := by decide
  have hpending : secondEditedLast.watcher.queue.pending = [overEmptyFile 1] ++ [overEmptyFile 2] :=
    by decide
  have hwaits : overEmptyFile 2 ∈ secondEditedLast.watcher.queue.pending := by decide
  have hunsaved : (diskShelf.desk secondEditedLast.site).Unsaved Disk.view Desk.fileRef.path
      (overEmptyFile 2) := ⟨rfl, by decide⟩
  have hlast := hpending ▸ IsLast.concat [overEmptyFile 1] hunsaved
  have hlatest : IsLast (MadeToWaiting secondEditedLast)
      ([(⟨2⟩, "b"), (⟨1⟩, "a")] ++ [(⟨2⟩, "c")]) (⟨2⟩, "c") :=
    .concat _ ⟨_, hwaits, rfl, rfl⟩
  rcases flushed_file_holds_last_document rfl lawful_diskShelf Disk.linked_fileSystem hrun
    (Prod.ext hsummary rfl) rfl rfl rfl hwaits (.inr (by decide)) with
    ⟨last, text, hother, -, -, hfile⟩ | ⟨hnone, -⟩
  · exact ⟨hsummary, hfile _ hlatest (congrArg WatchedEdit.document (hlast.unique hother))⟩
  · exact absurd hunsaved (hnone _ hwaits)

end Example

end SchemaEngine
