import Mathlib.Tactic.SplitIfs
import SchemaEngine.Disk.Tree
import SchemaEngine.Proofs.Order.Keyed
import SchemaEngine.Proofs.Text.Utf8

/-!
# What is written is read

Where a path leads can be told from the path alone. Writing a file puts the file there and changes
no other entry but for the time of a directory. So a path that leads there reads what was written,
and a path that leads elsewhere reads what it read before, although it may be refused for another
reason: what was missing on its way may now be a file.

## Main definitions

* `Disk.goal`: where a path leads, whether there is anything on the way or not.
* `Disk.held`: what is at a location, times aside.
* `Disk.Written`: one disk is another one on which a file was written.
* `FileView`, `FileView.Served`: what files hold, and file systems that write all or nothing.
* `FileView.Linked`: file systems for which paths that share a file read the same.
* `Disk.view`: what the files of a disk hold.

## Main results

* `Disk.follow_file`, `Disk.Written.bytesAt_follow_of_ne`: paths on the disk that is left.
* `Disk.written_of_write`: a file is written where its path leads, and is read there.
* `Disk.served_fileSystem`: a disk writes all or nothing.
* `Disk.linked_fileSystem`: what is written at a path is read at all paths that lead there.
-/

set_option autoImplicit false

namespace SchemaEngine

/-- The bytes of a file; nothing for a directory. -/
def DiskEntry.content? : DiskEntry → Option (List UInt8)
  | file content _ => some content
  | directory _ => none

/-- Where a file is, or may be made. -/
def Target.file? : Target → Option Location
  | found location (.file ..) => some location
  | found _ (.directory _) => none
  | vacant directory name slashed => if slashed then none else some (directory ++ [name])

namespace Disk

variable {disk after : Disk} {location start : Location} {content : List UInt8}
  {segment : List UInt8} {segments : List (List UInt8)}

/-! ### Following a path -/

/-- Whether a segment of a path is a name. -/
def isName (segment : List UInt8) : Bool :=
  !stays segment && segment != [Path.dot, Path.dot]

/-- Where a segment leads, whether there is anything or not. -/
def next (start : Location) (segment : List UInt8) : Location :=
  if stays segment then start
  else if segment = [Path.dot, Path.dot] then start.dropLast
  else start ++ [segment]

theorem next_of_isName (start : Location) (h : isName segment = true) :
    next start segment = start ++ [segment] := by
  simp only [isName, Bool.and_eq_true, Bool.not_eq_true', bne_iff_ne] at h
  rw [next, if_neg (by rw [h.1]; exact Bool.false_ne_true), if_neg h.2]

/-- Where a path begins. -/
def startOf (disk : Disk) (path : Path) : Location :=
  if path.isAbsolute then [] else disk.home

/-- Where a path leads, whether there is anything on the way or not. -/
def goal (disk : Disk) (path : Path) : Location :=
  (Path.splitSlash path.bytes).foldl next (disk.startOf path)

/-- What is at a location, times aside. -/
def held (disk : Disk) (location : Location) : Option (Option (List UInt8)) :=
  (disk.entry? location).map DiskEntry.content?

theorem isNone_entry? (disk : Disk) (location : Location) :
    (disk.entry? location).isNone = (disk.held location).isNone := by
  rw [held, Option.isNone_map]

theorem follow_of_directory (h : disk.held start = some none) :
    disk.follow start (segment :: segments) =
      if isName segment && decide (nameLimit < segment.length) then .error .nameTooLong
      else if isName segment && (disk.held (next start segment)).isNone &&
          segments.all List.isEmpty then
        .ok (.vacant start segment (!segments.isEmpty))
      else disk.follow (next start segment) segments := by
  obtain ⟨entry, hentry, hcontent⟩ := Option.map_eq_some_iff.mp h
  cases entry with
  | file => cases hcontent
  | directory =>
    rw [follow, hentry, isName, next]
    by_cases hstays : stays segment = true
    · simp [hstays]
    by_cases hup : segment = [Path.dot, Path.dot]
    · simp [hup, stays, Path.dot]
    simp [hstays, hup, isNone_entry?]

theorem follow_of_not_directory (h : disk.held start ≠ some none) :
    ∃ fault, disk.follow start (segment :: segments) = .error fault := by
  rw [follow]
  cases hentry : disk.entry? start with
  | none => exact ⟨_, rfl⟩
  | some entry =>
    cases entry with
    | file => exact ⟨_, rfl⟩
    | directory => exact absurd (congrArg (Option.map _) hentry) h

/-- The bytes that are read at the end of a way. -/
def bytesAt : Except IoFault Target → Option (List UInt8)
  | .ok (.found _ entry) => entry.content?
  | _ => none

theorem toOption_read (disk : Disk) (path : Path) :
    (disk.read path).toOption = bytesAt (disk.resolve path) := by
  rw [read, locate]
  rcases disk.resolve path with fault | ⟨location, entry⟩ | _
  · rfl
  · cases entry <;> rfl
  · rfl

theorem bytesAt_follow_nil (disk : Disk) (start : Location) :
    bytesAt (disk.follow start []) = (disk.held start).join := by
  rw [follow, held]
  cases disk.entry? start <;> rfl

theorem foldl_next_of_all_isEmpty (start : Location) :
    ∀ {segments : List (List UInt8)}, segments.all List.isEmpty = true →
      segments.foldl next start = start
  | [], _ => rfl
  | segment :: segments, h => by
    rw [List.all_cons, Bool.and_eq_true] at h
    rw [List.foldl_cons, next, if_pos (by rw [stays, h.1, Bool.true_or]),
      foldl_next_of_all_isEmpty start h.2]

/-! ### Writing a file -/

/-- One disk is another one on which a file was written. -/
structure Written (location : Location) (content : List UInt8) (disk after : Disk) : Prop where
  home : after.home = disk.home
  vacant : disk.held location ≠ some none
  here : after.held location = some (some content)
  elsewhere : ∀ other, other ≠ location → after.held other = disk.held other

namespace Written

variable (h : Written location content disk after)

include h

/-- No directory is made or removed. -/
theorem held_directory_iff : after.held start = some none ↔ disk.held start = some none := by
  by_cases heq : start = location
  · rw [heq]
    exact iff_of_false (by simp [h.here]) h.vacant
  · rw [h.elsewhere start heq]

/-- Nothing goes away. -/
theorem isNone_held (hnone : (after.held start).isNone = true) :
    (disk.held start).isNone = true := by
  by_cases heq : start = location
  · rw [heq, h.here] at hnone
    cases hnone
  · rwa [← h.elsewhere start heq]

/-- A path that leads elsewhere reads what it read before. -/
theorem bytesAt_follow_of_ne : ∀ {start : Location}, segments.foldl next start ≠ location →
    bytesAt (after.follow start segments) = bytesAt (disk.follow start segments) := by
  induction segments with
  | nil =>
    intro start hgoal
    rw [bytesAt_follow_nil, bytesAt_follow_nil, h.elsewhere start hgoal]
  | cons segment segments ih =>
    intro start hgoal
    by_cases hstart : disk.held start = some none
    case neg =>
      obtain ⟨fault, hfault⟩ := follow_of_not_directory hstart
      obtain ⟨fault', hfault'⟩ := follow_of_not_directory (mt h.held_directory_iff.mp hstart)
      rw [hfault, hfault']
      rfl
    rw [follow_of_directory hstart, follow_of_directory (h.held_directory_iff.mpr hstart)]
    by_cases hnext : next start segment = location
    case pos =>
      -- the way goes on behind the file, so there is something to go on with
      have hrest : segments.all List.isEmpty = false :=
        Bool.eq_false_iff.mpr fun hall => hgoal (hnext ▸ foldl_next_of_all_isEmpty _ hall)
      simp only [hrest, Bool.and_false, Bool.false_eq_true, if_false]
      split
      · rfl
      · exact ih hgoal
    case neg =>
      rw [h.elsewhere _ hnext]
      split_ifs
      · rfl
      · rfl
      · exact ih hgoal

end Written

/-- A path that leads to a file, or to a place for one, reads what is written there. -/
theorem follow_file {target : Target} (hfile : target.file? = some location) :
    ∀ {start : Location}, disk.follow start segments = .ok target →
      segments.foldl next start = location ∧ disk.held location ≠ some none ∧
        ∀ {content : List UInt8} {after : Disk}, Written location content disk after →
          bytesAt (after.follow start segments) = some content := by
  induction segments with
  | nil =>
    intro start h
    rw [follow] at h
    split at h
    case h_2 => cases h
    case h_1 entry hentry =>
      cases h
      cases entry with
      | directory => cases hfile
      | file bytes =>
        cases hfile
        refine ⟨rfl, by simp [held, hentry, DiskEntry.content?], fun hwritten => ?_⟩
        rw [bytesAt_follow_nil, hwritten.here]
        rfl
  | cons segment segments ih =>
    intro start h
    by_cases hstart : disk.held start = some none
    case neg =>
      obtain ⟨fault, hfault⟩ := follow_of_not_directory hstart
      cases hfault.symm.trans h
    rw [follow_of_directory hstart] at h
    split_ifs at h with hlong hvacant
    case pos =>
      cases h
      obtain ⟨hslash, hlocation⟩ := Option.ite_none_left_eq_some.mp hfile
      obtain rfl : segments = [] := by simpa using hslash
      cases hlocation
      simp only [Bool.and_eq_true, Option.isNone_iff_eq_none] at hvacant
      have hnext := next_of_isName start hvacant.1.1
      rw [hnext] at hvacant
      refine ⟨hnext, by simp [hvacant.1.2], fun hwritten => ?_⟩
      rw [follow_of_directory (hwritten.held_directory_iff.mpr hstart), if_neg hlong, hnext,
        hwritten.here, Option.isNone_some, Bool.and_false, Bool.false_and,
        if_neg Bool.false_ne_true, bytesAt_follow_nil, hwritten.here]
      rfl
    case neg =>
      obtain ⟨hgoal, hheld, hread⟩ := ih h
      refine ⟨hgoal, hheld, fun {_ after} hwritten => ?_⟩
      have hafter : ¬ (isName segment && (after.held (next start segment)).isNone &&
          segments.all List.isEmpty) = true := by
        simp only [Bool.and_eq_true] at hvacant ⊢
        exact fun hnone => hvacant ⟨⟨hnone.1.1, hwritten.isNone_held hnone.1.2⟩, hnone.2⟩
      rw [follow_of_directory (hwritten.held_directory_iff.mpr hstart), if_neg hlong,
        if_neg hafter, hread hwritten]

/-! ### The disk that is left -/

theorem entry?_eq (disk : Disk) (h : location ≠ []) :
    disk.entry? location = Keyed.at? location disk.entries := by
  unfold entry?
  rw [if_neg (mt List.isEmpty_iff.mp h), Keyed.at?]

theorem held_nil (disk : Disk) : disk.held [] = some none :=
  rfl

theorem entry?_setEntry (h : location ≠ []) (entry : DiskEntry) (disk : Disk) (other : Location) :
    Disk.entry? (disk.setEntry location entry) other =
      if other = location then some entry else disk.entry? other := by
  by_cases hroot : other = []
  · rw [hroot, if_neg (Ne.symm h)]
    rfl
  rw [setEntry, entry?_eq _ hroot, entry?_eq _ hroot]
  split
  case isTrue hany =>
    rw [Keyed.any_eq_isSome] at hany
    rw [Keyed.at?_replace]
    split
    case isTrue heq =>
      obtain ⟨old, hold⟩ := Option.isSome_iff_exists.mp hany
      rw [heq, hold, Option.map_some]
    case isFalse => rfl
  case isFalse hany =>
    rw [Keyed.any_eq_isSome, Bool.not_eq_true, Option.isSome_eq_false_iff,
      Option.isNone_iff_eq_none] at hany
    rw [Keyed.at?_append, Keyed.at?_cons]
    split
    case isTrue heq => rw [heq, hany, Option.none_or]
    case isFalse => exact Option.or_none

theorem held_setEntry (h : location ≠ []) (entry : DiskEntry) (disk : Disk) (other : Location) :
    (disk.setEntry location entry).held other =
      if other = location then some entry.content? else disk.held other := by
  rw [held, entry?_setEntry h, apply_ite (Option.map _)]
  rfl

theorem home_setEntry (location : Location) (entry : DiskEntry) (disk : Disk) :
    (disk.setEntry location entry).home = disk.home := by
  rw [setEntry, apply_ite home]
  exact ite_self _

theorem home_stampDirectory (location : Location) (time : Int) (disk : Disk) :
    (disk.stampDirectory location time).home = disk.home := by
  rw [stampDirectory]
  split
  · rw [apply_ite home, home_setEntry, ite_self]
  · rfl

theorem content?_withTime (time : Int) (entry : DiskEntry) :
    (entry.withTime time).content? = entry.content? := by
  cases entry <;> rfl

/-- The time of a directory is not seen. -/
theorem held_stampDirectory (location : Location) (time : Int) (disk : Disk) (other : Location) :
    (disk.stampDirectory location time).held other = disk.held other := by
  rw [stampDirectory]
  split
  case h_2 => rfl
  case h_1 entry hentry =>
    split
    case isTrue => rfl
    case isFalse hroot =>
      rw [held_setEntry (mt List.isEmpty_iff.mpr hroot), content?_withTime]
      split
      case isTrue heq => rw [heq, held, hentry, Option.map_some]
      case isFalse => rfl

namespace Written

theorem of_setEntry (h : disk.held location ≠ some none) (content : List UInt8) (time : Int) :
    Written location content disk (disk.tick.2.setEntry location (.file content time)) := by
  have hroot : location ≠ [] := fun heq => h (heq ▸ disk.held_nil)
  constructor
  case home => exact home_setEntry ..
  case vacant => exact h
  case here => rw [held_setEntry hroot, if_pos rfl, DiskEntry.content?]
  case elsewhere =>
    intro other hother
    rw [held_setEntry hroot, if_neg hother]
    rfl

theorem stampDirectory (h : Written location content disk after) (directory : Location)
    (time : Int) : Written location content disk (after.stampDirectory directory time) where
  home := (home_stampDirectory ..).trans h.home
  vacant := h.vacant
  here := (held_stampDirectory ..).trans h.here
  elsewhere other hother := (held_stampDirectory ..).trans (h.elsewhere other hother)

end Written

/-- A path is refused for its bytes alone, or else followed. -/
theorem resolve_cases (path : Path) :
    (∃ fault, ∀ disk : Disk, disk.resolve path = .error fault) ∨
      ∀ disk : Disk, disk.resolve path =
        disk.follow (disk.startOf path) (Path.splitSlash path.bytes) := by
  by_cases hnull : path.bytes.contains 0 = true
  · exact .inl ⟨_, fun _ => by rw [resolve, if_pos hnull]⟩
  by_cases hempty : path.bytes.isEmpty = true
  · exact .inl ⟨_, fun _ => by rw [resolve, if_neg hnull, if_pos hempty]⟩
  by_cases hlong : pathLimit ≤ path.bytes.length
  · exact .inl ⟨_, fun _ => by rw [resolve, if_neg hnull, if_neg hempty, if_pos hlong]⟩
  exact .inr fun _ => by rw [resolve, if_neg hnull, if_neg hempty, if_neg hlong, startOf]

theorem Written.startOf_eq (h : Written location content disk after) (path : Path) :
    after.startOf path = disk.startOf path := by
  rw [startOf, startOf, h.home]

/-- A path that leads elsewhere reads what it read before. -/
theorem Written.bytesAt_resolve_of_ne (h : Written location content disk after) {path : Path}
    (hpath : disk.goal path ≠ location) :
    bytesAt (after.resolve path) = bytesAt (disk.resolve path) := by
  rcases resolve_cases path with ⟨fault, hfault⟩ | hfollow
  · rw [hfault, hfault]
  · rw [hfollow, hfollow, h.startOf_eq, h.bytesAt_follow_of_ne hpath]

theorem resolve_file {path : Path} {target : Target} (h : disk.resolve path = .ok target)
    (hfile : target.file? = some location) :
    disk.goal path = location ∧ disk.held location ≠ some none ∧
      ∀ {after : Disk}, Written location content disk after →
        bytesAt (after.resolve path) = some content := by
  rcases resolve_cases path with ⟨fault, hfault⟩ | hfollow
  · rw [hfault] at h
    cases h
  · rw [hfollow] at h
    obtain ⟨hgoal, hheld, hread⟩ := follow_file hfile h
    refine ⟨hgoal, hheld, fun hwritten => ?_⟩
    rw [hfollow, hwritten.startOf_eq, hread hwritten]

/-- A file is written where its path leads, be it there or not, and is read there. -/
theorem written_of_write {path : Path} (h : disk.write path content = (.ok (), after)) :
    Written (disk.goal path) content disk after ∧ bytesAt (after.resolve path) = some content := by
  have hwritten : ∃ target location, disk.resolve path = .ok target ∧
      target.file? = some location ∧
        (disk.held location ≠ some none → Written location content disk after) := by
    rw [write] at h
    split at h
    case h_1 | h_2 => cases h
    case h_3 location _ _ hresolve =>
      cases h
      exact ⟨_, location, hresolve, rfl, fun hheld => .of_setEntry hheld ..⟩
    case h_4 directory name slashed hresolve =>
      split at h
      case isTrue => cases h
      case isFalse hslashed =>
        cases h
        exact ⟨_, directory ++ [name], hresolve, if_neg hslashed,
          fun hheld => (Written.of_setEntry hheld ..).stampDirectory ..⟩
  obtain ⟨target, location, hresolve, hfile, hwritten⟩ := hwritten
  obtain ⟨rfl, hheld, hread⟩ := resolve_file hresolve hfile
  exact ⟨hwritten hheld, hread (hwritten hheld)⟩

theorem write_error {path : Path} {fault : IoFault}
    (h : disk.write path content = (.error fault, after)) : after = disk := by
  rw [write] at h
  split at h
  case h_1 | h_2 => exact (Prod.mk.inj h).2.symm
  case h_3 => cases h
  case h_4 =>
    split at h
    · exact (Prod.mk.inj h).2.symm
    · cases h

end Disk

/-! ### File systems that write all or nothing -/

/-- What the files of a world hold, and which paths lead to one file. -/
structure FileView (W : Type) where
  /-- The bytes of the file at a path, if there is one. -/
  content : W → Path → Option (List UInt8)
  /-- Whether two paths lead to one file. -/
  shared : W → Path → Path → Prop

namespace FileView

variable {W : Type} (view : FileView W)

/-- The text of the file at a path, if there is one and it holds text. -/
def text (world : W) (path : Path) : Option String :=
  (view.content world path).bind Utf8.decode

/-- A file system that reads what the files hold, and writes a file as a whole or not at all. It may
refuse to read and to write whenever it likes. -/
structure Served (fs : FileSystem W) : Prop where
  read : ∀ {world path text}, fs.read world path = .ok text → view.text world path = some text
  written : ∀ {world path text after}, fs.write path text world = (.ok (), after) →
    view.content after path = some (Utf8.encodeString text)
  frame : ∀ {world path text after}, fs.write path text world = (.ok (), after) →
    ∀ other, ¬ view.shared world path other → view.content after other = view.content world other
  refused : ∀ {world path text fault after}, fs.write path text world = (.error fault, after) →
    view.content after = view.content world

variable {view}

/-- What was written is the text of the file. -/
theorem Served.text_written {fs : FileSystem W} {world after : W} {path : Path} {text : String}
    (h : view.Served fs) (hwrite : fs.write path text world = (.ok (), after)) :
    view.text after path = some text := by
  rw [FileView.text, h.written hwrite, Option.bind_some, Utf8.decode_encodeString]

end FileView

/-- What the files of a disk hold. -/
def Disk.view : FileView Disk where
  content disk path := (disk.read path).toOption
  shared disk p q := disk.goal p = disk.goal q

theorem Disk.content_view (disk : Disk) (path : Path) :
    view.content disk path = bytesAt (disk.resolve path) :=
  disk.toOption_read path

theorem Disk.text_view (disk : Disk) (path : Path) :
    view.text disk path = (disk.readText path).toOption := by
  have hcontent : view.content disk path = (disk.read path).toOption := rfl
  rw [FileView.text, hcontent, readText]
  cases disk.read path with
  | error => rfl
  | ok bytes =>
    cases hdecode : Utf8.decode bytes <;> simp [Except.toOption, hdecode]

/-- A disk writes a file as a whole or not at all. -/
theorem Disk.served_fileSystem : Disk.view.Served Disk.fileSystem where
  read h := (text_view ..).trans (congrArg Except.toOption h)
  written h := (content_view ..).trans (written_of_write h).2
  frame h other hother := by
    rw [content_view, content_view,
      (written_of_write h).1.bytesAt_resolve_of_ne (Ne.symm hother)]
  refused h := by rw [write_error h]

/-- A file system for which two paths share a file if what is written at one of them is read at the
other. A path may also lead to a file without reading it, through a directory that is missing. -/
structure FileView.Linked {W : Type} (view : FileView W) (fs : FileSystem W) : Prop
    extends view.Served fs where
  shared_self : ∀ world path, view.shared world path path
  steady : ∀ {world path text after}, fs.write path text world = (.ok (), after) →
    view.shared after = view.shared world
  linked : ∀ {world path text after}, fs.write path text world = (.ok (), after) →
    ∀ other, view.shared world path other → (view.content world other).isSome = true →
      view.content after other = some (Utf8.encodeString text)

theorem Disk.Written.bytesAt_resolve {location : Location} {content : List UInt8}
    {disk after : Disk} (h : Written location content disk after) {path : Path}
    (hpath : disk.goal path = location)
    (hread : (bytesAt (disk.resolve path)).isSome = true) :
    bytesAt (after.resolve path) = some content := by
  cases hresolve : disk.resolve path with
  | error fault => rw [hresolve] at hread; cases hread
  | ok target =>
    rw [hresolve] at hread
    cases target with
    | vacant => cases hread
    | found place entry =>
      cases entry with
      | directory => cases hread
      | file bytes =>
        obtain ⟨hgoal, -, hwritten⟩ := resolve_file hresolve rfl
        exact hwritten (hgoal.symm.trans hpath ▸ h)

/-- Paths that lead to one place of a disk share a file. -/
theorem Disk.linked_fileSystem : Disk.view.Linked Disk.fileSystem where
  toServed := served_fileSystem
  shared_self _ _ := rfl
  steady {disk path text after} h := by
    have hgoal : after.goal = disk.goal := by
      funext other
      rw [goal, goal, (written_of_write h).1.startOf_eq]
    funext p q
    exact congrArg (fun goal => goal p = goal q) hgoal
  linked h other hother hread := by
    rw [content_view] at hread ⊢
    exact (written_of_write h).1.bytesAt_resolve hother.symm hread

/-- A file system that refuses everything. -/
def FileSystem.failing {W : Type} (fault : IoFault) : FileSystem W where
  read _ _ := .error fault
  write _ _ world := (.error fault, world)

theorem FileView.served_failing {W : Type} (view : FileView W) (fault : IoFault) :
    view.Served (.failing fault) where
  read h := nomatch h
  written h := nomatch h
  frame h := nomatch h
  refused h := by
    cases h
    rfl

end SchemaEngine
