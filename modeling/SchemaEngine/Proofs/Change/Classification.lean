import SchemaEngine.Proofs.Change.Batches

/-!
# Batches by their single events

As long as those who are asked about a batch do not change their mind while it is taken in, whether
one of its events bears on the configuration can be told of each event alone. A batch bears on the
configuration if one of its events does, so neither their order nor repetitions matter, and of
several batches in one it is one of them that does. Events are only looked at until the first one
that does: only up to there are new directories searched.

## Main definitions

* `EventAnswers`: what is answered about a batch, `EventAnswers.At`: at one site,
  `EventAnswers.During`: all the while.
* `EventAnswers.Relevant`: an event bears on the configuration on its own.
* `EventAnswers.asked?`: the directory that is searched for an event.
* `EventAnswers.Looked`, `EventAnswers.Taken`: what becomes of the events of a batch, and of it.

## Main results

* `EventAnswers.At.isRelevant`: one event.
* `EventAnswers.Throughout.looked`: the events of a batch, in order.
* `EventAnswers.During.taken`: a batch.
* `EventAnswers.Taken.counts`: the reloads, steps and searches while it is taken in.
* `batch_classified_by_events`: all of it.
-/

set_option autoImplicit false

namespace SchemaEngine

variable {H : Type}

/-! ### What is answered -/

/-- What is answered about the events of a batch. -/
structure EventAnswers where
  /-- Whether a file belongs to the project. -/
  isInProject : FileRef → Bool
  isValid : FileRef → Bool
  isDirectory : FileRef → Bool
  /-- The directories that are known to hold configuration files. -/
  directories : List FileRef
  /-- Whether a configuration file is found in a directory. -/
  holdsConfig : FileRef → Bool

namespace EventAnswers

/-- The answers at a site. -/
structure At (a : EventAnswers) (c : Collaborators H) (site : Site H) : Prop where
  isInProject : ∀ file, c.files.isInProject site.host file = a.isInProject file
  isValid : ∀ file, c.files.isValid site.host file = a.isValid file
  isDirectory : ∀ file, c.files.isDirectory site.host file = a.isDirectory file
  directories : c.resolver.directories site.host = a.directories
  holdsConfig : ∀ directory,
    (c.resolver.configFileIn directory site).1.isSome = a.holdsConfig directory

/-- A directory is one of those that hold configuration files, by component path and kind, and that
one is still there. -/
def Knows (a : EventAnswers) (directory : FileRef) : Prop :=
  ∃ d ∈ a.directories, d.same directory = true ∧ a.isValid d = true ∧ a.isDirectory d = true

instance (a : EventAnswers) (directory : FileRef) : Decidable (a.Knows directory) :=
  inferInstanceAs (Decidable (∃ d ∈ a.directories, _))

/-- An event bears on the configuration on its own. -/
inductive Relevant (a : EventAnswers) (names : ConfigFileNames) : FileEvent → Prop
  /-- A directory that is known to hold a configuration file. -/
  | known (directory : FileRef) (change : FileChange) :
      a.isInProject directory = true → a.Knows directory →
        Relevant a names ⟨some directory, true, change⟩
  /-- A new directory that holds one. -/
  | found (directory : FileRef) :
      a.isInProject directory = true → a.holdsConfig directory = true →
        Relevant a names ⟨some directory, true, .create⟩
  /-- A file whose old name or new name is that of a configuration file. -/
  | renamed (file : FileRef) (oldName newName : Option String) (name : String) :
      a.isInProject file = true → oldName = some name ∨ newName = some name →
      names.contains name = true →
        Relevant a names ⟨some file, false, .property .name oldName newName⟩
  /-- A file with such a name, unless only a property of it changes. -/
  | named (file : FileRef) (change : FileChange) (name : String) :
      a.isInProject file = true → (∀ p oldValue newValue, change ≠ .property p oldValue newValue) →
      file.name = some name → names.contains name = true →
        Relevant a names ⟨some file, false, change⟩

/-- An event changes which files of the project exist or what they are called. -/
def Alters (a : EventAnswers) (event : FileEvent) : Prop :=
  event.isStructural = true ∧ ∃ file, event.file = some file ∧ a.isInProject file = true

/-- The directory that is searched for a configuration file when an event is looked at: a new one
of the project that is not known. -/
def asked? (a : EventAnswers) (event : FileEvent) : Option FileRef :=
  event.file.filter fun directory =>
    a.isInProject directory && event.isDirectory && event.change == .create &&
      !decide (a.Knows directory)

end EventAnswers

/-- The site after some directories have been searched. -/
def Collaborators.searched (c : Collaborators H) (directories : List FileRef) (site : Site H) :
    Site H :=
  directories.foldl (fun site directory => (c.resolver.configFileIn directory site).2) site

namespace EventAnswers

variable {c : Collaborators H} {a : EventAnswers} {names : ConfigFileNames} {site : Site H}
  {event : FileEvent} {events : List FileEvent} {s : WatcherState H}

/-- The answers are the same wherever an event of a batch is looked at. -/
def Throughout (a : EventAnswers) (c : Collaborators H) (names : ConfigFileNames) :
    List FileEvent → Site H → Prop
  | [], _ => True
  | event :: events, site =>
    a.At c site ∧
      (¬ a.Relevant names event →
        a.Throughout c names events (c.searched (a.asked? event).toList site))

/-- The answers do not change while a batch is taken in. -/
structure During (a : EventAnswers) (c : Collaborators H) (events : List FileEvent)
    (s : WatcherState H) : Prop where
  start : a.At c s.site
  looked : a.Throughout c s.watcher.options.names events (s.advanceStructure c events).site

/-! ### One event -/

/-- The directories that are known, and still there. -/
def known (a : EventAnswers) : List FileRef :=
  a.directories.filter fun d => a.isValid d && a.isDirectory d

theorem At.knownDirectories_eq (h : a.At c site) : knownDirectories c site = a.known := by
  simp only [knownDirectories, known, h.directories, h.isValid, h.isDirectory]

theorem any_known_iff {directory : FileRef} :
    (a.known.any fun d => d.same directory) = true ↔ a.Knows directory := by
  simp only [known, Knows, List.any_eq_true, List.mem_filter, Bool.and_eq_true]
  refine exists_congr fun d => ?_
  rw [and_assoc]
  exact and_congr_right fun _ => and_comm

/-- The event of a file of the project bears on the configuration by the names that it tells. -/
theorem concerns_iff {file : FileRef} {change : FileChange} (hproject : a.isInProject file = true) :
    change.concerns names file = true ↔ a.Relevant names ⟨some file, false, change⟩ := by
  constructor
  · intro hconcerns
    unfold FileChange.concerns at hconcerns
    split at hconcerns
    case h_1 oldName newName =>
      rw [Bool.or_eq_true, Option.any_eq_true, Option.any_eq_true] at hconcerns
      rcases hconcerns with ⟨name, hname, hcontains⟩ | ⟨name, hname, hcontains⟩
      · exact .renamed file _ _ name hproject (.inl hname) hcontains
      · exact .renamed file _ _ name hproject (.inr hname) hcontains
    case h_2 => cases hconcerns
    case h_3 hname hproperty =>
      unfold ConfigFileNames.recognizes at hconcerns
      split at hconcerns
      · rename_i name hfile
        exact .named file change name hproject hproperty hfile hconcerns
      · cases hconcerns
  · intro hrelevant
    cases hrelevant with
    | renamed _ oldName newName name _ hname hcontains =>
      rw [FileChange.concerns, Bool.or_eq_true, Option.any_eq_true, Option.any_eq_true]
      exact hname.imp (fun h => ⟨name, h, hcontains⟩) fun h => ⟨name, h, hcontains⟩
    | named _ _ name _ hproperty hfile hcontains =>
      cases change with
      | property p oldValue newValue => exact absurd rfl (hproperty p oldValue newValue)
      | _ => simp only [FileChange.concerns, ConfigFileNames.recognizes, hfile, hcontains]

/-- The event of a directory of the project bears on the configuration if the directory is known,
or if it is new and holds a configuration file; only in the latter case is it searched. -/
theorem At.concernsDirectory (h : a.At c site) {directory : FileRef} {change : FileChange}
    (hproject : a.isInProject directory = true) :
    ((change.concernsDirectory c a.known directory site).1 = true ↔
        a.Relevant names ⟨some directory, true, change⟩) ∧
      (change.concernsDirectory c a.known directory site).2 =
        c.searched (a.asked? ⟨some directory, true, change⟩).toList site := by
  unfold FileChange.concernsDirectory
  by_cases hknown : a.Knows directory
  · rw [if_pos (any_known_iff.mpr hknown)]
    refine ⟨iff_of_true rfl (.known directory change hproject hknown), ?_⟩
    simp [asked?, Option.filter, hknown, Collaborators.searched]
  rw [if_neg (mt any_known_iff.mp hknown)]
  by_cases hcreate : change = .create
  · subst hcreate
    rw [if_pos rfl]
    dsimp only
    refine ⟨?_, by simp [asked?, Option.filter, hproject, hknown, Collaborators.searched]⟩
    rw [h.holdsConfig]
    refine ⟨.found directory hproject, fun hrelevant => ?_⟩
    cases hrelevant with
    | known _ _ _ hknows => exact absurd hknows hknown
    | found _ _ hholds => exact hholds
  · rw [if_neg hcreate]
    refine ⟨iff_of_false Bool.false_ne_true fun hrelevant => ?_, ?_⟩
    · cases hrelevant with
      | known _ _ _ hknows => exact hknown hknows
      | found => exact hcreate rfl
    · simp [asked?, Option.filter, hcreate, Collaborators.searched]

/-- A relevant event is one of a file or a directory of the project. -/
theorem Relevant.exists_file (h : a.Relevant names event) :
    ∃ file, event.file = some file ∧ a.isInProject file = true := by
  cases h with
  | known directory change hproject => exact ⟨directory, rfl, hproject⟩
  | found directory hproject => exact ⟨directory, rfl, hproject⟩
  | renamed file oldName newName name hproject => exact ⟨file, rfl, hproject⟩
  | named file change name hproject => exact ⟨file, rfl, hproject⟩

/-- An event that is looked at bears on the configuration if it does on its own, and all that
happens is that a directory is searched. -/
theorem At.isRelevant (h : a.At c site) (names : ConfigFileNames) (event : FileEvent) :
    ((event.isRelevant c names a.known site).1 = true ↔ a.Relevant names event) ∧
      (event.isRelevant c names a.known site).2 = c.searched (a.asked? event).toList site := by
  obtain ⟨_ | file, isDirectory, change⟩ := event
  · refine ⟨iff_of_false Bool.false_ne_true fun hrelevant => ?_, rfl⟩
    obtain ⟨file, hfile, -⟩ := hrelevant.exists_file
    cases hfile
  unfold FileEvent.isRelevant
  dsimp only
  rw [h.isInProject]
  by_cases hproject : a.isInProject file = true
  · rw [if_pos hproject]
    cases isDirectory with
    | true => exact h.concernsDirectory hproject
    | false =>
      exact ⟨concerns_iff hproject, by simp [asked?, Option.filter, Collaborators.searched]⟩
  · rw [if_neg hproject]
    refine ⟨iff_of_false Bool.false_ne_true fun hrelevant => ?_, ?_⟩
    · obtain ⟨_, hfile, hin⟩ := hrelevant.exists_file
      cases hfile
      exact hproject hin
    · simp [asked?, Option.filter, hproject, Collaborators.searched]

/-! ### The events of a batch -/

/-- The events of a batch are searched for one after the other. -/
theorem searched_cons (c : Collaborators H) (a : EventAnswers) (event : FileEvent)
    (events : List FileEvent) (site : Site H) :
    c.searched ((event :: events).filterMap a.asked?) site =
      c.searched (events.filterMap a.asked?) (c.searched (a.asked? event).toList site) := by
  rw [List.filterMap_cons]
  cases a.asked? event <;> rfl

/-- What becomes of the events of a batch, of which a relevant one is noted. They are looked at in
order, up to the first relevant one. -/
inductive Looked (a : EventAnswers) (c : Collaborators H) (names : ConfigFileNames)
    (events : List FileEvent) (site : Site H) : Bool × Site H → Prop
  | found (earlier : List FileEvent) (event : FileEvent) (later : List FileEvent)
      (file : FileRef) :
      events = earlier ++ event :: later → (∀ e ∈ earlier, ¬ a.Relevant names e) →
      a.Relevant names event → event.file = some file →
        Looked a c names events site
          (true, (c.searched ((earlier ++ [event]).filterMap a.asked?) site).note
            (.relevantChange event.change file))
  | ignored : (∀ e ∈ events, ¬ a.Relevant names e) →
      Looked a c names events site (false, c.searched (events.filterMap a.asked?) site)

/-- An event that is not relevant is left behind. -/
theorem Looked.cons {result : Bool × Site H} (hevent : ¬ a.Relevant names event)
    (h : a.Looked c names events (c.searched (a.asked? event).toList site) result) :
    a.Looked c names (event :: events) site result := by
  cases h with
  | found earlier first later file hevents hearlier hfirst hfile =>
    rw [← searched_cons]
    exact .found (event :: earlier) first later file (congrArg _ hevents)
      (List.forall_mem_cons.mpr ⟨hevent, hearlier⟩) hfirst hfile
  | ignored hnone =>
    rw [← searched_cons]
    exact .ignored (List.forall_mem_cons.mpr ⟨hevent, hnone⟩)

/-- The events of a batch are looked at in order, up to the first relevant one. -/
theorem Throughout.looked (events : List FileEvent) : ∀ site : Site H,
    a.Throughout c names events site →
      a.Looked c names events site (anyRelevant c names a.known events site) := by
  -- The site moves from event to event, but only by the searches for those before.
  induction events with
  | nil => exact fun site _ => .ignored nofun
  | cons event events ih =>
    rintro site ⟨hat, hlater⟩
    obtain ⟨hrelevant, hsite⟩ := hat.isRelevant names event
    unfold anyRelevant
    split
    case h_1 site' hevent =>
      rw [hevent] at hrelevant hsite
      have hfirst : a.Relevant names event := hrelevant.mp rfl
      obtain ⟨file, hfile, -⟩ := hfirst.exists_file
      rw [hfile]
      dsimp only at hsite ⊢
      have hasked : site' = c.searched (([] ++ [event]).filterMap a.asked?) site := by
        rw [hsite]
        exact (searched_cons c a event [] site).symm
      rw [hasked]
      exact .found [] event events file rfl nofun hfirst hfile
    case h_2 site' hevent =>
      rw [hevent] at hrelevant hsite
      dsimp only at hsite
      have hnot : ¬ a.Relevant names event := fun h => nomatch hrelevant.mpr h
      subst hsite
      exact (ih _ (hlater hnot)).cons hnot

/-- A batch bears on the configuration if and only if one of its events does on its own. -/
theorem Looked.fst_iff {result : Bool × Site H} (h : a.Looked c names events site result) :
    result.1 = true ↔ ∃ event ∈ events, a.Relevant names event := by
  cases h with
  | found earlier event later file hevents hearlier hevent hfile =>
    exact iff_of_true rfl ⟨event, by simp [hevents], hevent⟩
  | ignored hnone =>
    exact iff_of_false Bool.false_ne_true fun ⟨event, hmem, hevent⟩ => hnone event hmem hevent

/-! ### Batches -/

/-- The file structure is moved on before the events are looked at, if one of them is structural. -/
inductive Advanced (a : EventAnswers) (events : List FileEvent) (site : Site H) : Site H → Prop
  | moved : (∃ event ∈ events, a.Alters event) →
      Advanced a events site
        (site.advance.note (.structureChanged (site.generation + 1)))
  | kept : (∀ event ∈ events, ¬ a.Alters event) → Advanced a events site site

/-- What becomes of a batch: the file structure is moved on if it has to be, then the events are
looked at, and one reload is requested if one of them is relevant. -/
inductive Taken (a : EventAnswers) (c : Collaborators H) (events : List FileEvent)
    (s : WatcherState H) : Bool × WatcherState H → Prop
  | reloaded (advanced looked : Site H) : a.Advanced events s.site advanced →
      a.Looked c s.watcher.options.names events advanced (true, looked) →
        Taken a c events s
          (true, { s with site := (c.resolver.reload (looked.note .configurationChanged)).2 })
  | ignored (advanced looked : Site H) : a.Advanced events s.site advanced →
      a.Looked c s.watcher.options.names events advanced (false, looked) →
        Taken a c events s (false, { s with site := looked })

theorem At.isStructural_iff (h : a.At c s.site) :
    s.isStructural c events = true ↔ ∃ event ∈ events, a.Alters event := by
  simp only [WatcherState.isStructural_iff, h.isInProject, Alters]

theorem At.advanced (h : a.At c s.site) (events : List FileEvent) :
    a.Advanced events s.site (s.advanceStructure c events).site := by
  unfold WatcherState.advanceStructure
  split
  case isTrue hstructural => exact .moved (h.isStructural_iff.mp hstructural)
  case isFalse hnot =>
    exact .kept fun event hevent halters => hnot (h.isStructural_iff.mpr ⟨event, hevent, halters⟩)

/-- The directories that are gone through are known from the beginning. -/
theorem At.knownDirectories_advanceStructure (h : a.At c s.site) (events : List FileEvent) :
    knownDirectories c (s.advanceStructure c events).site = a.known := by
  have hhost : (s.advanceStructure c events).site.host = s.site.host :=
    WatcherState.site_advanceStructure.1
  rw [← h.knownDirectories_eq, knownDirectories, knownDirectories, hhost]

/-- What becomes of a batch while the answers do not change. -/
theorem During.taken (h : a.During c events s) :
    a.Taken c events s (s.filesChanged c events) := by
  have hadvanced := h.start.advanced events
  have hlooked : a.Looked c s.watcher.options.names events (s.advanceStructure c events).site
      (s.looked c events) := by
    rw [WatcherState.looked, configurationsChanged, h.start.knownDirectories_advanceStructure]
    exact Throughout.looked events _ h.looked
  rw [WatcherState.filesChanged_eq]
  generalize s.looked c events = result at hlooked
  obtain ⟨_ | _, looked⟩ := result
  · exact .ignored _ looked hadvanced hlooked
  · exact .reloaded _ looked hadvanced hlooked

theorem Taken.fst_iff {result : Bool × WatcherState H} (h : a.Taken c events s result) :
    result.1 = true ↔ ∃ event ∈ events, a.Relevant s.watcher.options.names event := by
  cases h with
  | reloaded advanced looked hadvanced hlooked => exact hlooked.fst_iff
  | ignored advanced looked hadvanced hlooked => exact hlooked.fst_iff

/-! ### What is counted -/

/-- The events that are looked at: none but the last one is relevant, and that one is unless all
events are looked at. -/
structure Examined (a : EventAnswers) (names : ConfigFileNames) (events looked : List FileEvent) :
    Prop where
  before : looked <+: events
  earlier : ∀ event ∈ looked.dropLast, ¬ a.Relevant names event
  last : looked = events ∨ ∃ event, looked.getLast? = some event ∧ a.Relevant names event

theorem examined_append {earlier later : List FileEvent}
    (hearlier : ∀ e ∈ earlier, ¬ a.Relevant names e) (hevent : a.Relevant names event) :
    a.Examined names (earlier ++ event :: later) (earlier ++ [event]) where
  before := ⟨later, by simp⟩
  earlier := by simpa using hearlier
  last := .inr ⟨event, by simp, hevent⟩

theorem examined_all (hnone : ∀ e ∈ events, ¬ a.Relevant names e) :
    a.Examined names events events where
  before := List.prefix_rfl
  earlier := fun event hevent => hnone event (List.dropLast_subset events hevent)
  last := .inl rfl

end EventAnswers

/-- Whoever resolves configurations counts reloads and records searches, and leaves the file
structure alone. -/
structure Collaborators.Counts (c : Collaborators H) (reloads : H → Nat)
    (searches : H → List FileRef) : Prop where
  reload : ∀ site, reloads (c.resolver.reload site).2.host = reloads site.host + 1 ∧
    searches (c.resolver.reload site).2.host = searches site.host ∧
    (c.resolver.reload site).2.generation = site.generation
  search : ∀ directory site,
    reloads (c.resolver.configFileIn directory site).2.host = reloads site.host ∧
    searches (c.resolver.configFileIn directory site).2.host =
      searches site.host ++ [directory] ∧
    (c.resolver.configFileIn directory site).2.generation = site.generation

theorem Collaborators.Counts.searched {c : Collaborators H} {reloads : H → Nat}
    {searches : H → List FileRef} (hc : c.Counts reloads searches) (directories : List FileRef) :
    ∀ site : Site H, reloads (c.searched directories site).host = reloads site.host ∧
      searches (c.searched directories site).host = searches site.host ++ directories ∧
      (c.searched directories site).generation = site.generation := by
  induction directories with
  | nil => exact fun site => ⟨rfl, (List.append_nil _).symm, rfl⟩
  | cons directory directories ih =>
    intro site
    obtain ⟨hreloads, hsearches, hgeneration⟩ := hc.search directory site
    obtain ⟨hreloads', hsearches', hgeneration'⟩ :=
      ih (c.resolver.configFileIn directory site).2
    refine ⟨hreloads'.trans hreloads, ?_, hgeneration'.trans hgeneration⟩
    calc searches (c.searched (directory :: directories) site).host
        = searches (c.resolver.configFileIn directory site).2.host ++ directories := hsearches'
      _ = searches site.host ++ directory :: directories := by rw [hsearches]; simp

namespace EventAnswers

variable {c : Collaborators H} {a : EventAnswers} {names : ConfigFileNames} {site : Site H}
  {events : List FileEvent} {s : WatcherState H}

theorem Advanced.host {advanced : Site H} (h : a.Advanced events site advanced) :
    advanced.host = site.host := by
  cases h <;> rfl

/-- Looking at the events of a batch requests no reload, and searches directories up to the first
relevant event. -/
theorem Looked.counts {result : Bool × Site H} {reloads : H → Nat} {searches : H → List FileRef}
    (h : a.Looked c names events site result) (hc : c.Counts reloads searches) :
    reloads result.2.host = reloads site.host ∧ result.2.generation = site.generation ∧
      ∃ looked, a.Examined names events looked ∧
        searches result.2.host = searches site.host ++ looked.filterMap a.asked? := by
  cases h with
  | found earlier event later file hevents hearlier hevent hfile =>
    obtain ⟨hreloads, hsearches, hgeneration⟩ :=
      hc.searched ((earlier ++ [event]).filterMap a.asked?) site
    exact ⟨hreloads, hgeneration, earlier ++ [event], hevents ▸ examined_append hearlier hevent,
      hsearches⟩
  | ignored hnone =>
    obtain ⟨hreloads, hsearches, hgeneration⟩ := hc.searched (events.filterMap a.asked?) site
    exact ⟨hreloads, hgeneration, events, examined_all hnone, hsearches⟩

/-- What is counted while a batch is taken in: one reload if one of its events is relevant, one step
of the file structure if one of them changes it, and the searches up to the first relevant one. -/
theorem Taken.counts {result : Bool × WatcherState H} {reloads : H → Nat}
    {searches : H → List FileRef} (h : a.Taken c events s result)
    (hc : c.Counts reloads searches) :
    reloads result.2.site.host = reloads s.site.host + result.1.toNat ∧
      (∃ advanced, a.Advanced events s.site advanced ∧
        result.2.site.generation = advanced.generation) ∧
      ∃ looked, a.Examined s.watcher.options.names events looked ∧
        searches result.2.site.host = searches s.site.host ++ looked.filterMap a.asked? := by
  cases h with
  | reloaded advanced looked hadvanced hlooked =>
    obtain ⟨hreloads, hgeneration, hsearches⟩ := hlooked.counts hc
    obtain ⟨hreload, hkept, hstill⟩ := hc.reload (looked.note .configurationChanged)
    rw [hadvanced.host] at hreloads hsearches
    refine ⟨?_, ⟨advanced, hadvanced, hstill.trans hgeneration⟩, ?_⟩
    · rw [hreload]
      exact congrArg (· + 1) hreloads
    · rw [hkept]
      exact hsearches
  | ignored advanced looked hadvanced hlooked =>
    obtain ⟨hreloads, hgeneration, hsearches⟩ := hlooked.counts hc
    rw [hadvanced.host] at hreloads hsearches
    exact ⟨hreloads, ⟨advanced, hadvanced, hgeneration⟩, hsearches⟩

/-- The answers do not change while a batch is taken in if they are those of all sites of a kind
that notes, steps of the file structure and searches do not leave. -/
theorem During.of_closed (still : Site H → Prop) (hat : ∀ site, still site → a.At c site)
    (hnote : ∀ entry site, still site → still (site.note entry))
    (hadvance : ∀ site, still site → still site.advance)
    (hsearch : ∀ directory site, still site → still (c.resolver.configFileIn directory site).2)
    (hs : still s.site) : a.During c events s := by
  have hsearched : ∀ directories site, still site → still (c.searched directories site) := by
    intro directories
    induction directories with
    | nil => exact fun site h => h
    | cons directory directories ih => exact fun site h => ih _ (hsearch directory site h)
  have hthroughout : ∀ events site, still site →
      a.Throughout c s.watcher.options.names events site := by
    intro events
    induction events with
    | nil => exact fun _ _ => trivial
    | cons event events ih => exact fun site h => ⟨hat site h, fun _ => ih _ (hsearched _ site h)⟩
  refine ⟨hat _ hs, hthroughout _ _ ?_⟩
  unfold WatcherState.advanceStructure
  split
  · exact hnote _ _ (hadvance _ hs)
  · exact hs

/-- Batches of the same events are relevant together, in whatever order and however often they hold
them. -/
theorem During.fst_eq_of_mem {events' : List FileEvent} {s' : WatcherState H}
    (h : a.During c events s) (h' : a.During c events' s')
    (hnames : s'.watcher.options.names = s.watcher.options.names)
    (hmem : ∀ event, event ∈ events' ↔ event ∈ events) :
    (s'.filesChanged c events').1 = (s.filesChanged c events).1 := by
  rw [Bool.eq_iff_iff, h.taken.fst_iff, h'.taken.fst_iff, hnames]
  simp only [hmem]

theorem At.isStructural_eq_of_mem {events' : List FileEvent} {s' : WatcherState H}
    (h : a.At c s.site) (h' : a.At c s'.site) (hmem : ∀ event, event ∈ events' ↔ event ∈ events) :
    s'.isStructural c events' = s.isStructural c events := by
  rw [Bool.eq_iff_iff, h.isStructural_iff, h'.isStructural_iff]
  simp only [hmem]

end EventAnswers

open EventAnswers in
/-- A batch is the disjunction of its events. As long as the answers do not change while it is taken
in:

* it bears on the configuration if and only if one of its events does on its own, that is, as a
  batch of one event, and it changes the file structure if and only if one of its events does;
* the file structure is moved on first, then the events are looked at in order, and one reload is
  requested after the first one that is relevant;
* counted, that is one reload if there is one, one step of the file structure if there is one that
  changes it, and one search for every new directory of the project that is not known, up to the
  first relevant event;
* other batches of the same events, in whatever order and however often they hold them, bear on the
  configuration and change the file structure as this one does;
* and if a batch is two in one, it does if one of the two does. -/
theorem batch_classified_by_events {c : Collaborators H} {a : EventAnswers}
    {events : List FileEvent} {s : WatcherState H} (h : a.During c events s) :
    ((s.filesChanged c events).1 = true ↔
        ∃ event ∈ events, a.Relevant s.watcher.options.names event) ∧
      ((∀ event ∈ events, a.During c [event] s) →
        (s.filesChanged c events).1 = events.any fun event => (s.filesChanged c [event]).1) ∧
      (s.isStructural c events = true ↔ ∃ event ∈ events, a.Alters event) ∧
      a.Taken c events s (s.filesChanged c events) ∧
      (∀ reloads searches, c.Counts reloads searches →
        reloads (s.filesChanged c events).2.site.host =
            reloads s.site.host + (s.filesChanged c events).1.toNat ∧
          (s.filesChanged c events).2.site.generation =
            s.site.generation + (if s.isStructural c events then 1 else 0) ∧
          ∃ looked, a.Examined s.watcher.options.names events looked ∧
            searches (s.filesChanged c events).2.site.host =
              searches s.site.host ++ looked.filterMap a.asked?) ∧
      (∀ (events' : List FileEvent) (s' : WatcherState H),
        s'.watcher.options.names = s.watcher.options.names → a.During c events' s' →
        (∀ event, event ∈ events' ↔ event ∈ events) →
          (s'.filesChanged c events').1 = (s.filesChanged c events).1 ∧
            s'.isStructural c events' = s.isStructural c events) ∧
      (∀ (front back : List FileEvent) (first second : WatcherState H),
        first.watcher.options.names = s.watcher.options.names →
        second.watcher.options.names = s.watcher.options.names →
        a.During c front first → a.During c back second → events = front ++ back →
          (s.filesChanged c events).1 =
              ((first.filesChanged c front).1 || (second.filesChanged c back).1) ∧
            s.isStructural c events =
              (first.isStructural c front || second.isStructural c back)) := by
  have htaken := h.taken
  refine ⟨htaken.fst_iff, fun hsingle => ?single, h.start.isStructural_iff, htaken,
    fun reloads searches hc => ?counted,
    fun events' s' hnames h' hmem => ⟨h.fst_eq_of_mem h' hnames hmem,
      h.start.isStructural_eq_of_mem h'.start hmem⟩, ?joined⟩
  case single =>
    rw [Bool.eq_iff_iff, htaken.fst_iff, List.any_eq_true]
    refine exists_congr fun event => and_congr_right fun hevent => ?_
    simp only [(hsingle event hevent).taken.fst_iff, List.mem_singleton, exists_eq_left]
  case counted =>
    obtain ⟨hreloads, ⟨advanced, hadvanced, hgeneration⟩, hsearches⟩ := htaken.counts hc
    refine ⟨hreloads, hgeneration.trans ?_, hsearches⟩
    cases hadvanced with
    | moved halters => rw [if_pos (h.start.isStructural_iff.mpr halters)]; rfl
    | kept hnone =>
      rw [if_neg fun hstructural => ?_]
      · exact (UInt64.add_zero _).symm
      · obtain ⟨event, hevent, halters⟩ := h.start.isStructural_iff.mp hstructural
        exact hnone event hevent halters
  case joined =>
    rintro front back first second hfirst hsecond hfront hback rfl
    constructor
    · rw [Bool.eq_iff_iff, Bool.or_eq_true, htaken.fst_iff, hfront.taken.fst_iff,
        hback.taken.fst_iff, hfirst, hsecond]
      simp only [List.mem_append, or_and_right, exists_or]
    · rw [Bool.eq_iff_iff, Bool.or_eq_true, h.start.isStructural_iff, hfront.start.isStructural_iff,
        hback.start.isStructural_iff]
      simp only [List.mem_append, or_and_right, exists_or]

section Example

/-- What has been requested of a resolver. -/
structure Requests where
  reloads : Nat := 0
  searches : List FileRef := []
  deriving DecidableEq

/-- A directory that holds no configuration file. -/
def emptyDirectory : FileRef where
  path := ⟨[47, 97]⟩

/-- A directory that holds one. -/
def configDirectory : FileRef where
  path := ⟨[47, 98]⟩

/-- The answers where all files belong to the project, and no directory is known. -/
def openAnswers : EventAnswers where
  isInProject _ := true
  isValid _ := true
  isDirectory _ := true
  directories := []
  holdsConfig directory := directory.same configDirectory

/-- Collaborators that give these answers, and keep what is requested of them. -/
def recordingCollaborators : Collaborators Requests where
  resolver :=
    { stamp := fun _ => 0
      projectConfig := fun _ site => (none, site)
      hasConfigFiles := fun site => (true, site)
      directories := fun _ => openAnswers.directories
      configFileIn := fun directory site =>
        (if openAnswers.holdsConfig directory then some directory else none,
          { site with
            host := { site.host with searches := site.host.searches ++ [directory] } })
      reload := fun site =>
        (.finished, { site with host := { site.host with reloads := site.host.reloads + 1 } }) }
  files :=
    { isValid := fun _ => openAnswers.isValid
      isDirectory := fun _ => openAnswers.isDirectory
      isInProject := fun _ => openAnswers.isInProject
      stamp := fun _ _ => 0 }
  documents := { fileOf := fun _ _ => none, save := fun _ site => .done site (.ok false) }
  libraries := fun site => ([], site)
  registryInfo := fun _ site => .done site (.ok {})
  validate := fun _ site => .done site (.ok [])

/-- Their answers never change. -/
theorem during_recording (events : List FileEvent) (s : WatcherState Requests) :
    openAnswers.During recordingCollaborators events s := by
  refine .of_closed (fun _ => True) (fun site _ => ?_) (fun _ _ _ => trivial)
    (fun _ _ => trivial) (fun _ _ _ => trivial) trivial
  refine ⟨fun _ => rfl, fun _ => rfl, fun _ => rfl, rfl, fun directory => ?_⟩
  cases hholds : openAnswers.holdsConfig directory <;> simp [recordingCollaborators, hholds]

theorem counts_recording :
    recordingCollaborators.Counts Requests.reloads Requests.searches where
  reload _ := ⟨rfl, rfl, rfl⟩
  search _ _ := ⟨rfl, rfl, rfl⟩

/-- Three new directories, the second of which holds a configuration file. -/
def newDirectories : List FileEvent :=
  [emptyDirectory, configDirectory, emptyDirectory].map fun d => ⟨some d, true, .create⟩

/-- There is one reload, after the second directory was searched; and there is one if the batch
comes backward and twice. -/
theorem batch_classified_by_events_new_directories :
    ∃ s : WatcherState Requests, s.site.host = {} ∧
      (s.filesChanged recordingCollaborators newDirectories).1 = true ∧
      (s.filesChanged recordingCollaborators newDirectories).2.site.host =
        ⟨1, [emptyDirectory, configDirectory]⟩ ∧
      (s.filesChanged recordingCollaborators newDirectories).2.site.generation = 1 ∧
      (s.filesChanged recordingCollaborators
        (newDirectories.reverse ++ newDirectories)).1 = true := by
  let s : WatcherState Requests := ⟨{}, { host := {} }⟩
  obtain ⟨hrelevant, -, hstructural, -, hcounts, hmembers, -⟩ :=
    batch_classified_by_events (during_recording newDirectories s)
  have hmem : ⟨some configDirectory, true, .create⟩ ∈ newDirectories := by decide
  have hchanged := hrelevant.mpr ⟨_, hmem, .found configDirectory rfl (by decide)⟩
  have halters := hstructural.mpr ⟨_, hmem, rfl, configDirectory, rfl, rfl⟩
  obtain ⟨hreloads, hgeneration, -⟩ := hcounts _ _ counts_recording
  refine ⟨s, rfl, hchanged, by decide, ?_, ?_⟩
  · rw [hgeneration, if_pos halters]
    rfl
  · rw [← hchanged]
    exact (hmembers _ s rfl (during_recording _ s) fun event => by simp).1

end Example

end SchemaEngine
