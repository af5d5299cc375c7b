import SchemaEngine.Change.Watcher
import SchemaEngine.Proofs.Schema.Maps
import SchemaEngine.Proofs.Scope.Uncached

/-!
# Batches of file events

A batch bears on what is kept if it changes which files the project has, or if one of its events
bears on the configuration where it is looked at. Such a batch moves a stamp; any other leaves all
stamps alone, and asks for no reload.

The two signals are found apart: a batch advances the file structure first, and its events are
classified after that, in order, until one of them bears on the configuration.

## Main definitions

* `siteAfter`: where the events after some others are looked at.
* `WatcherState.Bears`: a batch bears on what is kept.
* `Collaborators.LooksStill`: looking for configuration files moves no stamp.

## Main results

* `anyRelevant_iff`: an event bears on the configuration where it is looked at.
* `WatcherState.advance_of_bears`: a batch that bears on what is kept moves a stamp.
* `WatcherState.filesChanged_of_not_bears`: any other batch leaves stamps alone.
-/

set_option autoImplicit false

namespace SchemaEngine

variable {H : Type} {c : Collaborators H} {names : ConfigFileNames} {known : List FileRef}

/-- The site at which the events that follow some others are looked at. -/
def siteAfter (c : Collaborators H) (names : ConfigFileNames) (known : List FileRef)
    (events : List FileEvent) (site : Site H) : Site H :=
  events.foldl (fun site event => (event.isRelevant c names known site).2) site

/-- One of several events bears on the configuration, at the site at which it is looked at when
those before it have been. -/
def HoldsRelevant (c : Collaborators H) (names : ConfigFileNames) (known : List FileRef)
    (events : List FileEvent) (site : Site H) : Prop :=
  ∃ earlier event later, events = earlier ++ event :: later ∧
    (event.isRelevant c names known (siteAfter c names known earlier site)).1 = true

theorem holdsRelevant_cons (event : FileEvent) (events : List FileEvent) (site : Site H) :
    HoldsRelevant c names known (event :: events) site ↔
      (event.isRelevant c names known site).1 = true ∨
        HoldsRelevant c names known events (event.isRelevant c names known site).2 := by
  constructor
  · rintro ⟨earlier, relevant, later, hevents, hrelevant⟩
    cases earlier with
    | nil =>
      cases hevents
      exact .inl hrelevant
    | cons first earlier =>
      cases hevents
      exact .inr ⟨earlier, relevant, later, rfl, hrelevant⟩
  · rintro (hrelevant | ⟨earlier, relevant, later, rfl, hrelevant⟩)
    · exact ⟨[], event, events, rfl, hrelevant⟩
    · exact ⟨event :: earlier, relevant, later, rfl, hrelevant⟩

theorem not_holdsRelevant_nil (site : Site H) : ¬ HoldsRelevant c names known [] site := by
  rintro ⟨earlier, event, later, hevents, -⟩
  cases earlier <;> cases hevents

/-- Events are looked at in order, and some bear on the configuration if one is found that does. -/
theorem anyRelevant_iff (events : List FileEvent) :
    ∀ site : Site H, (anyRelevant c names known events site).1 = true ↔
      HoldsRelevant c names known events site := by
  induction events with
  | nil => exact fun site => ⟨nofun, fun h => absurd h (not_holdsRelevant_nil site)⟩
  | cons event events ih =>
    intro site
    rw [holdsRelevant_cons]
    rcases hevent : event.isRelevant c names known site with ⟨relevant, site'⟩
    cases relevant with
    | true =>
      simp only [anyRelevant, hevent, true_or, iff_true]
      split <;> rfl
    | false => simpa only [anyRelevant, hevent, Bool.false_eq_true, false_or] using ih site'

/-- Looking for the configuration file of a directory moves no stamp. -/
def Collaborators.LooksStill (c : Collaborators H) : Prop :=
  ∀ directory site, c.stamp (c.resolver.configFileIn directory site).2 = c.stamp site

theorem stamp_concernsDirectory (hc : c.LooksStill) (change : FileChange) (directory : FileRef)
    (site : Site H) :
    c.stamp (change.concernsDirectory c known directory site).2 = c.stamp site := by
  unfold FileChange.concernsDirectory
  split
  · rfl
  split
  · exact hc directory site
  · rfl

/-- Looking at an event moves no stamp. -/
theorem stamp_isRelevant (hc : c.LooksStill) (event : FileEvent) (site : Site H) :
    c.stamp (event.isRelevant c names known site).2 = c.stamp site := by
  unfold FileEvent.isRelevant
  split
  · rfl
  split
  · split
    · exact stamp_concernsDirectory hc _ _ site
    · rfl
  · rfl

theorem stamp_anyRelevant (hc : c.LooksStill) (events : List FileEvent) :
    ∀ site : Site H, c.stamp (anyRelevant c names known events site).2 = c.stamp site := by
  induction events with
  | nil => exact fun _ => rfl
  | cons event events ih =>
    intro site
    have hlooked : c.stamp (event.isRelevant c names known site).2 = c.stamp site :=
      stamp_isRelevant hc event site
    simp only [anyRelevant]
    split
    · rename_i site' hevent
      rw [hevent] at hlooked
      split
      · exact (c.stamp_note _ _).trans hlooked
      · exact hlooked
    · rename_i site' hevent
      rw [hevent] at hlooked
      exact (ih site').trans hlooked

namespace WatcherState

variable {s : WatcherState H} {events : List FileEvent}

/-- A batch bears on what is kept: one of its events changes which files the project has, or one of
them bears on the configuration, after the file structure has advanced if it has to. -/
def Bears (c : Collaborators H) (events : List FileEvent) (s : WatcherState H) : Prop :=
  (∃ event ∈ events, event.isStructural = true ∧
      ∃ file, event.file = some file ∧ c.files.isInProject s.site.host file = true) ∨
    HoldsRelevant c s.watcher.options.names (knownDirectories c (s.advanceStructure c events).site)
      events (s.advanceStructure c events).site

theorem isStructural_iff :
    s.isStructural c events = true ↔ ∃ event ∈ events, event.isStructural = true ∧
      ∃ file, event.file = some file ∧ c.files.isInProject s.site.host file = true := by
  simp [isStructural, Option.any_eq_true]

theorem watcher_advanceStructure : (s.advanceStructure c events).watcher = s.watcher := by
  unfold advanceStructure
  split <;> rfl

/-- Advancing the file structure leaves the host alone, and its generation too unless a batch is
structural. -/
theorem site_advanceStructure :
    (s.advanceStructure c events).site.host = s.site.host ∧
      (s.advanceStructure c events).site.generation =
        if s.isStructural c events then s.site.generation + 1 else s.site.generation := by
  unfold advanceStructure
  split <;> exact ⟨rfl, rfl⟩

/-- The answer to the question whether a batch bears on the configuration, and the site after it. -/
def looked (c : Collaborators H) (events : List FileEvent) (s : WatcherState H) : Bool × Site H :=
  configurationsChanged c s.watcher.options.names events (s.advanceStructure c events).site

/-- Whether a batch bears on what is kept is found out while it is taken in. -/
theorem bears_iff :
    s.Bears c events ↔ s.isStructural c events = true ∨ (s.looked c events).1 = true :=
  or_congr isStructural_iff.symm (anyRelevant_iff events _).symm

instance (s : WatcherState H) (events : List FileEvent) : Decidable (s.Bears c events) :=
  decidable_of_iff _ bears_iff.symm

theorem filesChanged_eq :
    s.filesChanged c events =
      if (s.looked c events).1 then
        (true, { s with
          site := (c.resolver.reload ((s.looked c events).2.note .configurationChanged)).2 })
      else (false, { s with site := (s.looked c events).2 }) := by
  unfold filesChanged looked
  have hwatcher : (s.advanceStructure c events).watcher = s.watcher := watcher_advanceStructure
  rw [← hwatcher]

end WatcherState

/-- Whoever resolves configurations moves their stamp when a reload is requested, and no stamp while
directories are searched for configuration files. -/
structure Collaborators.MovesOnReload (c : Collaborators H) : Prop where
  looks : c.LooksStill
  reload : ∀ site, c.stamp (c.resolver.reload site).2 .configuration ≠ c.stamp site .configuration

namespace WatcherState

variable {s : WatcherState H} {events : List FileEvent}

theorem stamp_looked (hc : c.LooksStill) :
    c.stamp (s.looked c events).2 = c.stamp (s.advanceStructure c events).site :=
  stamp_anyRelevant hc events _

/-- A batch that bears on what is kept moves a stamp of the project. -/
theorem advance_of_bears (hc : c.MovesOnReload) (h : s.Bears c events) :
    0 < c.advance s.site (s.filesChanged c events).2.site := by
  refine Nat.pos_of_ne_zero fun hzero => ?_
  obtain ⟨hconfiguration, hstructure⟩ := c.stamp_eq_of_advance_eq_zero hzero
  obtain ⟨hhost, hgeneration⟩ : (s.advanceStructure c events).site.host = s.site.host ∧ _ :=
    site_advanceStructure
  have hlooked : c.stamp (s.looked c events).2 = c.stamp (s.advanceStructure c events).site :=
    stamp_looked hc.looks
  rw [filesChanged_eq] at hconfiguration hstructure
  cases hrelevant : (s.looked c events).1 with
  | true =>
    -- The reload moves the stamp of the configuration, and nothing else in the batch does.
    simp only [hrelevant, ↓reduceIte] at hconfiguration
    refine hc.reload _ (hconfiguration.trans ?_)
    calc c.stamp s.site .configuration
        = c.stamp (s.advanceStructure c events).site .configuration :=
          (congrArg c.resolver.stamp hhost).symm
      _ = c.stamp (s.looked c events).2 .configuration := (congrFun hlooked .configuration).symm
      _ = c.stamp ((s.looked c events).2.note .configurationChanged) .configuration :=
          (congrFun (c.stamp_note _ _) .configuration).symm
  | false =>
    have hstructural : s.isStructural c events = true :=
      (bears_iff.mp h).resolve_right (Bool.eq_false_iff.mp hrelevant)
    simp only [hrelevant, Bool.false_eq_true, ↓reduceIte] at hstructure
    have hmoved := congrFun hlooked .fileStructure
    rw [hstructure] at hmoved
    simp only [Collaborators.stamp, hgeneration, hstructural, ↓reduceIte] at hmoved
    have hone : (1 : Stamp) = 0 := UInt64.left_eq_add.mp hmoved
    exact absurd hone (by decide)

/-- Any other batch leaves everything but the host and the journal as it was, and moves no stamp. -/
theorem filesChanged_of_not_bears (hc : c.LooksStill) (h : ¬ s.Bears c events) :
    ∃ site, s.filesChanged c events = (false, { s with site := site }) ∧
      c.stamp site = c.stamp s.site := by
  rw [bears_iff, not_or, Bool.not_eq_true, Bool.not_eq_true] at h
  obtain ⟨hstructural, hrelevant⟩ := h
  have hadvance : s.advanceStructure c events = s := by
    simp only [advanceStructure, hstructural, Bool.false_eq_true, ↓reduceIte]
  refine ⟨(s.looked c events).2, ?_, ?_⟩
  · rw [filesChanged_eq, hrelevant]
    rfl
  · rw [stamp_looked hc, hadvance]

end WatcherState

/-- The same collaborators, except for what a reload does. -/
def Collaborators.withReload (reload : Site H → Outcome × Site H) (c : Collaborators H) :
    Collaborators H :=
  { c with resolver := { c.resolver with reload := reload } }

/-- A batch that does not bear on what is kept requests no reload: it does not matter what a reload
would do. -/
theorem WatcherState.filesChanged_withReload {s : WatcherState H} {events : List FileEvent}
    (h : ¬ s.Bears c events) (reload : Site H → Outcome × Site H) :
    s.filesChanged (c.withReload reload) events = s.filesChanged c events := by
  have hevent : ∀ names known (event : FileEvent) site,
      event.isRelevant (c.withReload reload) names known site =
        event.isRelevant c names known site :=
    fun _ _ _ _ => rfl
  have hlooked : s.looked (c.withReload reload) events = s.looked c events :=
    anyRelevant_congr (hevent _ _) events _
  have hrelevant : (s.looked c events).1 = false :=
    Bool.eq_false_iff.mpr fun hrelevant => h (bears_iff.mpr (.inr hrelevant))
  rw [filesChanged_eq, filesChanged_eq, hlooked, hrelevant]
  rfl

end SchemaEngine
