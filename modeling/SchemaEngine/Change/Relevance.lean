import SchemaEngine.Host.Collaborators

/-!
# Which events bear on the configuration

An event of a file bears on the project configuration if the file belongs to the project and its
name, or for a new name the old or the new one, is that of a configuration file. An event of a
directory does if the directory is known to hold a configuration file, or if it is new and holds
one. Events are looked at in order, and only until one of them is found to bear on it.

## Main definitions

* `FileEvent.isRelevant`: whether a single event bears on the configuration.
* `configurationsChanged`: whether one of several events does.
-/

set_option autoImplicit false

namespace SchemaEngine

variable {H : Type}

/-- Whether the event of a file that belongs to the project bears on the configuration. -/
def FileChange.concerns (names : ConfigFileNames) (file : FileRef) : FileChange → Bool
  | .property .name oldValue newValue =>
    oldValue.any names.contains || newValue.any names.contains
  | .property _ _ _ => false
  | _ => names.recognizes file

/-- Whether the event of a directory of the project bears on the configuration. -/
def FileChange.concernsDirectory (c : Collaborators H) (known : List FileRef) (directory : FileRef)
    (change : FileChange) (site : Site H) : Bool × Site H :=
  if known.any fun d => d.same directory then (true, site)
  else if change = .create then
    let (found, site) := c.resolver.configFileIn directory site
    (found.isSome, site)
  else (false, site)

/-- Whether an event bears on the configuration; `known` are the directories that are known to hold
configuration files. -/
def FileEvent.isRelevant (c : Collaborators H) (names : ConfigFileNames) (known : List FileRef)
    (event : FileEvent) (site : Site H) : Bool × Site H :=
  match event.file with
  | none => (false, site)
  | some file =>
    if c.files.isInProject site.host file then
      if event.isDirectory then event.change.concernsDirectory c known file site
      else (event.change.concerns names file, site)
    else (false, site)

/-- Whether one of several events bears on the configuration. The first one that does is noted, and
those after it are not looked at. -/
def anyRelevant (c : Collaborators H) (names : ConfigFileNames) (known : List FileRef) :
    List FileEvent → Site H → Bool × Site H
  | [], site => (false, site)
  | event :: events, site =>
    match event.isRelevant c names known site with
    | (true, site) =>
      match event.file with
      | some file => (true, site.note (.relevantChange event.change file))
      | none => (true, site)
    | (false, site) => anyRelevant c names known events site

/-- Where no event is seen differently, neither are several. -/
theorem anyRelevant_congr {c c' : Collaborators H} {names : ConfigFileNames} {known : List FileRef}
    (h : ∀ (event : FileEvent) site,
      event.isRelevant c names known site = event.isRelevant c' names known site)
    (events : List FileEvent) :
    ∀ site, anyRelevant c names known events site = anyRelevant c' names known events site := by
  induction events with
  | nil => exact fun _ => rfl
  | cons event events ih =>
    intro site
    simp only [anyRelevant, h, ih]

/-- The directories that are known to hold configuration files, and are still there. -/
def knownDirectories (c : Collaborators H) (site : Site H) : List FileRef :=
  (c.resolver.directories site.host).filter fun d =>
    c.files.isValid site.host d && c.files.isDirectory site.host d

/-- Whether one of several events bears on the configuration. -/
def configurationsChanged (c : Collaborators H) (names : ConfigFileNames)
    (events : List FileEvent) (site : Site H) : Bool × Site H :=
  anyRelevant c names (knownDirectories c site) events site

end SchemaEngine
