import SchemaEngine.Host.Collaborators

/-!
# Minutes of what collaborators are asked

Which requests a piece of the engine makes, how often and in which order, is not seen from its
result. Any collaborators can be made to take minutes: they answer as before, and note every request
in their own world. What the engine does with them then tells its requests. Questions that are
answered by looking at the world leave no note.

## Main definitions

* `Request`: what collaborators are asked to do.
* `Minuted`: a world with the requests that were made in it.
* `Collaborators.minuted`: the same collaborators, taking minutes.

## Main results

* `Turn.run_minuted`: a turn of collaborators that take minutes is the turn it was.
-/

set_option autoImplicit false

namespace SchemaEngine

/-- What collaborators are asked to do. -/
inductive Request where
  /-- To give the configuration that owns a file. -/
  | projectConfig (file : FileRef)
  /-- To say whether there is any configuration file. -/
  | hasConfigFiles
  /-- To find the configuration file in a directory. -/
  | configFileIn (directory : FileRef)
  /-- To reload the configuration. -/
  | reload
  /-- To save a document. -/
  | save (document : DocumentId)
  /-- To give the directories of the libraries. -/
  | libraries
  /-- To collect the type definitions that are visible from a file. -/
  | registryInfo (file : Option FileRef)
  /-- To check a schema. -/
  | validate
  deriving Repr, DecidableEq

/-- A world, and the requests that were made in it, in order. -/
structure Minuted (H : Type) where
  host : H
  requests : List Request := []

variable {H α : Type}

namespace Site

/-- A site with minutes. -/
def minuted (requests : List Request) (site : Site H) : Site (Minuted H) :=
  ⟨site.generation, site.journal, ⟨site.host, requests⟩⟩

/-- A site without its minutes. -/
def plain (site : Site (Minuted H)) : Site H :=
  ⟨site.generation, site.journal, site.host.host⟩

variable (requests : List Request) (site : Site H)

@[simp]
theorem plain_minuted : (site.minuted requests).plain = site :=
  rfl

@[simp]
theorem requests_minuted : (site.minuted requests).host.requests = requests :=
  rfl

@[simp]
theorem note_minuted (entry : Entry) :
    (site.minuted requests).note entry = (site.note entry).minuted requests :=
  rfl

end Site

namespace Turn

variable {Q A R ω : Type}

/-- A turn that carries the minutes along. -/
def minuted (requests : List Request) : Turn (Site H) Q A R → Turn (Site (Minuted H)) Q A R
  | done site result => done (site.minuted requests) result
  | ask site question resume =>
    ask (site.minuted requests) question fun site told =>
      (resume site.plain told).minuted site.host.requests

/-- Where answering makes no request, a turn with minutes is the turn it was. -/
theorem run_minuted {answer : Q → Site H → ω → A × Site H × ω}
    {answerMinuted : Q → Site (Minuted H) → ω → A × Site (Minuted H) × ω}
    (requests : List Request)
    (h : ∀ question site rest, answerMinuted question (site.minuted requests) rest =
      ((answer question site rest).1, (answer question site rest).2.1.minuted requests,
        (answer question site rest).2.2))
    (turn : Turn (Site H) Q A R) : ∀ rest, (turn.minuted requests).run answerMinuted rest =
      ((turn.run answer rest).1, (turn.run answer rest).2.1.minuted requests,
        (turn.run answer rest).2.2) := by
  induction turn with
  | done site result => exact fun rest => rfl
  | ask site question resume ih =>
    intro rest
    simp only [minuted, run, h, Site.plain_minuted, Site.requests_minuted]
    exact ih _ _ _

end Turn

namespace Collaborators

/-- An answer, with a note of the request. -/
def minute (request : Request) (answer : Site H → α × Site H) (site : Site (Minuted H)) :
    α × Site (Minuted H) :=
  ((answer site.plain).1, (answer site.plain).2.minuted (site.host.requests ++ [request]))

/-- A turn, with a note of the request. -/
def minuteTurn {Q A R : Type} (request : Request) (turn : Site H → Turn (Site H) Q A R)
    (site : Site (Minuted H)) : Turn (Site (Minuted H)) Q A R :=
  (turn site.plain).minuted (site.host.requests ++ [request])

/-- The same collaborators, which note every request. -/
def minuted (c : Collaborators H) : Collaborators (Minuted H) where
  resolver :=
    { stamp := fun world => c.resolver.stamp world.host
      projectConfig := fun file => minute (.projectConfig file) (c.resolver.projectConfig file)
      hasConfigFiles := minute .hasConfigFiles c.resolver.hasConfigFiles
      directories := fun world => c.resolver.directories world.host
      configFileIn := fun directory =>
        minute (.configFileIn directory) (c.resolver.configFileIn directory)
      reload := minute .reload c.resolver.reload }
  files :=
    { isValid := fun world => c.files.isValid world.host
      isDirectory := fun world => c.files.isDirectory world.host
      isInProject := fun world => c.files.isInProject world.host
      stamp := fun world => c.files.stamp world.host }
  documents :=
    { fileOf := fun world => c.documents.fileOf world.host
      save := fun document => minuteTurn (.save document) (c.documents.save document) }
  libraries := minute .libraries c.libraries
  registryInfo file := minuteTurn (.registryInfo file) (c.registryInfo file)
  validate schema := minuteTurn .validate (c.validate schema)

theorem minute_minuted (request : Request) (answer : Site H → α × Site H)
    (requests : List Request) (site : Site H) :
    minute request answer (site.minuted requests) =
      ((answer site).1, (answer site).2.minuted (requests ++ [request])) :=
  rfl

/-- Minutes move no stamp. -/
@[simp]
theorem stamp_minuted (c : Collaborators H) (requests : List Request) (site : Site H) :
    c.minuted.stamp (site.minuted requests) = c.stamp site := by
  funext d
  cases d <;> rfl

end Collaborators

end SchemaEngine
