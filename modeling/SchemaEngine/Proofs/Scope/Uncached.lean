import SchemaEngine.Proofs.Memo.Moments
import SchemaEngine.Proofs.Scope.Sameness

/-!
# Scopes without a cache

Where the collaborators answer by the present stamps, the scope of a file is a function of these
stamps: what it would be if nothing were kept.

## Main definitions

* `Epoch`: the stamps that every scope depends on.
* `ScopeAnswers`: the answers that scopes are made of, as functions of stamps.
* `ScopeAnswers.Of`: the collaborators give these answers.
* `ScopeAnswers.projectScope`, `ScopeAnswers.fileScope`: the scopes that they make.

## Main results

* `ScopeAnswers.fileScope_same`: the scope of a file does not depend on how the file is spelled.
-/

set_option autoImplicit false

namespace SchemaEngine

/-- The stamps that every scope depends on. -/
structure Epoch where
  configuration : Stamp
  fileStructure : Stamp
  deriving Repr, DecidableEq

/-- The single sources that the scope of the whole project depends on. -/
def projectSources : List Dependency :=
  [.configuration, .fileStructure]

/-- The single sources that the scope of a file depends on. -/
def fileSources (file : FileRef) : List Dependency :=
  [.file file, .configuration, .fileStructure]

/-- The scope of a file depends on all that the scope of the project depends on. -/
theorem Agree.project {M : Type} {read : M → Dependency → Stamp} {x y : M} {file : FileRef}
    (h : Agree read (fileSources file) x y) : Agree read projectSources x y :=
  h.of_subset fun _ hd => .tail _ hd

namespace Collaborators

variable {H : Type}

/-- An entry of the journal moves no stamp. -/
theorem stamp_note (c : Collaborators H) (site : Site H) (entry : Entry) :
    c.stamp (site.note entry) = c.stamp site := by
  funext d
  cases d <;> rfl

/-- The present epoch. -/
def epoch (c : Collaborators H) (site : Site H) : Epoch :=
  ⟨c.stamp site .configuration, c.stamp site .fileStructure⟩

theorem epoch_eq {c : Collaborators H} {x y : Site H} (h : Agree c.stamp projectSources x y) :
    c.epoch x = c.epoch y := by
  rw [epoch, epoch, h _ (.head _), h _ (.tail _ (.head _))]

end Collaborators

/-- The answers that scopes are made of, as functions of stamps. Two spellings of a file get the
same scopes. -/
structure ScopeAnswers where
  config : FileRef → Stamp → Epoch → Option ProjectConfig
  hasConfigFiles : Epoch → Bool
  libraries : Epoch → List (List Path)
  config_same : ∀ {f g : FileRef}, f.same g = true → ∀ stamp epoch flavor,
    Option.Rel (Scope.same · · = true) ((config f stamp epoch).bind (·.scopeOf flavor))
      ((config g stamp epoch).bind (·.scopeOf flavor))

namespace ScopeAnswers

variable {H : Type}

/-- The collaborators give these answers. Nothing is said of a question in which the stamps move
that the answer depends on. -/
structure Of (c : Collaborators H) (a : ScopeAnswers) : Prop where
  config : ∀ file site,
    Agree c.stamp (fileSources file) (c.resolver.projectConfig file site).2 site →
      (c.resolver.projectConfig file site).1 =
        a.config file (c.stamp site (.file file)) (c.epoch site)
  hasConfigFiles : ∀ site, Agree c.stamp projectSources (c.resolver.hasConfigFiles site).2 site →
    (c.resolver.hasConfigFiles site).1 = a.hasConfigFiles (c.epoch site)
  libraries : ∀ site, Agree c.stamp projectSources (c.libraries site).2 site →
    (c.libraries site).1 = a.libraries (c.epoch site)
  fileStamp : ∀ {f g : FileRef}, f.same g = true → ∀ site,
    c.stamp site (.file f) = c.stamp site (.file g)

variable (a : ScopeAnswers) (cache : ScopeCache)

/-- The scope of the whole project. -/
def projectScope (epoch : Epoch) : Scope :=
  cache.complete (.ofRoots [cache.root]) (a.libraries epoch)

/-- The scope of a file: that of its project configuration, or the file alone, or, where there is no
configuration file at all, the whole project. -/
def fileScope (file : FileRef) (flavor : Flavor) (stamp : Stamp) (epoch : Epoch) : Scope :=
  match (a.config file stamp epoch).bind (·.scopeOf flavor) with
  | some base => cache.complete base (a.libraries epoch)
  | none =>
    if a.hasConfigFiles epoch then cache.complete (.ofFile file.path) (a.libraries epoch)
    else a.projectScope cache epoch

/-- The scope that is visible from a file, if there is one, at a site. -/
def scopeFor (c : Collaborators H) (file : Option FileRef) (flavor : Flavor) (site : Site H) :
    Scope :=
  match file with
  | none => .empty
  | some file => a.fileScope cache file flavor (c.stamp site (.file file)) (c.epoch site)

/-- The scope of a file does not depend on how the file is spelled. -/
theorem fileScope_same {f g : FileRef} (h : f.same g = true) (flavor : Flavor) (stamp : Stamp)
    (epoch : Epoch) :
    (a.fileScope cache f flavor stamp epoch).same (a.fileScope cache g flavor stamp epoch) =
      true := by
  have hconfig := a.config_same h stamp epoch flavor
  unfold fileScope
  cases hf : (a.config f stamp epoch).bind (·.scopeOf flavor) with
  | some base =>
    cases hg : (a.config g stamp epoch).bind (·.scopeOf flavor) with
    | none => rw [hf, hg] at hconfig; cases hconfig
    | some base' =>
      rw [hf, hg] at hconfig
      cases hconfig with
      | some hbase => exact cache.complete_congr hbase _
  | none =>
    cases hg : (a.config g stamp epoch).bind (·.scopeOf flavor) with
    | some base => rw [hf, hg] at hconfig; cases hconfig
    | none =>
      cases a.hasConfigFiles epoch with
      | true =>
        exact cache.complete_congr (Scope.ofFile_congr (FileRef.same_iff.mp h).1) _
      | false => exact Scope.same_refl _

/-- Every spelling of a file has the same stamps. -/
theorem Of.agree_same {c : Collaborators H} {a : ScopeAnswers} (ha : a.Of c) {f g : FileRef}
    (h : f.same g = true) {x y : Site H} (hxy : Agree c.stamp (fileSources f) x y) :
    Agree c.stamp (fileSources g) x y := by
  intro d hd
  rcases List.mem_cons.mp hd with rfl | hd
  · rw [← ha.fileStamp h x, ← ha.fileStamp h y]
    exact hxy _ (.head _)
  · exact hxy d (.tail _ hd)

/-- At sites with the same stamps a file has the same scope, under any spelling. -/
theorem scopeFor_same {c : Collaborators H} (hc : a.Of c) {f g : FileRef} (h : f.same g = true)
    (flavor : Flavor) {x y : Site H} (hxy : Agree c.stamp (fileSources g) x y) :
    (a.scopeFor cache c (some f) flavor x).same (a.scopeFor cache c (some g) flavor y) = true := by
  have hstamp : c.stamp x (.file f) = c.stamp y (.file g) :=
    (hc.fileStamp h x).trans (hxy _ (.head _))
  have hepoch := Collaborators.epoch_eq hxy.project
  rw [scopeFor, scopeFor, hstamp, hepoch]
  exact a.fileScope_same cache h flavor _ _

end ScopeAnswers

end SchemaEngine
