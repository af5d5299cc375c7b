import SchemaEngine.Proofs.Scope.Uncached

/-!
# The cache of scopes is transparent

Whatever moved while earlier scopes were computed, and whichever cells were dropped: a scope that is
asked for while no stamp moves is the one that the present stamps give without a cache. The cells of
files copy the scope of the whole project from a cell of its own, with other dependencies; each cell
is therefore related to the whole computation that filled it, question by question.

## Main definitions

* `ScopeState.scopeVisits`, `ScopeState.projectVisits`: the moments that a call lives through.
* `ScopeCache.Sound`: the invariant of the cells.
* `ScopeState.Journey`: the runs of a cache.

## Main results

* `ScopeState.globalScope_spec`, `ScopeState.scopeFor_spec`: what one call gives and keeps.
* `ScopeState.Journey.sound`: the invariant holds after every run.
* `scopes_transparent`: every call during which no stamp moves gives the uncached scope.
-/

set_option autoImplicit false

namespace SchemaEngine

/-! ### The moments of a call -/

namespace ScopeState

variable {H : Type} (c : Collaborators H)

/-- The moment after the question for libraries. -/
def createVisits (s : ScopeState H) : List (Site H) :=
  [(c.libraries s.site).2]

/-- The moments after the questions that a call for the scope of the project asks. -/
def projectVisits (s : ScopeState H) : List (Site H) :=
  match s.cache.global.peek (c.stamp s.site) with
  | some _ => []
  | none => createVisits c s

/-- The moments after the questions that the scope of a file is computed from, the latest one
first. -/
def computeVisits (file : FileRef) (flavor : Flavor) (s : ScopeState H) : List (Site H) :=
  let (config, site) := c.resolver.projectConfig file s.site
  match config.bind fun config => config.scopeOf flavor with
  | some _ =>
    createVisits c { s with site := site.note (.configuredScope file flavor) } ++ [site]
  | none =>
    let (hasConfigFiles, asked) := c.resolver.hasConfigFiles site
    if hasConfigFiles then
      createVisits c { s with site := asked.note (.loneFileScope file flavor) } ++ [asked, site]
    else projectVisits c { s with site := asked } ++ [asked, site]

/-- The moments after the questions that a call for the scope of a file asks, the latest one
first. -/
def scopeVisits (file : Option FileRef) (flavor : Flavor) (s : ScopeState H) : List (Site H) :=
  match file with
  | none => []
  | some file =>
    let s := { s with cache := s.cache.ensure file flavor }
    match ((filePlace c file flavor).cell s).peek (c.stamp s.site) with
    | some _ => []
    | none => computeVisits c file flavor s

end ScopeState

/-! ### The invariant -/

/-- The cells hold scopes that are right for the moments at which their stamps were recorded, as far
as these stamps may be current again; `blank` has the options of the cache and no scopes. -/
structure ScopeCache.Sound {H : Type} (c : Collaborators H) (a : ScopeAnswers)
    (cache blank : ScopeCache) (moments : List (Site H)) : Prop where
  root : cache.root = blank.root
  options : cache.options = blank.options
  project : cache.global.Kept c.stamp projectSources
    (fun site scope => scope.same (a.projectScope blank (c.epoch site)) = true) moments
  perFile : ∀ entry ∈ cache.perFile, ∃ file, file.same entry.file = true ∧
    entry.cell.Kept c.stamp (fileSources file)
      (fun site scope => scope.same (a.scopeFor blank c (some file) entry.flavor site) = true)
      moments

namespace ScopeCache

variable {H : Type} {c : Collaborators H} {a : ScopeAnswers} {blank cache : ScopeCache}
  {moments : List (Site H)} {file : FileRef} {flavor : Flavor}

theorem Sound.of_sublist (h : cache.Sound c a blank moments) {more : List (Site H)}
    (hmore : moments.Sublist more) : cache.Sound c a blank more where
  root := h.root
  options := h.options
  project := h.project.of_sublist hmore
  perFile entry hentry := by
    obtain ⟨file, hfile, hkept⟩ := h.perFile entry hentry
    exact ⟨file, hfile, hkept.of_sublist hmore⟩

/-- A new cache holds nothing. -/
theorem Sound.new {root : Path} {options : ScopeOptions} :
    Sound c a { root := root, options := options } { root := root, options := options }
      moments where
  root := rfl
  options := rfl
  project := ⟨rfl, fun _ hmemo => by cases hmemo⟩
  perFile _ hentry := by cases hentry

/-- Cells may be dropped. -/
theorem Sound.of_perFile_subset (h : cache.Sound c a blank moments) {kept : List FileScope}
    (hkept : kept ⊆ cache.perFile) :
    ({ cache with perFile := kept } : ScopeCache).Sound c a blank moments :=
  ⟨h.root, h.options, h.project, fun entry hentry => h.perFile entry (hkept hentry)⟩

theorem Sound.complete_eq (h : cache.Sound c a blank moments) (base : Scope)
    (libraries : List (List Path)) :
    cache.complete base libraries = blank.complete base libraries := by
  rw [complete, complete, h.options]

/-- What is known of the cell of a file, and of the new one that stands in for it. -/
def CellKept (c : Collaborators H) (a : ScopeAnswers) (blank : ScopeCache)
    (moments : List (Site H)) (file : FileRef) (flavor : Flavor) (cell : Cell Dependency Scope) :
    Prop :=
  ∃ spelled, spelled.same file = true ∧ cell.Kept c.stamp (fileSources spelled)
    (fun site scope => scope.same (a.scopeFor blank c (some spelled) flavor site) = true) moments

theorem cellKept_newCell : CellKept c a blank moments file flavor (newCell file) :=
  ⟨file, file.same_refl, rfl, fun _ hmemo => by cases hmemo⟩

theorem Sound.ensure (h : cache.Sound c a blank moments) :
    (cache.ensure file flavor).Sound c a blank moments := by
  unfold ScopeCache.ensure
  split
  · exact h
  split
  · exact h
  refine ⟨h.root, h.options, h.project, fun entry hentry => ?_⟩
  rcases List.mem_append.mp hentry with hold | hnew
  · exact h.perFile entry hold
  · obtain rfl := List.mem_singleton.mp hnew
    exact cellKept_newCell

theorem Sound.cellKept (h : cache.Sound c a blank moments) (file : FileRef) (flavor : Flavor) :
    CellKept c a blank moments file flavor ((cache.cell? file flavor).getD (newCell file)) := by
  unfold cell?
  cases hfind : cache.perFile.find? fun entry => entry.isFor file flavor with
  | none => exact cellKept_newCell
  | some entry =>
    have hfor : entry.isFor file flavor = true :=
      List.find?_some (p := fun entry : FileScope => entry.isFor file flavor) hfind
    rw [FileScope.isFor, Bool.and_eq_true, beq_iff_eq] at hfor
    obtain ⟨hfile, rfl⟩ := hfor
    obtain ⟨spelled, hspelled, hkept⟩ := h.perFile entry (List.mem_of_find?_eq_some hfind)
    exact ⟨spelled, FileRef.same_trans hspelled hfile, hkept⟩

theorem Sound.setCell (h : cache.Sound c a blank moments) {cell : Cell Dependency Scope}
    (hcell : CellKept c a blank moments file flavor cell) :
    (cache.setCell file flavor cell).Sound c a blank moments := by
  refine ⟨h.root, h.options, h.project, fun entry hentry => ?_⟩
  obtain ⟨old, hold, rfl⟩ := List.mem_map.mp hentry
  split
  · rename_i hfor
    rw [FileScope.isFor, Bool.and_eq_true, beq_iff_eq] at hfor
    obtain ⟨spelled, hspelled, hkept⟩ := hcell
    exact ⟨spelled, FileRef.same_trans hspelled (FileRef.same_symm hfor.1), hfor.2 ▸ hkept⟩
  · exact h.perFile old hold

end ScopeCache

/-! ### What one call gives and keeps -/

namespace ScopeState

variable {H : Type} {c : Collaborators H} {a : ScopeAnswers} {blank : ScopeCache}
  {past : List (Site H)} {file : FileRef} {flavor : Flavor} {s : ScopeState H}

/-- A scope that is made while no stamp moves away from those of an earlier moment. -/
theorem create_spec (ha : a.Of c) (hs : s.cache.Sound c a blank past) (base : Option Scope)
    {start : Site H} (hsite : Agree c.stamp projectSources s.site start)
    (hstill : ∀ visit ∈ createVisits c s, Agree c.stamp projectSources visit start) :
    (create c base s).1 =
      blank.complete (base.getD (.ofRoots [blank.root])) (a.libraries (c.epoch start)) := by
  have hlibraries := ha.libraries s.site ((hstill _ (.head _)).trans hsite.symm)
  simp only [create]
  rw [hs.complete_eq, hs.root, hlibraries, Collaborators.epoch_eq hsite]

/-- What was there before a call is there after its visits. -/
theorem past_sublist (visits : List (Site H)) (start : Site H) (past : List (Site H)) :
    past.Sublist (visits ++ start :: past) :=
  (List.sublist_cons_self _ _).trans (List.sublist_append_right _ _)

/-- The scope of the whole project: it is right if no stamp moves during the call, and the
invariant is kept in any case. -/
theorem globalScope_spec (ha : a.Of c) (hs : s.cache.Sound c a blank past)
    (hreturn : NeverReturns c.stamp (s.site :: past)) :
    ((∀ visit ∈ projectVisits c s, Agree c.stamp projectSources visit s.site) →
        (globalScope c s).1.same (a.projectScope blank (c.epoch s.site)) = true) ∧
      (globalScope c s).2.cache.Sound c a blank (projectVisits c s ++ s.site :: past) := by
  cases hpeek : s.cache.global.peek (c.stamp s.site) with
  | some scope =>
    have hget : globalScope c s = (scope, s) :=
      Place.get_of_fresh (globalPlace c) _ s hpeek
    obtain ⟨origin, hagree, hright⟩ := hs.project.right_of_peek hreturn hpeek
    rw [hget]
    refine ⟨fun _ => ?_, hs.of_sublist ?_⟩
    · rw [Collaborators.epoch_eq hagree]
      exact hright
    · simp [projectVisits, hpeek]
  | none =>
    have hvisits : projectVisits c s = createVisits c s := by simp only [projectVisits, hpeek]
    have hget := Place.get_of_stale (globalPlace c) (create c none) s hpeek
    have hvalue : (∀ visit ∈ createVisits c s, Agree c.stamp projectSources visit s.site) →
        (create c none s).1.same (a.projectScope blank (c.epoch s.site)) = true := by
      intro hstill
      rw [create_spec ha hs none (.refl _) hstill]
      exact Scope.same_refl _
    rw [globalScope, hget, hvisits]
    have hstamps := congrArg (Snapshot.capture (c.stamp s.site)) hs.project.dependencies
    have hs' := hs.of_sublist (past_sublist (createVisits c s) s.site past)
    exact ⟨hvalue, hs'.root, hs'.options, hs.project.store hvalue hstamps, hs'.perFile⟩

theorem agree_note (site : Site H) (entry : Entry) (leaves : List Dependency) :
    Agree c.stamp leaves (site.note entry) site :=
  fun d _ => congrFun (c.stamp_note site entry) d

/-! The three ways to compute the scope of a file, each with the moments that it lives through. -/

section Compute

variable {config : Option ProjectConfig} {site asked : Site H}

theorem compute_configured {base : Scope}
    (hresolve : c.resolver.projectConfig file s.site = (config, site))
    (hbase : (config.bind fun config => config.scopeOf flavor) = some base) :
    computeVisits c file flavor s =
        createVisits c { s with site := site.note (.configuredScope file flavor) } ++ [site] ∧
      compute c file flavor s =
        create c (some base) { s with site := site.note (.configuredScope file flavor) } := by
  simp only [computeVisits, compute, hresolve, hbase, and_self]

theorem compute_alone (hresolve : c.resolver.projectConfig file s.site = (config, site))
    (hbase : (config.bind fun config => config.scopeOf flavor) = none)
    (hany : c.resolver.hasConfigFiles site = (true, asked)) :
    computeVisits c file flavor s =
        createVisits c { s with site := asked.note (.loneFileScope file flavor) } ++
          [asked, site] ∧
      compute c file flavor s =
        create c (some (.ofFile file.path))
          { s with site := asked.note (.loneFileScope file flavor) } := by
  simp only [computeVisits, compute, hresolve, hbase, hany, ↓reduceIte, and_self]

theorem compute_project (hresolve : c.resolver.projectConfig file s.site = (config, site))
    (hbase : (config.bind fun config => config.scopeOf flavor) = none)
    (hany : c.resolver.hasConfigFiles site = (false, asked)) :
    computeVisits c file flavor s = projectVisits c { s with site := asked } ++ [asked, site] ∧
      compute c file flavor s = globalScope c { s with site := asked } := by
  simp only [computeVisits, compute, hresolve, hbase, hany, Bool.false_eq_true, ↓reduceIte,
    and_self]

end Compute

/-- The scope of a file, computed: it is right if no stamp moves meanwhile, and the invariant is
kept in any case. -/
theorem compute_spec (ha : a.Of c) (hs : s.cache.Sound c a blank past)
    (hreturn : NeverReturns c.stamp (computeVisits c file flavor s ++ s.site :: past)) :
    ((∀ visit ∈ computeVisits c file flavor s, Agree c.stamp (fileSources file) visit s.site) →
        (compute c file flavor s).1.same (a.scopeFor blank c (some file) flavor s.site) = true) ∧
      (compute c file flavor s).2.cache.Sound c a blank
        (computeVisits c file flavor s ++ s.site :: past) := by
  rcases hresolve : c.resolver.projectConfig file s.site with ⟨config, site⟩
  have hconfig := ha.config file s.site
  rw [hresolve] at hconfig
  cases hbase : config.bind fun config => config.scopeOf flavor with
  | some base =>
    obtain ⟨hvisits, hcompute⟩ := compute_configured (s := s) hresolve hbase
    rw [hvisits, hcompute]
    refine ⟨fun hstill => ?_, hs.of_sublist (past_sublist _ _ _)⟩
    have hsite := hstill site (by simp)
    rw [create_spec ha (s := { s with site := site.note (.configuredScope file flavor) }) hs
      (some base) ((agree_note site _ _).trans hsite.project)
      fun visit hvisit => (hstill visit (List.mem_append_left _ hvisit)).project]
    simp only [ScopeAnswers.scopeFor, ScopeAnswers.fileScope, ← hconfig hsite, hbase]
    exact Scope.same_refl _
  | none =>
    rcases hany : c.resolver.hasConfigFiles site with ⟨hasConfigFiles, asked⟩
    have hanswer := ha.hasConfigFiles site
    rw [hany] at hanswer
    cases hasConfigFiles with
    | true =>
      obtain ⟨hvisits, hcompute⟩ := compute_alone (s := s) hresolve hbase hany
      rw [hvisits, hcompute]
      refine ⟨fun hstill => ?_, hs.of_sublist (past_sublist _ _ _)⟩
      have hsite := hstill site (by simp)
      have hasked := hstill asked (by simp)
      have htrue := hanswer (hasked.trans hsite.symm).project
      rw [Collaborators.epoch_eq hsite.project] at htrue
      rw [create_spec ha (s := { s with site := asked.note (.loneFileScope file flavor) }) hs
        (some (.ofFile file.path)) ((agree_note asked _ _).trans hasked.project)
        fun visit hvisit => (hstill visit (List.mem_append_left _ hvisit)).project]
      simp only [ScopeAnswers.scopeFor, ScopeAnswers.fileScope, ← hconfig hsite, hbase, ← htrue,
        ↓reduceIte]
      exact Scope.same_refl _
    | false =>
      obtain ⟨hvisits, hcompute⟩ := compute_project (s := s) hresolve hbase hany
      rw [hvisits, List.append_assoc] at hreturn
      rw [hvisits, hcompute, List.append_assoc]
      have hpast : s.cache.Sound c a blank (site :: s.site :: past) :=
        hs.of_sublist (past_sublist [site] s.site past)
      obtain ⟨hvalue, hkept⟩ := globalScope_spec (s := { s with site := asked }) ha hpast
        (hreturn.of_sublist (List.sublist_append_right _ _))
      refine ⟨fun hstill => ?_, hkept⟩
      have hsite := hstill site (by simp)
      have hasked := hstill asked (by simp)
      have hfalse := hanswer (hasked.trans hsite.symm).project
      rw [Collaborators.epoch_eq hsite.project] at hfalse
      have hsame := hvalue fun visit hvisit =>
        ((hstill visit (List.mem_append_left _ hvisit)).trans hasked.symm).project
      rw [Collaborators.epoch_eq hasked.project] at hsame
      simpa only [ScopeAnswers.scopeFor, ScopeAnswers.fileScope, ← hconfig hsite, hbase, ← hfalse,
        Bool.false_eq_true, ↓reduceIte] using hsame

theorem perFile_globalScope (s : ScopeState H) :
    (globalScope c s).2.cache.perFile = s.cache.perFile := by
  unfold globalScope
  cases hpeek : ((globalPlace c).cell s).peek ((globalPlace c).read s) with
  | some scope => rw [Place.get_of_fresh _ _ _ hpeek]
  | none => rw [Place.get_of_stale _ _ _ hpeek]; rfl

/-- The scope of a file is computed without a look at the cells of files. -/
theorem perFile_compute (s : ScopeState H) :
    (compute c file flavor s).2.cache.perFile = s.cache.perFile := by
  rcases hresolve : c.resolver.projectConfig file s.site with ⟨config, site⟩
  cases hbase : config.bind fun config => config.scopeOf flavor with
  | some base => rw [(compute_configured (s := s) hresolve hbase).2]; rfl
  | none =>
    rcases hany : c.resolver.hasConfigFiles site with ⟨hasConfigFiles, asked⟩
    cases hasConfigFiles with
    | true => rw [(compute_alone (s := s) hresolve hbase hany).2]; rfl
    | false =>
      rw [(compute_project (s := s) hresolve hbase hany).2]
      exact perFile_globalScope { s with site := asked }

/-- A fresh cell is served without a question. -/
theorem scopeVisits_of_fresh {scope : Scope}
    (h : ((filePlace c file flavor).cell { s with cache := s.cache.ensure file flavor }).peek
      (c.stamp s.site) = some scope) : scopeVisits c (some file) flavor s = [] := by
  simp only [scopeVisits]
  rw [h]

/-- A stale cell is filled anew. -/
theorem scopeVisits_of_stale
    (h : ((filePlace c file flavor).cell { s with cache := s.cache.ensure file flavor }).peek
      (c.stamp s.site) = none) :
    scopeVisits c (some file) flavor s =
      computeVisits c file flavor { s with cache := s.cache.ensure file flavor } := by
  simp only [scopeVisits]
  rw [h]

theorem scopeFor_of_fresh {scope : Scope}
    (h : ((filePlace c file flavor).cell { s with cache := s.cache.ensure file flavor }).peek
      (c.stamp s.site) = some scope) :
    scopeFor c (some file) flavor s = (scope, { s with cache := s.cache.ensure file flavor }) :=
  Place.get_of_fresh (filePlace c file flavor) _ _ h

/-- A stale cell is filled with the stamps from before the computation, which does not touch it. -/
theorem scopeFor_of_stale
    (h : ((filePlace c file flavor).cell { s with cache := s.cache.ensure file flavor }).peek
      (c.stamp s.site) = none) :
    let ensured : ScopeState H := { s with cache := s.cache.ensure file flavor }
    let cell := (filePlace c file flavor).cell ensured
    let computed := compute c file flavor ensured
    ∃ entry, scopeFor c (some file) flavor s =
      (computed.1,
        { cache := computed.2.cache.setCell file flavor
            (cell.store computed.1 (cell.capture (c.stamp s.site)))
          site := computed.2.site.note entry }) := by
  intro ensured cell computed
  let stamps := cell.capture (c.stamp s.site)
  let noted := noteRecomputed ((filePlace c file flavor).cell computed.2).label stamps computed.2
  have hget : scopeFor c (some file) flavor s = (computed.1,
      (filePlace c file flavor).put
        (((filePlace c file flavor).cell noted).store computed.1 stamps) noted) :=
    Place.get_of_stale (filePlace c file flavor) (compute c file flavor) ensured h
  have hcell : (filePlace c file flavor).cell noted = cell := by
    simp only [filePlace, noted, noteRecomputed, ScopeCache.cell?, computed, perFile_compute, cell]
  rw [hget, hcell]
  exact ⟨_, rfl⟩

/-- The scope of a file: it is right if none of the stamps that it depends on moves during the call,
and the invariant is kept in any case. -/
theorem scopeFor_spec (ha : a.Of c) (hs : s.cache.Sound c a blank past) (file : Option FileRef)
    (flavor : Flavor)
    (hreturn : NeverReturns c.stamp (scopeVisits c file flavor s ++ s.site :: past)) :
    ((∀ f ∈ file, ∀ visit ∈ scopeVisits c file flavor s,
          Agree c.stamp (fileSources f) visit s.site) →
        (scopeFor c file flavor s).1.same (a.scopeFor blank c file flavor s.site) = true) ∧
      (scopeFor c file flavor s).2.cache.Sound c a blank
        (scopeVisits c file flavor s ++ s.site :: past) := by
  cases file with
  | none => exact ⟨fun _ => rfl, hs.of_sublist (past_sublist _ _ _)⟩
  | some file =>
    let ensured : ScopeState H := { s with cache := s.cache.ensure file flavor }
    have hensured : ensured.cache.Sound c a blank past := hs.ensure
    obtain ⟨spelled, hspelled, hkept⟩ := hensured.cellKept file flavor
    cases hpeek : ((filePlace c file flavor).cell ensured).peek (c.stamp s.site) with
    | some scope =>
      have hvisits := scopeVisits_of_fresh hpeek
      rw [hvisits] at hreturn ⊢
      obtain ⟨origin, hagree, hright⟩ := hkept.right_of_peek hreturn hpeek
      rw [scopeFor_of_fresh hpeek]
      refine ⟨fun _ => Scope.same_trans hright (Scope.same_symm ?_),
        hensured.of_sublist (past_sublist _ _ _)⟩
      exact a.scopeFor_same blank ha (FileRef.same_symm hspelled) flavor hagree
    | none =>
      have hvisits := scopeVisits_of_stale hpeek
      obtain ⟨entry, hfilled⟩ := scopeFor_of_stale hpeek
      rw [hvisits] at hreturn ⊢
      obtain ⟨hvalue, hsound⟩ := compute_spec ha hensured hreturn
      rw [hfilled]
      refine ⟨fun hstill => hvalue (hstill file rfl), hsound.setCell ⟨spelled, hspelled, ?_⟩⟩
      have hstamps := congrArg (Snapshot.capture (c.stamp s.site)) hkept.dependencies
      refine hkept.store (fun hstill => ?_) hstamps
      refine Scope.same_trans (hvalue fun visit hvisit =>
        ha.agree_same hspelled (hstill visit hvisit)) ?_
      exact a.scopeFor_same blank ha (FileRef.same_symm hspelled) flavor (.refl _)

/-- The scope that stamps give is the one that a new cache computes while no stamp moves. -/
theorem scopeFor_new (ha : a.Of c) {root : Path} {options : ScopeOptions} (site : Site H)
    (file : Option FileRef) (flavor : Flavor)
    (hs : s = ⟨{ root := root, options := options }, site⟩)
    (hstill : ∀ visit ∈ scopeVisits c file flavor s, c.stamp visit = c.stamp site) :
    (scopeFor c file flavor s).1.same
      (a.scopeFor { root := root, options := options } c file flavor site) = true := by
  subst hs
  have hnew : ScopeCache.Sound c a { root := root, options := options }
      { root := root, options := options } [] := .new
  refine (scopeFor_spec ha hnew file flavor ?_).1 fun f _ visit hvisit d _ =>
    congrFun (hstill visit hvisit) d
  refine NeverReturns.of_still site fun moment hmoment => ?_
  rcases List.mem_append.mp hmoment with hvisit | hstart
  · exact hstill moment hvisit
  · rw [List.mem_singleton.mp hstart]

end ScopeState

/-! ### Runs -/

namespace ScopeState

variable {H : Type}

/-- The runs of a cache that was new at first, with the moments at which a call began or a question
of a call was answered. Cells are dropped and stamps are moved between the calls as well. -/
inductive Journey (c : Collaborators H) (root : Path) (options : ScopeOptions) :
    List (Site H) → ScopeState H → Prop where
  | here (site : Site H) :
      Journey c root options [] { cache := { root := root, options := options }, site := site }
  | scopeFor {moments : List (Site H)} {s : ScopeState H} (file : Option FileRef)
      (flavor : Flavor) :
      Journey c root options moments s →
        Journey c root options (scopeVisits c file flavor s ++ s.site :: moments)
          (scopeFor c file flavor s).2
  | globalScope {moments : List (Site H)} {s : ScopeState H} :
      Journey c root options moments s →
        Journey c root options (projectVisits c s ++ s.site :: moments) (globalScope c s).2
  | forget {moments : List (Site H)} {s : ScopeState H} (file : FileRef) :
      Journey c root options moments s →
        Journey c root options moments { s with cache := s.cache.forget file }
  | evict {moments : List (Site H)} {s : ScopeState H} (kept : List FileScope) :
      Journey c root options moments s → kept.Sublist s.cache.perFile →
        Journey c root options moments { s with cache := { s.cache with perFile := kept } }
  | move {moments : List (Site H)} {s : ScopeState H} (site : Site H) :
      Journey c root options moments s → Journey c root options moments { s with site := site }

namespace Journey

variable {c : Collaborators H} {a : ScopeAnswers} {root : Path} {options : ScopeOptions}
  {moments : List (Site H)} {s : ScopeState H}

/-- Trimming a cache to its capacity drops cells. -/
theorem trim (h : Journey c root options moments s) :
    Journey c root options moments { s with cache := s.cache.trim } :=
  .evict _ h (List.take_sublist _ _)

/-- The invariant holds after every run. -/
theorem sound (ha : a.Of c) (h : Journey c root options moments s)
    (hreturn : NeverReturns c.stamp moments) :
    s.cache.Sound c a { root := root, options := options } moments := by
  induction h with
  | here site => exact .new
  | scopeFor file flavor _ ih =>
    have hpast := ih (hreturn.of_sublist (past_sublist _ _ _))
    exact (scopeFor_spec ha hpast file flavor hreturn).2
  | globalScope _ ih =>
    have hpast := ih (hreturn.of_sublist (past_sublist _ _ _))
    exact (globalScope_spec ha hpast (hreturn.of_sublist (List.sublist_append_right _ _))).2
  | forget file _ ih => exact (ih hreturn).of_perFile_subset List.filter_sublist.subset
  | evict kept _ hkept ih => exact (ih hreturn).of_perFile_subset hkept.subset
  | move site _ ih => exact ih hreturn

end Journey

end ScopeState

open ScopeState in
/-- The cache of scopes is transparent. After every run in which no stamp takes a value again that
it left, a scope that is asked for is the one that the present stamps give without a cache, unless
one of the stamps that it depends on moves during the call. -/
theorem scopes_transparent {H : Type} {c : Collaborators H} {a : ScopeAnswers} (ha : a.Of c)
    {root : Path} {options : ScopeOptions} {moments : List (Site H)} {s : ScopeState H}
    (hs : Journey c root options moments s) :
    (∀ file flavor, NeverReturns c.stamp (scopeVisits c file flavor s ++ s.site :: moments) →
        (∀ f ∈ file, ∀ visit ∈ scopeVisits c file flavor s,
          Agree c.stamp (fileSources f) visit s.site) →
        (scopeFor c file flavor s).1.same
          (a.scopeFor { root := root, options := options } c file flavor s.site) = true) ∧
      (NeverReturns c.stamp (projectVisits c s ++ s.site :: moments) →
        (∀ visit ∈ projectVisits c s, Agree c.stamp projectSources visit s.site) →
        (globalScope c s).1.same
          (a.projectScope { root := root, options := options } (c.epoch s.site)) = true) := by
  constructor
  · intro file flavor hreturn hstill
    have hsound := hs.sound ha (hreturn.of_sublist (past_sublist _ _ _))
    exact (scopeFor_spec ha hsound file flavor hreturn).1 hstill
  · intro hreturn hstill
    have hsound := hs.sound ha (hreturn.of_sublist (past_sublist _ _ _))
    have hnow := hreturn.of_sublist (List.sublist_append_right _ _)
    exact (globalScope_spec ha hsound hnow).1 hstill

section Example

open ScopeState

/-- Collaborators that know no project configuration; their world is the stamp of configurations. -/
def plainCollaborators (libraries : Site Stamp → List (List Path) × Site Stamp) :
    Collaborators Stamp where
  resolver :=
    { stamp := id
      projectConfig := fun _ site => (none, site)
      hasConfigFiles := fun site => (false, site)
      directories := fun _ => []
      configFileIn := fun _ site => (none, site)
      reload := fun site => (.finished, { site with host := site.host + 1 }) }
  files :=
    { isValid := fun _ _ => true
      isDirectory := fun _ _ => false
      isInProject := fun _ _ => true
      stamp := fun _ _ => 0 }
  documents := { fileOf := fun _ _ => none, save := fun _ site => .done site (.ok false) }
  libraries := libraries
  registryInfo := fun _ site => .done site (.ok {})
  validate := fun _ site => .done site (.ok [])

/-- A library that is gone after the question for it, which moves the stamp of configurations. -/
def leavingLibrary (site : Site Stamp) : List (List Path) × Site Stamp :=
  if site.host = 0 then ([[⟨[47, 98]⟩]], { site with host := 1 }) else ([], site)

/-- No project configuration and no library. -/
def plainAnswers : ScopeAnswers where
  config _ _ _ := none
  hasConfigFiles _ := false
  libraries _ := []
  config_same _ _ _ _ := .none

theorem plainAnswers_of : plainAnswers.Of (plainCollaborators leavingLibrary) where
  config _ _ _ := rfl
  hasConfigFiles _ _ := rfl
  libraries site hstill := by
    by_cases hzero : site.host = 0
    · have hmoved : site.host = 1 := by
        have := hstill .configuration (.head _)
        simpa [plainCollaborators, leavingLibrary, hzero, Collaborators.stamp] using this.symm
      rw [hmoved] at hzero
      cases hzero
    · simp [plainCollaborators, leavingLibrary, hzero, plainAnswers]
  fileStamp _ _ := rfl

/-- The stamps of plain collaborators are the configuration stamp and the generation. -/
theorem stamp_plain_le {x y : Site Stamp} (h : x.host ≤ y.host ∧ x.generation ≤ y.generation) :
    ∀ d, (plainCollaborators leavingLibrary).stamp x d ≤
      (plainCollaborators leavingLibrary).stamp y d
  | .configuration => h.1
  | .fileStructure => h.2
  | .file _ => UInt64.le_refl 0

/-- The file of the example. -/
def plainFile : FileRef where
  path := ⟨[47, 97]⟩

/-- A new cache, before the library leaves. -/
def beforeLeaving : ScopeState Stamp where
  cache := { root := ⟨[47]⟩ }
  site := { host := 0 }

/-- The cache after a call during which the library left. -/
def afterLeaving : ScopeState Stamp :=
  (scopeFor (plainCollaborators leavingLibrary) (some plainFile) .resolve beforeLeaving).2

/-- A library leaves while the scope of a file is computed, and all cells are filled with what it
had; the next call does not see it. -/
theorem scopes_transparent_leaving_library :
    afterLeaving.cache.perFile.length = 1 ∧ afterLeaving.cache.global.slot.isSome = true ∧
      (scopeFor (plainCollaborators leavingLibrary) (some plainFile) .resolve afterLeaving).1.same
        (plainAnswers.scopeFor { root := ⟨[47]⟩ } (plainCollaborators leavingLibrary)
          (some plainFile) .resolve afterLeaving.site) = true := by
  have hnew : Journey (plainCollaborators leavingLibrary) ⟨[47]⟩ {} [] beforeLeaving := .here _
  have hrun := hnew.scopeFor (some plainFile) .resolve
  refine ⟨by decide, by decide, (scopes_transparent plainAnswers_of hrun).1 _ _ ?_ ?_⟩
  · refine .of_pairwise (List.Pairwise.imp (R := fun y x : Site Stamp =>
      x.host ≤ y.host ∧ x.generation ≤ y.generation) (fun h => stamp_plain_le h) ?_)
    decide
  · intro f hf visit hvisit d _
    have hsame : ∀ visit ∈ scopeVisits (plainCollaborators leavingLibrary) (some plainFile) .resolve
        afterLeaving, visit.host = afterLeaving.site.host ∧
          visit.generation = afterLeaving.site.generation := by decide
    obtain ⟨hhost, hgeneration⟩ := hsame visit hvisit
    exact UInt64.le_antisymm
      (stamp_plain_le ⟨UInt64.le_of_eq hhost, UInt64.le_of_eq hgeneration⟩ d)
      (stamp_plain_le ⟨UInt64.le_of_eq hhost.symm, UInt64.le_of_eq hgeneration.symm⟩ d)

end Example

end SchemaEngine
