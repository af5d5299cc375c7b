import SchemaEngine.Proofs.Scope.Cells

/-!
# The life of a cache of scopes

A cache of scopes lives through calls, forgotten and evicted cells, and sites that move in any way.
Beside its life stands a history: which cells are filled, and at which site the computation of what
they hold began. The cells are what the history tells, so a call for the scope of a file makes
requests exactly if its cell is not filled, or one of the stamps that it depends on is not the one
of that site.

## Main definitions

* `ScopeAct`: what is done with a cache of scopes.
* `Filling`, `Fillings`: how the cells of files were filled.
* `ScopeAct.lifetime`: acts one after the other, with the history of the cells.
* `Tracks`: the cells are what the history tells.

## Main results

* `Tracks.live`, `tracks_lifetime`: what one act preserves, and what every life does.
* `Tracks.requests_ne_nil_iff`: when a call makes requests.
* `ScopeAct.exists_lifetime_trim`: a cache is trimmed in the course of a life.
-/

set_option autoImplicit false

namespace SchemaEngine

variable {H : Type} {c : Collaborators H} {file other : FileRef} {flavor flavor' : Flavor}

/-- What is done with a cache of scopes. -/
inductive ScopeAct (H : Type) where
  /-- The scope of a file is asked for. -/
  | scopeFor (file : Option FileRef) (flavor : Flavor)
  /-- The scope of the whole project is asked for. -/
  | globalScope
  /-- The cells of a file are dropped. -/
  | forget (file : FileRef)
  /-- There is no room for a cell any more. -/
  | evict (file : FileRef) (flavor : Flavor)
  /-- Something happens at the site. -/
  | move (site : Site H)

/-- How a cell was filled. -/
structure Filling (H : Type) where
  /-- The file, as it was spelled when the cell was made. -/
  spelled : FileRef
  /-- The site at which the computation of what the cell holds began. -/
  start : Site H

/-- How the cells of files were filled that are filled. -/
abbrev Fillings (H : Type) :=
  FileRef → Flavor → Option (Filling H)

/-- The history of a cell that is filled now. It is made for the file if there is none, unless there
is no room for any cell. -/
def Fillings.filled (fillings : Fillings H) (file : FileRef) (flavor : Flavor)
    (s : ScopeState H) : Option (Filling H) :=
  match fillings file flavor with
  | some filling => some ⟨filling.spelled, s.site⟩
  | none => if s.cache.options.capacity = 0 then none else some ⟨file, s.site⟩

/-- The histories with that of one cell replaced. -/
def Fillings.set (file : FileRef) (flavor : Flavor) (filling : Option (Filling H))
    (fillings : Fillings H) : Fillings H :=
  fun other flavor' =>
    if file.same other = true ∧ flavor = flavor' then filling else fillings other flavor'

namespace ScopeAct

/-- What an act leads to. -/
def perform (c : Collaborators H) (s : ScopeState H) : ScopeAct H → ScopeState H
  | scopeFor file flavor => (ScopeState.scopeFor c file flavor s).2
  | globalScope => (ScopeState.globalScope c s).2
  | forget file => { s with cache := s.cache.forget file }
  | evict file flavor => { s with cache := s.cache.evict file flavor }
  | move site => { s with site := site }

/-- How the cells are filled after an act: a call that makes requests fills its cell. -/
def record (c : Collaborators H) (s : ScopeState H) (fillings : Fillings H) :
    ScopeAct H → Fillings H
  | scopeFor none _ => fillings
  | scopeFor (some file) flavor =>
    if ScopeState.requests c (some file) flavor s = [] then fillings
    else fillings.set file flavor (fillings.filled file flavor s)
  | globalScope => fillings
  | forget file => fun other flavor => if file.same other then none else fillings other flavor
  | evict file flavor => fillings.set file flavor none
  | move _ => fillings

/-- An act, with the history of the cells. -/
def live (c : Collaborators H) (past : Fillings H × ScopeState H) (act : ScopeAct H) :
    Fillings H × ScopeState H :=
  (act.record c past.2 past.1, act.perform c past.2)

/-- Acts on a new cache, one after the other, with the history of the cells. -/
def lifetime (c : Collaborators H) (root : Path) (options : ScopeOptions) (site : Site H)
    (acts : List (ScopeAct H)) : Fillings H × ScopeState H :=
  acts.foldl (live c)
    (fun _ _ => none, { cache := { root := root, options := options }, site := site })

end ScopeAct

/-- A cell holds what was computed when it was filled. -/
structure Filling.Fills (c : Collaborators H) (file : FileRef) (filling : Filling H)
    (cell : Cell Dependency Scope) : Prop where
  spelled : filling.spelled.same file = true
  dependencies : cell.dependencies = (fileSources filling.spelled).map .single
  slot : ∃ scope, cell.slot = some ⟨scope, .capture (c.stamp filling.start)
    ((fileSources filling.spelled).map .single)⟩

namespace Filling.Fills

variable {filling : Filling H} {cell : Cell Dependency Scope}

theorem of_same (h : filling.Fills c file cell) (hsame : file.same other = true) :
    filling.Fills c other cell :=
  ⟨FileRef.same_trans h.spelled hsame, h.dependencies, h.slot⟩

theorem rel_of_same {filling : Option (Filling H)} {cell : Option (Cell Dependency Scope)}
    (h : Option.Rel (Filling.Fills c file) filling cell) (hsame : file.same other = true) :
    Option.Rel (Filling.Fills c other) filling cell := by
  cases h with
  | none => exact .none
  | some hfills => exact .some (hfills.of_same hsame)

/-- A cell is fresh while the stamps are those with which it was filled. -/
theorem isFresh_iff (h : filling.Fills c file cell) (site : Site H) :
    cell.isFresh (c.stamp site) = true ↔
      Agree c.stamp (fileSources filling.spelled) site filling.start := by
  obtain ⟨scope, hslot⟩ := h.slot
  simp only [Cell.isFresh, hslot]
  exact Snapshot.isCurrent_capture

theorem store {spelled : FileRef} (hspelled : spelled.same file = true)
    (hdependencies : cell.dependencies = (fileSources spelled).map .single) (scope : Scope)
    (site : Site H) :
    Fills c file ⟨spelled, site⟩ (cell.store scope (cell.capture (c.stamp site))) where
  spelled := hspelled
  dependencies := hdependencies
  slot := ⟨scope, by rw [Cell.store, Cell.capture, hdependencies]⟩

end Filling.Fills

/-- The cells of a cache are what the history tells. -/
structure Tracks (c : Collaborators H) (root : Path) (options : ScopeOptions)
    (past : Fillings H × ScopeState H) : Prop where
  cells : ∀ file flavor, Option.Rel (Filling.Fills c file) (past.1 file flavor)
    (past.2.cache.cell? file flavor)
  distinct : past.2.cache.Distinct
  made : past.2.cache.Made root options c

namespace Tracks

open ScopeState

variable {root : Path} {options : ScopeOptions} {fillings : Fillings H} {s : ScopeState H}

/-- A cell is there exactly if it is filled. -/
theorem cell_cases (h : Tracks c root options (fillings, s)) (file : FileRef) (flavor : Flavor) :
    (fillings file flavor = none ∧ s.cache.cell? file flavor = none) ∨
      ∃ filling cell, fillings file flavor = some filling ∧
        s.cache.cell? file flavor = some cell ∧ filling.Fills c file cell := by
  have hcell := h.cells file flavor
  cases hfilling : fillings file flavor with
  | none =>
    cases hold : s.cache.cell? file flavor with
    | none => exact .inl ⟨rfl, rfl⟩
    | some cell => simp only [hfilling, hold] at hcell; cases hcell
  | some filling =>
    cases hold : s.cache.cell? file flavor with
    | none => simp only [hfilling, hold] at hcell; cases hcell
    | some cell =>
      simp only [hfilling, hold] at hcell
      cases hcell with
      | some hfills => exact .inr ⟨filling, cell, rfl, rfl, hfills⟩

theorem spelled (h : Tracks c root options (fillings, s)) {filling : Filling H}
    (hfilling : fillings file flavor = some filling) : filling.spelled.same file = true := by
  obtain ⟨hnone, -⟩ | ⟨_, cell, hsome, -, hfills⟩ := h.cell_cases file flavor
  · rw [hnone] at hfilling
    cases hfilling
  · rw [hsome] at hfilling
    cases hfilling
    exact hfills.spelled

/-- A cell is fresh exactly if it is filled and the stamps are those with which it was filled. -/
theorem isFresh_iff (h : Tracks c root options (fillings, s)) (file : FileRef) (flavor : Flavor) :
    (s.cellOf file flavor).isFresh (c.stamp s.site) = true ↔
      ∃ filling, fillings file flavor = some filling ∧
        Agree c.stamp (fileSources filling.spelled) s.site filling.start := by
  obtain ⟨hnone, hcell⟩ | ⟨filling, cell, hsome, hcell, hfills⟩ := h.cell_cases file flavor
  · rw [cellOf, hnone, hcell]
    simp [ScopeCache.newCell, Cell.isFresh]
  · rw [cellOf, hsome, hcell]
    simpa using hfills.isFresh_iff s.site

/-- A call that makes requests fills its cell. -/
theorem filled (h : Tracks c root options (fillings, s))
    (hstale : (s.cellOf file flavor).isFresh (c.stamp s.site) = false) :
    Option.Rel (Filling.Fills c file) (fillings.filled file flavor s)
      ((scopeFor c (some file) flavor s).2.cache.cell? file flavor) := by
  obtain ⟨scope, hafter⟩ := cell?_scopeFor_of_stale hstale
  rw [hafter, Fillings.filled]
  obtain ⟨hnone, hcell⟩ | ⟨filling, cell, hsome, hcell, hfills⟩ := h.cell_cases file flavor
  · rw [hnone, cellOf, hcell]
    -- A cell is made for the call, unless there is no room for any.
    by_cases hroom : s.cache.options.capacity = 0
    case pos =>
      have hensure : (s.cache.ensure file flavor).cell? file flavor = none := by
        simp only [ScopeCache.ensure, hcell, hroom, ↓reduceIte]
      simp only [hensure, hroom, ↓reduceIte, Option.map_none]
      exact .none
    case neg =>
      simp only [ScopeCache.cell?_ensure_new hroom hcell, hroom, ↓reduceIte, Option.map_some]
      exact .some (.store file.same_refl rfl scope s.site)
  · rw [hsome, cellOf, hcell, ScopeCache.cell?_ensure hcell]
    exact .some (.store hfills.spelled hfills.dependencies scope s.site)

/-- The cells are what the history tells after a call for the scope of a file. -/
theorem cells_scopeFor (h : Tracks c root options (fillings, s)) (file : FileRef)
    (flavor : Flavor) (other : FileRef) (flavor' : Flavor) :
    Option.Rel (Filling.Fills c other)
      ((ScopeAct.scopeFor (some file) flavor).record c s fillings other flavor')
      ((scopeFor c (some file) flavor s).2.cache.cell? other flavor') := by
  simp only [ScopeAct.record]
  cases hfresh : (s.cellOf file flavor).isFresh (c.stamp s.site) with
  | true =>
    rw [if_pos (requests_eq_nil_iff.mpr hfresh), scopeFor_of_isFresh hfresh]
    exact h.cells other flavor'
  | false =>
    have hstale : ¬ (s.cellOf file flavor).isFresh (c.stamp s.site) = true := by
      rw [hfresh]
      exact Bool.false_ne_true
    rw [if_neg (mt requests_eq_nil_iff.mp hstale), Fillings.set]
    split
    case isTrue hsame =>
      obtain ⟨hsame, rfl⟩ := hsame
      rw [← ScopeCache.cell?_congr hsame]
      exact Filling.Fills.rel_of_same (h.filled hfresh) hsame
    case isFalse hother =>
      rw [cell?_scopeFor_of_ne s hother]
      exact h.cells other flavor'

/-- The cells are what the history tells after one act. -/
theorem cells_live (h : Tracks c root options (fillings, s)) (act : ScopeAct H) (other : FileRef)
    (flavor' : Flavor) :
    Option.Rel (Filling.Fills c other) (act.record c s fillings other flavor')
      ((act.perform c s).cache.cell? other flavor') := by
  cases act with
  | scopeFor file flavor =>
    cases file with
    | none => exact h.cells other flavor'
    | some file => exact h.cells_scopeFor file flavor other flavor'
  | globalScope =>
    simp only [ScopeAct.perform, ScopeCache.cell?, perFile_globalScope]
    exact h.cells other flavor'
  | forget file =>
    simp only [ScopeAct.record, ScopeAct.perform, ScopeCache.cell?_forget]
    split
    · exact .none
    · exact h.cells other flavor'
  | evict file flavor =>
    simp only [ScopeAct.record, ScopeAct.perform, Fillings.set, ScopeCache.cell?_evict]
    split
    · exact .none
    · exact h.cells other flavor'
  | move site => exact h.cells other flavor'

end Tracks

namespace ScopeAct

open ScopeState

variable {root : Path} {options : ScopeOptions} {s : ScopeState H} {act : ScopeAct H}
  {asked : Site H}

theorem distinct_perform (h : s.cache.Distinct) (act : ScopeAct H) :
    (act.perform c s).cache.Distinct := by
  cases act with
  | scopeFor file flavor => exact distinct_scopeFor h file flavor
  | globalScope => rw [perform, ScopeCache.Distinct, perFile_globalScope]; exact h
  | forget file => exact h.filter _
  | evict file flavor => exact h.filter _
  | move site => exact h

theorem made_perform (h : s.cache.Made root options c) (act : ScopeAct H) :
    (act.perform c s).cache.Made root options c := by
  cases act with
  | scopeFor file flavor => exact made_scopeFor h file flavor
  | globalScope => exact made_globalScope h
  | forget file => exact h.of_same rfl rfl rfl
  | evict file flavor => exact h.of_same rfl rfl rfl
  | move site => exact h

end ScopeAct

/-- What one act preserves. -/
theorem Tracks.live {root : Path} {options : ScopeOptions} {past : Fillings H × ScopeState H}
    (h : Tracks c root options past) (act : ScopeAct H) :
    Tracks c root options (act.live c past) where
  cells := h.cells_live act
  distinct := ScopeAct.distinct_perform h.distinct act
  made := ScopeAct.made_perform h.made act

/-- What every run preserves. -/
theorem tracks_lifetime (c : Collaborators H) (root : Path) (options : ScopeOptions)
    (site : Site H) (acts : List (ScopeAct H)) :
    Tracks c root options (ScopeAct.lifetime c root options site acts) := by
  have hnew : Tracks c root options (fun _ _ => none,
      { cache := { root := root, options := options }, site := site }) :=
    ⟨fun _ _ => .none, .nil, rfl, rfl, rfl, fun _ hmemo => nomatch hmemo⟩
  suffices hrun : ∀ past, Tracks c root options past →
      Tracks c root options (acts.foldl (ScopeAct.live c) past) from hrun _ hnew
  induction acts with
  | nil => exact fun past h => h
  | cons act acts ih => exact fun past h => ih _ (h.live act)

/-- A cache is trimmed in the course of a life, by evictions. -/
theorem ScopeAct.exists_lifetime_trim {root : Path} {options : ScopeOptions} {site : Site H}
    {acts : List (ScopeAct H)} {past : Fillings H × ScopeState H}
    (h : lifetime c root options site acts = past) :
    ∃ evictions, (lifetime c root options site (acts ++ evictions)).2 =
      { past.2 with cache := past.2.cache.trim } := by
  have hdistinct := (tracks_lifetime c root options site acts).distinct
  rw [h] at hdistinct
  refine ⟨(past.2.cache.perFile.drop past.2.cache.options.capacity.toNat).map
    fun entry => evict entry.file entry.flavor, ?_⟩
  rw [lifetime, List.foldl_append, ← lifetime, h, ScopeCache.trim_eq_foldl_evict hdistinct]
  generalize past.2.cache.perFile.drop past.2.cache.options.capacity.toNat = dropped
  clear h hdistinct
  induction dropped generalizing past with
  | nil => rfl
  | cons entry dropped ih => exact ih

end SchemaEngine
