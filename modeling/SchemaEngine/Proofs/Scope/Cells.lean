import SchemaEngine.Proofs.Scope.Requests

/-!
# The cells of a cache

Every file and flavor has at most one cell. A cell is dropped when its file is forgotten, under
whatever spelling, and when there is no room for it; a call for the scope of a file fills the cell
of the file if that is stale, and touches no other one.

## Main definitions

* `ScopeCache.evict`: drops the cell of a file and a flavor.
* `ScopeCache.Distinct`: no two cells are for the same file and flavor.

## Main results

* `ScopeCache.cell?_forget`, `ScopeCache.cell?_evict`: which cells are dropped.
* `ScopeCache.trim_eq_foldl_evict`: a cache is trimmed by evictions.
* `ScopeState.scopeFor_of_isFresh`, `ScopeState.cache_scopeFor_of_stale`: what a call does to the
  cell of its file.
* `ScopeState.cell?_scopeFor_of_ne`: it touches no other one.
-/

set_option autoImplicit false

namespace SchemaEngine

variable {H : Type} {c : Collaborators H} {file other : FileRef} {flavor flavor' : Flavor}

namespace ScopeCache

variable {cache : ScopeCache} {cell : Cell Dependency Scope}

/-- Drops the cell of a file and a flavor. -/
def evict (file : FileRef) (flavor : Flavor) (cache : ScopeCache) : ScopeCache :=
  { cache with perFile := cache.perFile.filter fun entry => !entry.isFor file flavor }

/-- No two cells are for the same file and flavor. -/
def Distinct (cache : ScopeCache) : Prop :=
  cache.perFile.Pairwise fun x y => x.isFor y.file y.flavor = false

theorem find?_eq_none_of_cell? (h : cache.cell? file flavor = none) :
    (cache.perFile.find? fun entry => entry.isFor file flavor) = none :=
  Option.map_eq_none_iff.mp h

theorem cell?_filter_of_kept {keep : FileScope → Bool}
    (h : ∀ entry : FileScope, entry.isFor file flavor = true → keep entry = true) :
    ({ cache with perFile := cache.perFile.filter keep } : ScopeCache).cell? file flavor =
      cache.cell? file flavor := by
  have hkeep : (fun entry : FileScope =>
      decide (keep entry = true ∧ entry.isFor file flavor = true)) =
        fun entry => entry.isFor file flavor := by
    funext entry
    rw [Bool.eq_iff_iff, decide_eq_true_eq]
    exact ⟨And.right, fun hfor => ⟨h entry hfor, hfor⟩⟩
  simp only [cell?, List.find?_filter, hkeep]

theorem cell?_filter_of_dropped {keep : FileScope → Bool}
    (h : ∀ entry : FileScope, entry.isFor file flavor = true → keep entry = false) :
    ({ cache with perFile := cache.perFile.filter keep } : ScopeCache).cell? file flavor =
      none := by
  simp only [cell?, Option.map_eq_none_iff, List.find?_eq_none]
  intro entry hentry hfor
  have hkept := (List.mem_filter.mp hentry).2
  rw [h entry hfor] at hkept
  cases hkept

/-- Forgetting a file drops its cells, under whatever spelling, and no others. -/
theorem cell?_forget (cache : ScopeCache) (file other : FileRef) (flavor : Flavor) :
    (cache.forget file).cell? other flavor =
      if file.same other then none else cache.cell? other flavor := by
  have hfile {entry : FileScope} (hfor : entry.isFor other flavor = true) :
      entry.file.same file = file.same other := by
    rw [FileScope.isFor, Bool.and_eq_true] at hfor
    exact Bool.eq_iff_iff.mpr
      ⟨fun h => FileRef.same_trans (FileRef.same_symm h) hfor.1,
        fun h => FileRef.same_trans hfor.1 (FileRef.same_symm h)⟩
  cases hsame : file.same other with
  | true =>
    exact cell?_filter_of_dropped fun entry hfor => by rw [hfile hfor, hsame]; rfl
  | false =>
    exact cell?_filter_of_kept fun entry hfor => by rw [hfile hfor, hsame]; rfl

theorem cell?_evict (cache : ScopeCache) (file other : FileRef) (flavor flavor' : Flavor) :
    (cache.evict file flavor).cell? other flavor' =
      if file.same other = true ∧ flavor = flavor' then none else cache.cell? other flavor' := by
  split
  case isTrue h =>
    obtain ⟨hsame, rfl⟩ := h
    exact cell?_filter_of_dropped fun entry hfor => by rw [entry.isFor_congr hsame, hfor]; rfl
  case isFalse h =>
    exact cell?_filter_of_kept fun entry hfor => by rw [FileScope.isFor_other hfor h]; rfl

/-- Filling the cell of a file fills no other one. -/
theorem cell?_setCell_of_ne (cache : ScopeCache) (cell : Cell Dependency Scope)
    (h : ¬ (file.same other = true ∧ flavor = flavor')) :
    (cache.setCell file flavor cell).cell? other flavor' = cache.cell? other flavor' := by
  cases hcell : cache.cell? other flavor' with
  | some old => exact cell?_setCell_other hcell h
  | none => rw [cell?_setCell_eq_map, find?_eq_none_of_cell? hcell]; rfl

theorem cell?_setCell_self (cache : ScopeCache) (cell : Cell Dependency Scope) :
    (cache.setCell file flavor cell).cell? file flavor =
      (cache.cell? file flavor).map fun _ => cell := by
  cases hcell : cache.cell? file flavor with
  | some old => exact cell?_setCell hcell
  | none => rw [cell?_setCell_eq_map, find?_eq_none_of_cell? hcell]; rfl

/-- Making a cell for a file makes no other one. -/
theorem cell?_ensure_of_ne (cache : ScopeCache)
    (h : ¬ (file.same other = true ∧ flavor = flavor')) :
    (cache.ensure file flavor).cell? other flavor' = cache.cell? other flavor' := by
  have hnew : (⟨file, flavor, newCell file⟩ : FileScope).isFor other flavor' = false := by
    rw [Bool.eq_false_iff, ne_eq, FileScope.isFor, Bool.and_eq_true, beq_iff_eq]
    exact h
  unfold ensure
  split
  · rfl
  · split
    · rfl
    · simp [cell?, List.find?_append, hnew]

/-! No two cells are for the same file and flavor. -/

theorem isFor_self (entry : FileScope) : entry.isFor entry.file entry.flavor = true := by
  rw [FileScope.isFor, FileRef.same_refl, beq_self_eq_true, Bool.and_self]

theorem isFor_comm (x y : FileScope) : x.isFor y.file y.flavor = y.isFor x.file x.flavor := by
  have hfile : x.file.same y.file = y.file.same x.file :=
    Bool.eq_iff_iff.mpr ⟨FileRef.same_symm, FileRef.same_symm⟩
  rw [FileScope.isFor, FileScope.isFor, hfile, Bool.beq_comm]

theorem Distinct.filter (h : cache.Distinct) (keep : FileScope → Bool) :
    ({ cache with perFile := cache.perFile.filter keep } : ScopeCache).Distinct :=
  List.Pairwise.filter keep h

theorem Distinct.ensure (h : cache.Distinct) (file : FileRef) (flavor : Flavor) :
    (cache.ensure file flavor).Distinct := by
  unfold ScopeCache.ensure
  split
  · exact h
  rename_i hcell
  split
  · exact h
  refine List.pairwise_append.mpr ⟨h, List.pairwise_singleton _ _, fun x hx y hy => ?_⟩
  obtain rfl := List.mem_singleton.mp hy
  exact Bool.eq_false_iff.mpr (List.find?_eq_none.mp (find?_eq_none_of_cell? hcell) x hx)

theorem Distinct.setCell (h : cache.Distinct) (file : FileRef) (flavor : Flavor)
    (cell : Cell Dependency Scope) : (cache.setCell file flavor cell).Distinct := by
  refine List.pairwise_map.mpr (h.imp fun {x y} hxy => ?_)
  cases x.isFor file flavor <;> cases y.isFor file flavor <;> exact hxy

/-- Cells that stand behind others are dropped one by one. -/
theorem foldl_evict (cache : ScopeCache) (kept dropped : List FileScope)
    (h : (kept ++ dropped).Pairwise fun x y => x.isFor y.file y.flavor = false) :
    dropped.foldl (fun cache entry => cache.evict entry.file entry.flavor)
        { cache with perFile := kept ++ dropped } =
      { cache with perFile := kept } := by
  induction dropped with
  | nil => rw [List.append_nil]; rfl
  | cons entry dropped ih =>
    obtain ⟨hkept, hdropped, hboth⟩ := List.pairwise_append.mp h
    obtain ⟨hentry, hrest⟩ := List.pairwise_cons.mp hdropped
    have hbefore : kept.filter (fun x => !x.isFor entry.file entry.flavor) = kept :=
      List.filter_eq_self.mpr fun x hx => by rw [hboth x hx entry (.head _)]; rfl
    have hafter : dropped.filter (fun x => !x.isFor entry.file entry.flavor) = dropped :=
      List.filter_eq_self.mpr fun x hx => by rw [isFor_comm, hentry x hx]; rfl
    have hevict : (kept ++ entry :: dropped).filter (fun x => !x.isFor entry.file entry.flavor) =
        kept ++ dropped := by
      rw [List.filter_append, List.filter_cons_of_neg (by rw [isFor_self]; simp), hbefore, hafter]
    rw [List.foldl_cons, evict, hevict]
    exact ih (List.pairwise_append.mpr
      ⟨hkept, hrest, fun x hx y hy => hboth x hx y (List.mem_cons_of_mem _ hy)⟩)

/-- A cache is trimmed by evictions. -/
theorem trim_eq_foldl_evict (h : cache.Distinct) :
    cache.trim = (cache.perFile.drop cache.options.capacity.toNat).foldl
      (fun cache entry => cache.evict entry.file entry.flavor) cache := by
  have hsplit := List.take_append_drop cache.options.capacity.toNat cache.perFile
  have hfold := foldl_evict cache (cache.perFile.take cache.options.capacity.toNat)
    (cache.perFile.drop cache.options.capacity.toNat)
  rw [hsplit] at hfold
  exact (hfold h).symm

end ScopeCache

/-! ### What a call does to the cells -/

namespace ScopeState

variable {s : ScopeState H}

theorem peek_cellOf (s : ScopeState H) (file : FileRef) (flavor : Flavor) :
    ((filePlace c file flavor).cell { s with cache := s.cache.ensure file flavor }).peek
      (c.stamp s.site) = (s.cellOf file flavor).peek (c.stamp s.site) :=
  congrArg (Cell.peek (c.stamp s.site)) (cell_ensured s file flavor)

/-- A fresh cell is served, and nothing else happens. -/
theorem scopeFor_of_isFresh (h : (s.cellOf file flavor).isFresh (c.stamp s.site) = true) :
    (scopeFor c (some file) flavor s).2 = s := by
  rw [Cell.isFresh_eq_isSome_peek] at h
  obtain ⟨scope, hpeek⟩ := Option.isSome_iff_exists.mp h
  rw [cellOf] at hpeek
  cases hcell : s.cache.cell? file flavor with
  | none => rw [hcell] at hpeek; cases hpeek
  | some cell =>
    rw [hcell] at hpeek
    exact congrArg Prod.snd (ScopeCache.Serves.served ⟨cell, hcell, hpeek⟩)

/-- A stale cell is filled with the stamps from before the computation. -/
theorem cache_scopeFor_of_stale (h : (s.cellOf file flavor).isFresh (c.stamp s.site) = false) :
    let computed := compute c file flavor { s with cache := s.cache.ensure file flavor }
    (scopeFor c (some file) flavor s).2.cache =
      computed.2.cache.setCell file flavor
        ((s.cellOf file flavor).store computed.1
          ((s.cellOf file flavor).capture (c.stamp s.site))) := by
  rw [Cell.isFresh_eq_isSome_peek, ← peek_cellOf, Option.isSome_eq_false_iff,
    Option.isNone_iff_eq_none] at h
  obtain ⟨entry, hfilled⟩ := scopeFor_of_stale h
  rw [hfilled, cell_ensured]

/-- The cell that is filled is the one that there is, or a new one if there is room for it. -/
theorem cell?_scopeFor_of_stale
    (h : (s.cellOf file flavor).isFresh (c.stamp s.site) = false) :
    ∃ scope, (scopeFor c (some file) flavor s).2.cache.cell? file flavor =
      ((s.cache.ensure file flavor).cell? file flavor).map fun _ =>
        (s.cellOf file flavor).store scope ((s.cellOf file flavor).capture (c.stamp s.site)) := by
  rw [cache_scopeFor_of_stale h]
  refine ⟨(compute c file flavor { s with cache := s.cache.ensure file flavor }).1,
    (ScopeCache.cell?_setCell_self _ _).trans ?_⟩
  rw [ScopeCache.cell?, perFile_compute]
  rfl

/-- A call for the scope of a file touches no other cell. -/
theorem cell?_scopeFor_of_ne (s : ScopeState H)
    (h : ¬ (file.same other = true ∧ flavor = flavor')) :
    (scopeFor c (some file) flavor s).2.cache.cell? other flavor' =
      s.cache.cell? other flavor' := by
  cases hfresh : (s.cellOf file flavor).isFresh (c.stamp s.site) with
  | true => rw [scopeFor_of_isFresh hfresh]
  | false =>
    rw [cache_scopeFor_of_stale hfresh, ScopeCache.cell?_setCell_of_ne _ _ h, ScopeCache.cell?,
      perFile_compute]
    exact s.cache.cell?_ensure_of_ne h

theorem distinct_scopeFor (h : s.cache.Distinct) (file : Option FileRef) (flavor : Flavor) :
    (scopeFor c file flavor s).2.cache.Distinct := by
  cases file with
  | none => exact h
  | some file =>
    cases hfresh : (s.cellOf file flavor).isFresh (c.stamp s.site) with
    | true => rw [scopeFor_of_isFresh hfresh]; exact h
    | false =>
      rw [cache_scopeFor_of_stale hfresh]
      refine ScopeCache.Distinct.setCell ?_ file flavor _
      rw [ScopeCache.Distinct, perFile_compute]
      exact h.ensure file flavor

end ScopeState

end SchemaEngine
