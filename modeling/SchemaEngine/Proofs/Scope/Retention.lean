import SchemaEngine.Proofs.Scope.Transparency

/-!
# Scopes that are kept

The cell of a file is filled when the scope of the file is asked for. As long as the cell is not
dropped and its stamps are current it is served, whoever asks for which scopes meanwhile.

## Main definitions

* `ScopeCache.Serves`: a cache holds a scope for a file, and it is fresh.

## Main results

* `ScopeState.serves_scopeFor`: a scope that was asked for is held from then on.
* `ScopeCache.Serves.scopeFor`: it is held whatever is asked for next.
* `ScopeCache.Serves.served`: it is what is served.
* `ScopeState.length_perFile_scopeFor`: asking for a scope drops no cell.
-/

set_option autoImplicit false

namespace SchemaEngine

variable {H : Type} {c : Collaborators H} {file file' : FileRef} {flavor flavor' : Flavor}

theorem FileScope.isFor_congr (entry : FileScope) (h : file.same file' = true) :
    entry.isFor file flavor = entry.isFor file' flavor := by
  rw [isFor, isFor, FileRef.same_congr_right h]

/-- The cell of one file and flavor is the cell of no other. -/
theorem FileScope.isFor_other {entry : FileScope} (h : entry.isFor file' flavor' = true)
    (hother : ¬ (file.same file' = true ∧ flavor = flavor')) : entry.isFor file flavor = false := by
  rw [isFor, Bool.and_eq_true, beq_iff_eq] at h
  rw [Bool.eq_false_iff, ne_eq, isFor, Bool.and_eq_true, beq_iff_eq]
  rintro ⟨hfile, hflavor⟩
  exact hother ⟨FileRef.same_trans (FileRef.same_symm hfile) h.1, hflavor.symm.trans h.2⟩

namespace ScopeCache

variable {cache : ScopeCache} {cell old : Cell Dependency Scope} {stamp : Dependency → Stamp}
  {scope : Scope}

theorem cell?_congr (h : file.same file' = true) :
    cache.cell? file flavor = cache.cell? file' flavor := by
  have hfor : (fun entry : FileScope => entry.isFor file flavor) =
      fun entry => entry.isFor file' flavor :=
    funext fun entry => entry.isFor_congr h
  rw [cell?, cell?, hfor]

/-- Replacing a cell replaces no other one, and makes none. -/
theorem cell?_setCell_eq_map (cache : ScopeCache) (cell : Cell Dependency Scope) :
    (cache.setCell file flavor cell).cell? file' flavor' =
      (cache.perFile.find? fun entry => entry.isFor file' flavor').map fun entry =>
        if entry.isFor file flavor then cell else entry.cell := by
  have hfor : ((fun entry : FileScope => entry.isFor file' flavor') ∘ fun entry : FileScope =>
      if entry.isFor file flavor then { entry with cell := cell } else entry) =
        fun entry => entry.isFor file' flavor' := by
    funext entry
    rw [Function.comp_apply]
    split <;> rfl
  simp only [cell?, setCell, List.find?_map, hfor, Option.map_map]
  refine Option.map_congr fun entry _ => ?_
  rw [Function.comp_apply]
  split <;> rfl

theorem cell?_setCell (h : cache.cell? file flavor = some old) :
    (cache.setCell file flavor cell).cell? file flavor = some cell := by
  obtain ⟨entry, hentry, -⟩ := Option.map_eq_some_iff.mp h
  have hfor : entry.isFor file flavor = true :=
    List.find?_some (p := fun entry : FileScope => entry.isFor file flavor) hentry
  rw [cell?_setCell_eq_map, hentry, Option.map_some, if_pos hfor]

theorem cell?_setCell_other (h : cache.cell? file' flavor' = some old)
    (hother : ¬ (file.same file' = true ∧ flavor = flavor')) :
    (cache.setCell file flavor cell).cell? file' flavor' = some old := by
  obtain ⟨entry, hentry, hcell⟩ := Option.map_eq_some_iff.mp h
  have hfor : entry.isFor file' flavor' = true :=
    List.find?_some (p := fun entry : FileScope => entry.isFor file' flavor') hentry
  rw [cell?_setCell_eq_map, hentry, Option.map_some, FileScope.isFor_other hfor hother, ← hcell]
  rfl

/-- Making a cell for a file leaves the others as they are. -/
theorem cell?_ensure (h : cache.cell? file' flavor' = some old) :
    (cache.ensure file flavor).cell? file' flavor' = some old := by
  unfold ensure
  split
  · exact h
  · split
    · exact h
    · obtain ⟨entry, hentry, hcell⟩ := Option.map_eq_some_iff.mp h
      simp [cell?, List.find?_append, hentry, hcell]

/-- Where there is room, the cell that is made for a file is a new one. -/
theorem cell?_ensure_new (hroom : cache.options.capacity ≠ 0)
    (hcell : cache.cell? file flavor = none) :
    (cache.ensure file flavor).cell? file flavor = some (newCell file) := by
  have hnone : (cache.perFile.find? fun entry => entry.isFor file flavor) = none := by
    simpa [cell?] using hcell
  have hnew : (⟨file, flavor, newCell file⟩ : FileScope).isFor file flavor = true := by
    simp [FileScope.isFor, FileRef.same_refl]
  have hensure : cache.ensure file flavor =
      { cache with perFile := cache.perFile ++ [⟨file, flavor, newCell file⟩] } := by
    simp only [ensure, hcell, hroom, ↓reduceIte]
  rw [hensure]
  simp only [cell?, List.find?_append, hnone, Option.none_or, List.find?_cons, hnew,
    Option.map_some]

/-- Where there is room, a file has a cell once one was made for it. -/
theorem exists_cell?_ensure (hroom : cache.options.capacity ≠ 0) (file : FileRef)
    (flavor : Flavor) : ∃ cell, (cache.ensure file flavor).cell? file flavor = some cell := by
  cases hcell : cache.cell? file flavor with
  | some cell => exact ⟨cell, cell?_ensure hcell⟩
  | none => exact ⟨newCell file, cell?_ensure_new hroom hcell⟩

/-- A cache holds a scope for a file, and it is fresh under the stamps. -/
def Serves (cache : ScopeCache) (stamp : Dependency → Stamp) (file : FileRef) (flavor : Flavor)
    (scope : Scope) : Prop :=
  ∃ cell, cache.cell? file flavor = some cell ∧ cell.peek stamp = some scope

end ScopeCache

namespace ScopeState

variable {s : ScopeState H} {scope : Scope}

/-- A scope that was asked for is held from then on, where there is room. -/
theorem serves_scopeFor (hroom : s.cache.options.capacity ≠ 0) :
    (scopeFor c (some file) flavor s).2.cache.Serves (c.stamp s.site) file flavor
      (scopeFor c (some file) flavor s).1 := by
  obtain ⟨cell, hcell⟩ := ScopeCache.exists_cell?_ensure hroom file flavor
  let ensured : ScopeState H := { s with cache := s.cache.ensure file flavor }
  have hplace : (filePlace c file flavor).cell ensured = cell := by
    simp only [filePlace, ensured, hcell, Option.getD_some]
  cases hpeek : ((filePlace c file flavor).cell ensured).peek (c.stamp s.site) with
  | some scope =>
    rw [scopeFor_of_fresh hpeek]
    exact ⟨cell, hcell, hplace ▸ hpeek⟩
  | none =>
    obtain ⟨entry, hfilled⟩ := scopeFor_of_stale hpeek
    have hcomputed : (compute c file flavor ensured).2.cache.cell? file flavor = some cell := by
      rw [ScopeCache.cell?, perFile_compute]
      exact hcell
    rw [hfilled]
    refine ⟨_, ScopeCache.cell?_setCell hcomputed, ?_⟩
    simp [Cell.peek, Cell.store, Cell.capture, Snapshot.capture, Snapshot.isCurrent]

end ScopeState

namespace ScopeCache

variable {s : ScopeState H} {scope : Scope}

/-- A scope that is held and fresh is what is served, and nothing else happens. -/
theorem Serves.served (h : s.cache.Serves (c.stamp s.site) file flavor scope) :
    ScopeState.scopeFor c (some file) flavor s = (scope, s) := by
  obtain ⟨cell, hcell, hpeek⟩ := h
  have hensure : s.cache.ensure file flavor = s.cache := by
    simp only [ensure, hcell]
  have hfresh : ((ScopeState.filePlace c file flavor).cell
      { s with cache := s.cache.ensure file flavor }).peek (c.stamp s.site) = some scope := by
    simp only [hensure, ScopeState.filePlace, hcell, Option.getD_some, hpeek]
  rw [ScopeState.scopeFor_of_fresh hfresh, hensure]

/-- A scope that is held and fresh is held whatever is asked for next. -/
theorem Serves.scopeFor (h : s.cache.Serves (c.stamp s.site) file flavor scope)
    (file' : Option FileRef) (flavor' : Flavor) :
    (ScopeState.scopeFor c file' flavor' s).2.cache.Serves (c.stamp s.site) file flavor scope := by
  obtain ⟨cell, hcell, hpeek⟩ := h
  cases file' with
  | none => exact ⟨cell, hcell, hpeek⟩
  | some file' =>
    let ensured : ScopeState H := { s with cache := s.cache.ensure file' flavor' }
    have hensured : ensured.cache.cell? file flavor = some cell := cell?_ensure hcell
    refine ⟨cell, ?_, hpeek⟩
    cases hfresh : ((ScopeState.filePlace c file' flavor').cell ensured).peek (c.stamp s.site) with
    | some scope' =>
      rw [ScopeState.scopeFor_of_fresh hfresh]
      exact hensured
    | none =>
      obtain ⟨entry, hfilled⟩ := ScopeState.scopeFor_of_stale hfresh
      have hcomputed : (ScopeState.compute c file' flavor' ensured).2.cache.cell? file flavor =
          some cell := by
        rw [cell?, ScopeState.perFile_compute]
        exact hensured
      rw [hfilled]
      refine cell?_setCell_other hcomputed ?_
      -- The cell that is filled is stale, so it is not the one that is held.
      rintro ⟨hsame, rfl⟩
      have hplace : (ScopeState.filePlace c file' flavor').cell ensured = cell := by
        simp only [ScopeState.filePlace, cell?_congr hsame, hensured, Option.getD_some]
      rw [hplace, hpeek] at hfresh
      cases hfresh

end ScopeCache

/-- Asking for a scope drops no cell. -/
theorem ScopeState.length_perFile_scopeFor (s : ScopeState H) (file : Option FileRef)
    (flavor : Flavor) :
    s.cache.perFile.length ≤ (scopeFor c file flavor s).2.cache.perFile.length := by
  cases file with
  | none => exact Nat.le_refl _
  | some file =>
    let ensured : ScopeState H := { s with cache := s.cache.ensure file flavor }
    have hensured : s.cache.perFile.length ≤ ensured.cache.perFile.length := by
      change s.cache.perFile.length ≤ (s.cache.ensure file flavor).perFile.length
      unfold ScopeCache.ensure
      split
      · exact Nat.le_refl _
      · split <;> simp
    cases hpeek : ((filePlace c file flavor).cell ensured).peek (c.stamp s.site) with
    | some scope =>
      rw [scopeFor_of_fresh hpeek]
      exact hensured
    | none =>
      obtain ⟨entry, hfilled⟩ := scopeFor_of_stale hpeek
      rw [hfilled]
      simp only [ScopeCache.setCell, List.length_map, perFile_compute]
      exact hensured

end SchemaEngine
