import SchemaEngine.Proofs.Schema.Maps
import SchemaEngine.Proofs.Scope.Transparency

/-!
# When scopes were looked up

The stamps in the cell of a file were recorded when the scope of the file was looked up. Told by how
far the stamps of the project have advanced since the beginning, a scope that was not looked up
again since the last advance is therefore computed anew.

## Main definitions

* `Lookup`: a call for the scope of a file, and when it began.
* `ScopeCache.Dated`: the stamps of every cell were recorded at a lookup.

## Main results

* `ScopeState.dated_scopeFor`: a call keeps this true.
* `CellDated.peek_eq_none`: a scope that was not looked up since the last advance is stale.
-/

set_option autoImplicit false

namespace SchemaEngine

/-- A call for the scope of a file. -/
structure Lookup where
  file : FileRef
  flavor : Flavor
  /-- The advance at which it began. -/
  opened : Nat

variable {H : Type}

/-- The stamps of a cell were recorded at a lookup of its file and flavor, where `base` is the sum
of the stamps of the project at the beginning. -/
def CellDated (c : Collaborators H) (base : Stamp) (lookups : List Lookup) (file : FileRef)
    (flavor : Flavor) (cell : Cell Dependency Scope) : Prop :=
  ∃ spelled, cell.dependencies = (fileSources spelled).map .single ∧
    ∀ memo, cell.slot = some memo → ∃ lookup ∈ lookups, lookup.file.same file = true ∧
      lookup.flavor = flavor ∧ ∃ origin : Site H,
        mapSource.stamp (c.stamp origin) = base + UInt64.ofNat lookup.opened ∧
          memo.stamps = .capture (c.stamp origin) ((fileSources spelled).map .single)

/-- The stamps of every cell were recorded at a lookup. -/
def ScopeCache.Dated (c : Collaborators H) (base : Stamp) (lookups : List Lookup)
    (cache : ScopeCache) : Prop :=
  ∀ entry ∈ cache.perFile, CellDated c base lookups entry.file entry.flavor entry.cell

variable {c : Collaborators H} {base : Stamp} {lookups : List Lookup} {file : FileRef}
  {flavor : Flavor} {cell : Cell Dependency Scope} {cache : ScopeCache}

theorem CellDated.mono (h : CellDated c base lookups file flavor cell) {more : List Lookup}
    (hmore : lookups ⊆ more) : CellDated c base more file flavor cell := by
  obtain ⟨spelled, hdependencies, hmemo⟩ := h
  refine ⟨spelled, hdependencies, fun memo hslot => ?_⟩
  obtain ⟨lookup, hlookup, hrest⟩ := hmemo memo hslot
  exact ⟨lookup, hmore hlookup, hrest⟩

/-- The cell of a file is the cell of each of its spellings. -/
theorem CellDated.of_same (h : CellDated c base lookups file flavor cell) {file' : FileRef}
    (hsame : file.same file' = true) : CellDated c base lookups file' flavor cell := by
  obtain ⟨spelled, hdependencies, hmemo⟩ := h
  refine ⟨spelled, hdependencies, fun memo hslot => ?_⟩
  obtain ⟨lookup, hlookup, hfile, hrest⟩ := hmemo memo hslot
  exact ⟨lookup, hlookup, FileRef.same_trans hfile hsame, hrest⟩

theorem cellDated_newCell : CellDated c base lookups file flavor (ScopeCache.newCell file) :=
  ⟨file, rfl, fun _ hslot => by cases hslot⟩

/-- While its file was not looked up since, a cell is stale once the stamps have advanced. -/
theorem CellDated.peek_eq_none (h : CellDated c base lookups file flavor cell) {site : Site H}
    {now : Nat} (hnow : mapSource.stamp (c.stamp site) = base + UInt64.ofNat now)
    (hbound : now < 2 ^ 64)
    (hlookups : ∀ lookup ∈ lookups, lookup.file.same file = true → lookup.flavor = flavor →
      lookup.opened < now) : cell.peek (c.stamp site) = none := by
  obtain ⟨spelled, -, hmemo⟩ := h
  unfold Cell.peek
  split
  case h_2 => rfl
  rename_i memo hslot
  obtain ⟨lookup, hlookup, hfile, hflavor, origin, hopened, hstamps⟩ := hmemo memo hslot
  have hbefore := hlookups lookup hlookup hfile hflavor
  split
  case isFalse => rfl
  rename_i hcurrent
  -- The recorded stamps of the project add up to an earlier advance than the present ones.
  rw [hstamps] at hcurrent
  have hagree := (Snapshot.isCurrent_capture.mp hcurrent).project
  have hsum : mapSource.stamp (c.stamp site) = mapSource.stamp (c.stamp origin) := by
    simp only [mapSource, Source.stamp, Source.stampSum, hagree .configuration (.head _),
      hagree .fileStructure (.tail _ (.head _))]
  rw [hnow, hopened] at hsum
  have hsame := advance_inj hbound (Nat.lt_trans hbefore hbound) hsum
  exact absurd hsame (Nat.ne_of_gt hbefore)

namespace ScopeCache

theorem Dated.mono (h : cache.Dated c base lookups) {more : List Lookup} (hmore : lookups ⊆ more) :
    cache.Dated c base more :=
  fun entry hentry => (h entry hentry).mono hmore

theorem Dated.of_perFile_subset (h : cache.Dated c base lookups) {cache' : ScopeCache}
    (hkept : cache'.perFile ⊆ cache.perFile) : cache'.Dated c base lookups :=
  fun entry hentry => h entry (hkept hentry)

theorem Dated.ensure (h : cache.Dated c base lookups) :
    (cache.ensure file flavor).Dated c base lookups := by
  unfold ScopeCache.ensure
  split
  · exact h
  split
  · exact h
  intro entry hentry
  rcases List.mem_append.mp hentry with hold | hnew
  · exact h entry hold
  · obtain rfl := List.mem_singleton.mp hnew
    exact cellDated_newCell

theorem Dated.cellDated (h : cache.Dated c base lookups) (file : FileRef) (flavor : Flavor) :
    CellDated c base lookups file flavor ((cache.cell? file flavor).getD (newCell file)) := by
  unfold cell?
  cases hfind : cache.perFile.find? fun entry => entry.isFor file flavor with
  | none => exact cellDated_newCell
  | some entry =>
    have hfor : entry.isFor file flavor = true :=
      List.find?_some (p := fun entry : FileScope => entry.isFor file flavor) hfind
    rw [FileScope.isFor, Bool.and_eq_true, beq_iff_eq] at hfor
    obtain ⟨hfile, rfl⟩ := hfor
    exact (h entry (List.mem_of_find?_eq_some hfind)).of_same hfile

theorem Dated.setCell (h : cache.Dated c base lookups)
    (hcell : CellDated c base lookups file flavor cell) :
    (cache.setCell file flavor cell).Dated c base lookups := by
  intro entry hentry
  obtain ⟨old, hold, rfl⟩ := List.mem_map.mp hentry
  split
  · rename_i hfor
    rw [FileScope.isFor, Bool.and_eq_true, beq_iff_eq] at hfor
    obtain ⟨hfile, rfl⟩ := hfor
    exact hcell.of_same (FileRef.same_symm hfile)
  · exact h old hold

end ScopeCache

namespace ScopeState

variable {s : ScopeState H} {now : Nat}

/-- A call for the scope of a file dates its cell. -/
theorem dated_scopeFor (h : s.cache.Dated c base lookups)
    (hnow : mapSource.stamp (c.stamp s.site) = base + UInt64.ofNat now) (file : FileRef)
    (flavor : Flavor) :
    (scopeFor c (some file) flavor s).2.cache.Dated c base (⟨file, flavor, now⟩ :: lookups) := by
  let ensured : ScopeState H := { s with cache := s.cache.ensure file flavor }
  have hensured : ensured.cache.Dated c base (⟨file, flavor, now⟩ :: lookups) :=
    h.ensure.mono (List.subset_cons_self _ _)
  cases hpeek : ((filePlace c file flavor).cell ensured).peek (c.stamp s.site) with
  | some scope =>
    rw [scopeFor_of_fresh hpeek]
    exact hensured
  | none =>
    obtain ⟨entry, hfilled⟩ := scopeFor_of_stale hpeek
    have hperFile : (compute c file flavor ensured).2.cache.perFile = ensured.cache.perFile :=
      perFile_compute ensured
    have hcomputed : (compute c file flavor ensured).2.cache.Dated c base
        (⟨file, flavor, now⟩ :: lookups) :=
      hensured.of_perFile_subset (by rw [hperFile]; exact List.Subset.refl _)
    obtain ⟨spelled, hdependencies, -⟩ := hensured.cellDated file flavor
    have hstamps : ((filePlace c file flavor).cell ensured).capture (c.stamp s.site) =
        .capture (c.stamp s.site) ((fileSources spelled).map .single) :=
      congrArg (Snapshot.capture (c.stamp s.site)) hdependencies
    rw [hfilled]
    refine hcomputed.setCell ⟨spelled, hdependencies, fun memo hmemo => ?_⟩
    obtain rfl := Option.some.inj hmemo
    exact ⟨_, .head _, file.same_refl, rfl, s.site, hnow, hstamps⟩

end ScopeState

end SchemaEngine
