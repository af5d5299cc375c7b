import Mathlib.Algebra.Group.Nat.Defs
import SchemaEngine.Proofs.Memo.Moments
import SchemaEngine.Schema.Cache

/-!
# The maps of schemas

The map that is current is found by a sum of two stamps. Counted from some moment on, the sum has
advanced by as much as the two stamps together, as long as that does not come to 2⁶⁴; so a map whose
recorded sum is the present one was begun when nothing had advanced further than now.

## Main definitions

* `Collaborators.advance`: how far the two stamps advance from one site to another.
* `SchemaState.Counted`: the invariant of the maps, with the advance at which each was begun.
* `SchemaCache.Thinned`, `SchemaCache.Retains`: entries of maps are dropped, and none of them is.

## Main results

* `SchemaState.currentMap_spec`: the current map was begun at the present advance.
* `SchemaCache.mem_entries_publish`, `SchemaCache.publish_eq`: what publishing does to the entries.
-/

set_option autoImplicit false

namespace SchemaEngine

/-! ### Lists -/

theorem getElem?_append_singleton {α : Type} {xs : List α} {x y : α} {m : Nat}
    (h : (xs ++ [y])[m]? = some x) : xs[m]? = some x ∨ m = xs.length ∧ x = y := by
  rcases Nat.lt_trichotomy m xs.length with hlt | rfl | hgt
  · rw [List.getElem?_append_left hlt] at h
    exact .inl h
  · rw [List.getElem?_concat_length] at h
    exact .inr ⟨rfl, (Option.some.inj h).symm⟩
  · rw [List.getElem?_eq_none (by simp; omega)] at h
    cases h

theorem getElem?_modify_cases {α : Type} {xs : List α} {k j : Nat} {f : α → α} {y : α}
    (h : (xs.modify k f)[j]? = some y) :
    j ≠ k ∧ xs[j]? = some y ∨ j = k ∧ ∃ x, xs[k]? = some x ∧ y = f x := by
  rw [List.getElem?_modify] at h
  by_cases hk : k = j
  · subst hk
    simp only [↓reduceIte, Option.map_eq_map, Option.map_eq_some_iff] at h
    obtain ⟨x, hx, hy⟩ := h
    exact .inr ⟨rfl, x, hx, hy.symm⟩
  · exact .inl ⟨fun hj => hk hj.symm, by simpa [hk] using h⟩

theorem mem_modify_cases {α : Type} {xs : List α} {k : Nat} {f : α → α} {y : α}
    (h : y ∈ xs.modify k f) : y ∈ xs ∨ ∃ x, xs[k]? = some x ∧ y = f x := by
  obtain ⟨j, hj⟩ := List.mem_iff_getElem?.mp h
  rcases getElem?_modify_cases hj with ⟨-, hold⟩ | ⟨-, x, hx, hy⟩
  · exact .inl (List.mem_of_getElem? hold)
  · exact .inr ⟨x, hx, hy⟩

theorem modify_concat_length {α : Type} (xs : List α) (x : α) (f : α → α) :
    (xs ++ [x]).modify xs.length f = xs ++ [f x] := by
  induction xs with
  | nil => rfl
  | cons y ys ih => exact congrArg (y :: ·) ih

/-! ### The advance of stamps -/

/-- The source that the maps depend on. -/
def mapSource : Source Dependency :=
  .combined [.single .configuration, .single .fileStructure]

namespace Collaborators

variable {H : Type} (c : Collaborators H)

/-- How far configuration and file structure advance together from one site to another. A stamp that
wraps on its way has advanced by the way it made. -/
def advance (x y : Site H) : Nat :=
  (c.stamp y .configuration - c.stamp x .configuration).toNat +
    (c.stamp y .fileStructure - c.stamp x .fileStructure).toNat

theorem advance_of_stamp_eq {x y : Site H} (h : c.stamp y = c.stamp x) : c.advance x y = 0 := by
  simp [advance, h]

@[simp]
theorem advance_self (x : Site H) : c.advance x x = 0 :=
  c.advance_of_stamp_eq rfl

/-- The sum of the two stamps advances by as much as they do. -/
theorem stamp_mapSource (x y : Site H) :
    mapSource.stamp (c.stamp y) =
      mapSource.stamp (c.stamp x) + UInt64.ofNat (c.advance x y) := by
  simp only [mapSource, Source.stamp, Source.stampSum, advance, UInt64.ofNat_add,
    UInt64.ofNat_toNat]
  grind

/-- Where nothing advances both stamps stay. -/
theorem stamp_eq_of_advance_eq_zero {x y : Site H} (h : c.advance x y = 0) :
    c.stamp y .configuration = c.stamp x .configuration ∧
      c.stamp y .fileStructure = c.stamp x .fileStructure := by
  have hzero : ∀ a b : Stamp, (a - b).toNat = 0 → a = b := by
    intro a b hab
    have hdiff : a - b = 0 := UInt64.toNat_inj.mp hab
    rw [← UInt64.sub_add_cancel a b, hdiff, UInt64.zero_add]
  simp only [advance, Nat.add_eq_zero_iff] at h
  exact ⟨hzero _ _ h.1, hzero _ _ h.2⟩

end Collaborators

/-- Less than 2⁶⁴ apart, no two advances come to the same sum. -/
theorem advance_inj {base : Stamp} {a b : Nat} (ha : a < 2 ^ 64) (hb : b < 2 ^ 64)
    (h : base + UInt64.ofNat a = base + UInt64.ofNat b) : a = b := by
  have hcongr : a % 2 ^ 64 = b % 2 ^ 64 := by
    have := congrArg UInt64.toNat (UInt64.add_right_inj base |>.mp h)
    simpa using this
  rwa [Nat.mod_eq_of_lt ha, Nat.mod_eq_of_lt hb] at hcongr

/-! ### The entries of maps -/

namespace SchemaCache

variable {cache : SchemaCache} {map m : Nat} {scope : Scope} {info : SchemaInfo}
  {entry : ScopedSchema}

/-- What a map holds for a scope is an entry for that scope. -/
theorem mem_of_lookup? (h : cache.lookup? map scope = some info) :
    ∃ entry ∈ cache.entries map, entry.scope.same scope = true ∧ entry.info = info := by
  simp only [lookup?, find?, Option.map_eq_some_iff] at h
  obtain ⟨entry, hfind, hinfo⟩ := h
  have hsame := List.find?_some (p := fun entry : ScopedSchema => entry.scope.same scope) hfind
  exact ⟨entry, List.mem_of_find?_eq_some hfind, hsame, hinfo⟩

/-- What is returned where an outcome is published: the outcome, or what the map held before. -/
theorem publish_eq (map : Nat) (scope : Scope) (info : SchemaInfo) (cache : SchemaCache) :
    (cache.publish map scope info).1 = info ∨
      cache.lookup? map scope = some (cache.publish map scope info).1 := by
  unfold publish
  split
  · rename_i first hfirst
    exact .inr hfirst
  · split <;> exact .inl rfl

/-- Publishing adds an entry to the map at most. -/
theorem mem_entries_publish (h : entry ∈ (cache.publish map scope info).2.entries m) :
    entry ∈ cache.entries m ∨ m = map ∧ entry = ⟨scope, info⟩ := by
  unfold publish at h
  split at h
  · exact .inl h
  split at h
  · exact .inl h
  simp only [entries, List.getElem?_modify] at h ⊢
  cases hmap : cache.maps[m]? with
  | none => simp [hmap] at h
  | some old =>
    by_cases hm : map = m
    · simp only [hmap, hm, ↓reduceIte, Option.map_eq_map, Option.map_some, Option.getD_some,
        List.mem_append, List.mem_singleton] at h
      exact h.imp_right fun hentry => ⟨hm.symm, hentry⟩
    · simp only [hmap, hm, ↓reduceIte, Option.map_eq_map, Option.map_some, Option.getD_some] at h
      exact .inl h

/-- Publishing leaves all but the entries as it is. -/
theorem publish_same (map : Nat) (scope : Scope) (info : SchemaInfo) (cache : SchemaCache) :
    (cache.publish map scope info).2.current = cache.current ∧
      (cache.publish map scope info).2.lastBuildId = cache.lastBuildId ∧
      (cache.publish map scope info).2.maps.length = cache.maps.length := by
  unfold publish
  split
  · exact ⟨rfl, rfl, rfl⟩
  · split
    · exact ⟨rfl, rfl, rfl⟩
    · exact ⟨rfl, rfl, List.length_modify ..⟩

/-- Entries of maps are dropped, and nothing else happens. -/
structure Thinned (kept cache : SchemaCache) : Prop where
  current : kept.current = cache.current
  lastBuildId : kept.lastBuildId = cache.lastBuildId
  length : kept.maps.length = cache.maps.length
  entries : ∀ m, kept.entries m ⊆ cache.entries m

theorem Thinned.refl (cache : SchemaCache) : cache.Thinned cache :=
  ⟨rfl, rfl, rfl, fun _ => List.Subset.refl _⟩

/-- Trimming a map to its capacity drops entries. -/
theorem thinned_trim (map : Nat) (cache : SchemaCache) : (cache.trim map).Thinned cache := by
  refine ⟨rfl, rfl, List.length_modify .., fun m entry hentry => ?_⟩
  simp only [entries, trim, List.getElem?_modify] at hentry ⊢
  cases hmap : cache.maps[m]? with
  | none => simp [hmap] at hentry
  | some old =>
    by_cases hm : map = m
    · simp only [hmap, hm, ↓reduceIte, Option.map_eq_map, Option.map_some, Option.getD_some]
        at hentry
      exact List.mem_of_mem_take hentry
    · simpa [hmap, hm] using hentry

/-- No entry of any map is dropped. -/
structure Retains (before after : SchemaCache) : Prop where
  entries : ∀ m, (before.entries m).Sublist (after.entries m)
  capacity : after.capacity = before.capacity

theorem Retains.refl (cache : SchemaCache) : cache.Retains cache :=
  ⟨fun _ => .refl _, rfl⟩

theorem Retains.trans {before between after : SchemaCache} (h : before.Retains between)
    (h' : between.Retains after) : before.Retains after :=
  ⟨fun m => (h.entries m).trans (h'.entries m), h'.capacity.trans h.capacity⟩

/-- Publishing drops nothing. -/
theorem retains_publish (map : Nat) (scope : Scope) (info : SchemaInfo) (cache : SchemaCache) :
    cache.Retains (cache.publish map scope info).2 := by
  unfold publish
  split
  · exact .refl cache
  · split
    · exact .refl cache
    · refine ⟨fun m => ?_, rfl⟩
      simp only [entries, List.getElem?_modify]
      cases cache.maps[m]? with
      | none => exact .refl _
      | some old => by_cases hm : map = m <;> simp [hm]

end SchemaCache

/-! ### The current map -/

namespace SchemaState

variable {H : Type} {c : Collaborators H} {base : Stamp} {births : List Nat} {elapsed : Nat}
  {s : SchemaState H}

/-- The invariant of the maps, for the advance at which each of them was begun and the advance up to
now: the sums that are recorded and the present one have come as far as that. -/
structure Counted (c : Collaborators H) (base : Stamp) (births : List Nat) (elapsed : Nat)
    (s : SchemaState H) : Prop where
  stamp : mapSource.stamp (c.stamp s.site) = base + UInt64.ofNat elapsed
  length : s.schemas.maps.length = births.length
  born : ∀ birth ∈ births, birth ≤ elapsed
  dependencies : s.schemas.current.dependencies = [mapSource]
  current : ∀ memo, s.schemas.current.slot = some memo →
    ∃ birth, births[memo.value]? = some birth ∧
      memo.stamps = ⟨[(mapSource, base + UInt64.ofNat birth)]⟩

/-- What happens to entries and numbers does not bear on the count; stamps may move too. -/
theorem Counted.of_same (h : s.Counted c base births elapsed) {t : SchemaState H}
    (hcurrent : t.schemas.current = s.schemas.current)
    (hlength : t.schemas.maps.length = s.schemas.maps.length) :
    t.Counted c base births (elapsed + c.advance s.site t.site) where
  stamp := by
    rw [c.stamp_mapSource s.site t.site, h.stamp, UInt64.ofNat_add, UInt64.add_assoc]
  length := hlength.trans h.length
  born birth hbirth := Nat.le_trans (h.born birth hbirth) (Nat.le_add_right _ _)
  dependencies := hcurrent ▸ h.dependencies
  current := hcurrent ▸ h.current

theorem Counted.of_same_site (h : s.Counted c base births elapsed) {t : SchemaState H}
    (hcurrent : t.schemas.current = s.schemas.current)
    (hlength : t.schemas.maps.length = s.schemas.maps.length) (hsite : t.site = s.site) :
    t.Counted c base births elapsed := by
  have hcounted := h.of_same hcurrent hlength
  rwa [hsite, c.advance_self] at hcounted

/-- Only maps that were begun have entries. -/
theorem Counted.born_of_entry (h : s.Counted c base births elapsed) {m : Nat} {entry : ScopedSchema}
    (hentry : entry ∈ s.schemas.entries m) : ∃ birth, births[m]? = some birth := by
  cases hbirth : births[m]? with
  | some birth => exact ⟨birth, rfl⟩
  | none =>
    have hmap : s.schemas.maps[m]? = none := by
      rw [List.getElem?_eq_none_iff, h.length]
      exact List.getElem?_eq_none_iff.mp hbirth
    simp [SchemaCache.entries, hmap] at hentry

/-- A cache that is new has no maps. -/
theorem counted_new (site : Site H) (hsite : s.site = site) (capacity : UInt64)
    (hschemas : s.schemas = { capacity := capacity }) :
    s.Counted c (mapSource.stamp (c.stamp site)) [] 0 := by
  refine ⟨by simp [hsite], by rw [hschemas]; rfl, by simp, by rw [hschemas]; rfl, ?_⟩
  intro memo hmemo
  rw [hschemas] at hmemo
  cases hmemo

/-- What is known of a map that has just been entered, and of the state in which it was. -/
structure Entered (c : Collaborators H) (base : Stamp) (births : List Nat) (elapsed : Nat)
    (s : SchemaState H) (births' : List Nat) (map : Nat) (t : SchemaState H) : Prop where
  counted : t.Counted c base births' elapsed
  fresh : births'[map]? = some elapsed
  kept : ∀ (m birth : Nat), births[m]? = some birth → births'[m]? = some birth
  stamps : c.stamp t.site = c.stamp s.site
  scopes : t.scopes.cache = s.scopes.cache
  lastBuildId : t.schemas.lastBuildId = s.schemas.lastBuildId
  entries : ∀ (m birth : Nat), births'[m]? = some birth → ∀ entry ∈ t.schemas.entries m,
    births[m]? = some birth ∧ entry ∈ s.schemas.entries m

/-- A map is fresh only while nothing has advanced since it was begun. -/
theorem Counted.fresh_of_peek (h : s.Counted c base births elapsed) (hbound : elapsed < 2 ^ 64)
    {map : Nat} (hpeek : s.schemas.current.peek (c.stamp s.site) = some map) :
    births[map]? = some elapsed := by
  obtain ⟨memo, hmemo, hcurrent, rfl⟩ := Cell.slot_of_peek hpeek
  obtain ⟨birth, hbirth, hstamps⟩ := h.current memo hmemo
  have hsum : base + UInt64.ofNat elapsed = base + UInt64.ofNat birth := by
    simpa [Snapshot.isCurrent, hstamps, h.stamp] using hcurrent
  have hle := h.born birth (List.mem_of_getElem? hbirth)
  rw [hbirth, advance_inj hbound (Nat.lt_of_le_of_lt hle hbound) hsum]

/-- The state in which an empty map was begun in place of a stale one. -/
theorem Counted.startMap (h : s.Counted c base births elapsed) {site : Site H}
    (hsite : c.stamp site = c.stamp s.site) :
    Entered c base births elapsed s (births ++ [elapsed]) s.schemas.maps.length
      { schemas :=
          { s.schemas with
            maps := s.schemas.maps ++ [[]]
            current := s.schemas.current.store s.schemas.maps.length
              (s.schemas.current.capture (c.stamp s.site)) }
        scopes := { s.scopes with site := site } } where
  counted :=
    { stamp := by rw [← h.stamp, ← hsite]; rfl
      length := by simp [h.length]
      born := by
        intro birth hbirth
        rcases List.mem_append.mp hbirth with hold | hnew
        · exact h.born birth hold
        · exact Nat.le_of_eq (List.mem_singleton.mp hnew)
      dependencies := h.dependencies
      current := by
        intro memo hmemo
        obtain rfl := Option.some.inj hmemo
        refine ⟨elapsed, by rw [h.length, List.getElem?_concat_length], ?_⟩
        simp only [Cell.capture, h.dependencies, Snapshot.capture, List.map_cons, List.map_nil,
          h.stamp] }
  fresh := by rw [h.length, List.getElem?_concat_length]
  kept m birth hm := by
    rw [List.getElem?_append_left (List.getElem?_eq_some_iff.mp hm).1, hm]
  stamps := hsite
  scopes := rfl
  lastBuildId := rfl
  entries := by
    intro m birth hm entry hentry
    rcases getElem?_append_singleton hm with hold | ⟨rfl, -⟩
    · have hlt : m < s.schemas.maps.length := h.length ▸ (List.getElem?_eq_some_iff.mp hold).1
      simp only [SchemaCache.entries, List.getElem?_append_left hlt] at hentry
      exact ⟨hold, hentry⟩
    · simp [SchemaCache.entries, ← h.length] at hentry

/-- Entering the current map begins no build, touches no scope and asks nobody. -/
theorem currentMap_same (s : SchemaState H) :
    (s.currentMap c).2.schemas.lastBuildId = s.schemas.lastBuildId ∧
      (s.currentMap c).2.scopes.cache = s.scopes.cache ∧
      (s.currentMap c).2.site.host = s.site.host := by
  unfold currentMap
  cases hpeek : ((mapPlace c).cell s).peek ((mapPlace c).read s) with
  | some map => rw [Place.get_of_fresh _ _ _ hpeek]; exact ⟨rfl, rfl, rfl⟩
  | none => rw [Place.get_of_stale _ _ _ hpeek]; exact ⟨rfl, rfl, rfl⟩

/-- Entering the current map drops nothing. -/
theorem retains_currentMap (s : SchemaState H) :
    s.schemas.Retains (s.currentMap c).2.schemas := by
  unfold currentMap
  cases hpeek : ((mapPlace c).cell s).peek ((mapPlace c).read s) with
  | some map =>
    rw [Place.get_of_fresh _ _ _ hpeek]
    exact .refl _
  | none =>
    rw [Place.get_of_stale _ _ _ hpeek]
    refine ⟨fun m => ?_, rfl⟩
    rcases Nat.lt_or_ge m s.schemas.maps.length with hlt | hge
    · simp [SchemaCache.entries, mapPlace, startMap, note, withSite,
        List.getElem?_append_left hlt]
    · simp [SchemaCache.entries, List.getElem?_eq_none hge]

/-- The current map was begun at the present advance: it is fresh, or it is a new one. -/
theorem currentMap_spec (h : s.Counted c base births elapsed) (hbound : elapsed < 2 ^ 64) :
    ∃ births', Entered c base births elapsed s births' (currentMap c s).1 (currentMap c s).2 := by
  unfold currentMap
  cases hpeek : s.schemas.current.peek (c.stamp s.site) with
  | some map =>
    rw [Place.get_of_fresh (mapPlace c) startMap s hpeek]
    exact ⟨births, h, h.fresh_of_peek hbound hpeek, fun _ _ hm => hm, rfl, rfl, rfl,
      fun _ _ hm _ hentry => ⟨hm, hentry⟩⟩
  | none =>
    rw [Place.get_of_stale (mapPlace c) startMap s hpeek]
    exact ⟨births ++ [elapsed], h.startMap (funext fun d => by cases d <;> rfl)⟩

end SchemaState

end SchemaEngine
