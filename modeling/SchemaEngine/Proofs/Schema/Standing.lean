import SchemaEngine.Proofs.Schema.Publication

/-!
# The current map while the stamps stand

As long as neither of the two stamps moves that the maps depend on, the map that is current stays
so, and every call that begins enters it. What is held then changes only where a call publishes, and
a call that has begun meanwhile publishes into that map, under a number that is new.

## Main definitions

* `SchemaState.held?`: the schema that is held for a scope.
* `SchemaCache.Guarded`: the current map depends on the two stamps.
* `Traffic.Publishes`, `Traffic.Published`: a call publishes a schema for a scope.
* `Traffic.Recent`: calls that have begun since a moment build for the current map.

## Main results

* `Traffic.Step.freshMap`, `Traffic.Run.freshMap`: the current map stays current.
* `Traffic.Step.recent`, `Traffic.Run.recent`: later calls build for it, under new numbers.
* `Traffic.Steady.lookup?_cases`: what a map holds was held before, or has been published since.
* `Dialogue.Told.held?_iff`: what is held after a call was held before, or was published meanwhile.
-/

set_option autoImplicit false

namespace SchemaEngine

/-! ### The current map -/

/-- The current map depends on the sum of two stamps, and on nothing else. -/
structure SchemaCache.Guarded (cache : SchemaCache) : Prop where
  dependencies : cache.current.dependencies = [mapSource]
  recorded : ∀ memo, cache.current.slot = some memo → ∃ stamp, memo.stamps = ⟨[(mapSource, stamp)]⟩

theorem SchemaCache.guarded_new (capacity : UInt64) :
    ({ capacity := capacity } : SchemaCache).Guarded where
  dependencies := rfl
  recorded memo hmemo := by cases hmemo

theorem SchemaCache.Guarded.of_current {cache cache' : SchemaCache} (h : cache.Guarded)
    (hcurrent : cache'.current = cache.current) : cache'.Guarded :=
  ⟨hcurrent ▸ h.dependencies, hcurrent ▸ h.recorded⟩

namespace SchemaState

variable {H : Type} {c : Collaborators H} {s t : SchemaState H} {context : Option FileRef}
  {scope : Scope} {m : Nat}

/-- The schema that is held for a scope, unless the current map is stale. -/
def held? (c : Collaborators H) (scope : Scope) (s : SchemaState H) : Option SchemaInfo :=
  (s.freshMap c).bind fun map => s.schemas.lookup? map scope

/-- The current map is the same as long as neither of the two stamps moves. -/
theorem freshMap_of_still (h : s.schemas.Guarded) (hcurrent : t.schemas.current = s.schemas.current)
    (hstill : c.advance s.site t.site = 0) : t.freshMap c = s.freshMap c := by
  have hsum : mapSource.stamp (c.stamp t.site) = mapSource.stamp (c.stamp s.site) := by
    rw [c.stamp_mapSource s.site t.site, hstill]
    exact UInt64.add_zero _
  unfold freshMap Cell.peek
  rw [hcurrent]
  cases hslot : s.schemas.current.slot with
  | none => rfl
  | some memo =>
    obtain ⟨stamp, hstamps⟩ := h.recorded memo hslot
    simp only [hstamps, Snapshot.isCurrent, List.all_cons, List.all_nil, hsum]

/-- The map that is entered is current from then on. -/
theorem freshMap_currentMap (s : SchemaState H) :
    (s.currentMap c).2.freshMap c = some (s.currentMap c).1 := by
  cases hfresh : s.freshMap c with
  | some map =>
    rw [currentMap_of_fresh hfresh]
    exact hfresh
  | none =>
    have hmap : s.currentMap c = _ := Place.get_of_stale (mapPlace c) startMap s hfresh
    have hstamps : c.stamp (s.currentMap c).2.site = c.stamp s.site := by
      rw [hmap]
      funext d
      cases d <;> rfl
    have hslot : (s.currentMap c).2.schemas.current.slot =
        some ⟨(s.currentMap c).1, s.schemas.current.capture (c.stamp s.site)⟩ := by
      rw [hmap]
      rfl
    simp [freshMap, Cell.peek, hslot, hstamps, Cell.capture, Snapshot.capture, Snapshot.isCurrent]

theorem guarded_currentMap (h : s.schemas.Guarded) : (s.currentMap c).2.schemas.Guarded := by
  cases hfresh : s.freshMap c with
  | some map =>
    rw [currentMap_of_fresh hfresh]
    exact h
  | none =>
    have hmap : s.currentMap c = _ := Place.get_of_stale (mapPlace c) startMap s hfresh
    rw [hmap]
    refine ⟨h.dependencies, fun memo hmemo => ?_⟩
    obtain rfl := Option.some.inj hmemo
    refine ⟨mapSource.stamp (c.stamp s.site), ?_⟩
    simp only [mapPlace, Cell.capture, h.dependencies, Snapshot.capture, List.map_cons,
      List.map_nil]

/-- Entering the current map adds no entry, and drops none. -/
theorem entries_currentMap (s : SchemaState H) (m : Nat) :
    (s.currentMap c).2.schemas.entries m = s.schemas.entries m := by
  cases hfresh : s.freshMap c with
  | some map => rw [currentMap_of_fresh hfresh]
  | none =>
    rw [SchemaCache.entries, SchemaCache.entries, (currentMap_of_stale hfresh).2.1]
    rcases Nat.lt_trichotomy m s.schemas.maps.length with hlt | rfl | hgt
    · rw [List.getElem?_append_left hlt]
    · simp
    · rw [List.getElem?_eq_none (by simp; omega), List.getElem?_eq_none (by omega)]

/-- What is held for a scope is what the map holds that a call would enter. -/
theorem held?_eq_lookup? (s : SchemaState H) (scope : Scope) :
    s.held? c scope = s.schemas.lookup? (s.currentMap c).1 scope := by
  unfold held?
  cases hfresh : s.freshMap c with
  | some map => rw [currentMap_of_fresh hfresh, Option.bind_some]
  | none =>
    rw [(currentMap_of_stale hfresh).1, Option.bind_none]
    simp [SchemaCache.lookup?, SchemaCache.entries, SchemaCache.find?]

/-- What a call finds is what is held when it begins, if neither stamp moves while its scope is
resolved. -/
theorem held?_eq_of_still (h : s.schemas.Guarded) (scope : Scope)
    (hstill : c.advance s.site (s.resolveScope c context).2.site = 0) :
    s.held? c scope =
      s.schemas.lookup? ((s.resolveScope c context).2.currentMap c).1 scope := by
  have hmap : (s.resolveScope c context).2.freshMap c = s.freshMap c :=
    freshMap_of_still h rfl hstill
  have hheld : (s.resolveScope c context).2.held? c scope = s.held? c scope := by
    rw [held?, held?, hmap]
    rfl
  exact hheld.symm.trans (held?_eq_lookup? _ scope)

/-- A call begins a build if and only if nothing is held for its scope. -/
theorem misses_iff_held? (h : s.schemas.Guarded)
    (hstill : c.advance s.site (s.resolveScope c context).2.site = 0) :
    s.Misses c context ↔ s.held? c (s.resolveScope c context).1 = none := by
  rw [held?_eq_of_still h _ hstill, Misses, opened, SchemaCache.lookup?, entries_currentMap]
  exact Iff.rfl

end SchemaState

/-! ### One step -/

namespace Traffic

variable {H : Type} {c : Collaborators H} {t u v : Traffic H} {k m map : Nat}
  {scope : Scope} {info : SchemaInfo} {result : Except Cancelled SchemaInfo}

/-- Every step keeps the dependencies of the current map. -/
theorem Step.guarded (h : Step c t u) (ht : t.state.schemas.Guarded) :
    u.state.schemas.Guarded := by
  have hentered : (t.entered c).schemas.Guarded := SchemaState.guarded_currentMap ht
  cases h with
  | begin => exact ht
  | hit => exact hentered
  | miss => exact hentered.of_current rfl
  | cancel => exact ht
  | publish k map number scope info =>
    exact ht.of_current (SchemaCache.publish_same map scope info t.state.schemas).1
  | meanwhile state hthinned => exact ht.of_current hthinned.current

/-- What a call has ended with stays. -/
theorem Step.ended (h : Step c t u) (hk : t.progress? k = some (.ended result)) :
    u.progress? k = some (.ended result) := by
  have hother : ∀ {j progress}, t.progress? j = some progress →
      (∀ result', progress ≠ .ended result') → k ≠ j := by
    rintro j progress hj hnot rfl
    exact hnot result (Option.some.inj (hj.symm.trans hk))
  cases h with
  | begin => exact progress?_begin hk
  | hit j _ _ hj => exact (progress?_proceed_other (hother hj nofun) _ _).trans hk
  | miss j _ hj => exact (progress?_proceed_other (hother hj nofun) _ _).trans hk
  | cancel j _ _ _ hj => exact (progress?_proceed_other (hother hj nofun) _ _).trans hk
  | publish j _ _ _ _ hj => exact (progress?_proceed_other (hother hj nofun) _ _).trans hk
  | meanwhile => exact hk

/-- While neither stamp moves the current map stays current. -/
theorem Step.freshMap (h : Step c t u) (ht : t.state.schemas.Guarded)
    (hstill : u.elapsed = t.elapsed) (hfresh : t.state.freshMap c = some m) :
    u.state.freshMap c = some m := by
  have hentered : t.entered c = t.state := by
    rw [entered, SchemaState.currentMap_of_fresh hfresh]
  cases h with
  | begin => exact hfresh
  | hit =>
    rw [← hfresh, ← hentered]
    rfl
  | miss =>
    rw [← hfresh, ← hentered]
    rfl
  | cancel => exact hfresh
  | publish k map number scope info =>
    rw [← hfresh]
    exact SchemaState.freshMap_of_still ht
      (SchemaCache.publish_same map scope info t.state.schemas).1 (c.advance_self _)
  | meanwhile state hthinned =>
    rw [← hfresh]
    exact SchemaState.freshMap_of_still ht hthinned.current (Nat.add_eq_left.mp hstill)

/-- The number of the last build never goes back. -/
theorem Step.lastBuildId_le (h : Step c t u) :
    t.state.schemas.lastBuildId ≤ u.state.schemas.lastBuildId := by
  have hentered : t.state.schemas.lastBuildId ≤ (t.entered c).schemas.lastBuildId :=
    Nat.le_of_eq (SchemaState.currentMap_same t.state).1.symm
  cases h with
  | begin => exact Nat.le_refl _
  | hit => exact hentered
  | miss => exact Nat.le_succ_of_le hentered
  | cancel => exact Nat.le_refl _
  | publish k map number scope info =>
    exact Nat.le_of_eq (SchemaCache.publish_same map scope info t.state.schemas).2.1.symm
  | meanwhile state hthinned => exact Nat.le_of_eq hthinned.lastBuildId.symm

/-- The calls from a given one on build for the current map, under numbers beyond a given one. -/
structure Recent (c : Collaborators H) (first last : Nat) (t : Traffic H) : Prop where
  guarded : t.state.schemas.Guarded
  numbered : last ≤ t.state.schemas.lastBuildId
  building : ∀ k ≥ first, ∀ map scope number, t.progress? k = some (.building map scope number) →
    t.state.freshMap c = some map ∧ last < number

/-- At first no call has begun. -/
theorem recent_here (ht : t.state.schemas.Guarded) :
    t.Recent c t.calls.length t.state.schemas.lastBuildId where
  guarded := ht
  numbered := Nat.le_refl _
  building k hk map scope number hprogress := by
    rw [progress?, List.getElem?_eq_none hk] at hprogress
    cases hprogress

/-- While neither stamp moves, later calls build for the current map under new numbers. -/
theorem Step.recent (h : Step c t u) {first last : Nat} (ht : t.Recent c first last)
    (hstill : u.elapsed = t.elapsed) : u.Recent c first last := by
  have hkept : ∀ k ≥ first, ∀ map scope number,
      t.progress? k = some (.building map scope number) →
        u.state.freshMap c = some map ∧ last < number := by
    intro k hk map scope number hprogress
    obtain ⟨hfresh, hlast⟩ := ht.building k hk map scope number hprogress
    exact ⟨h.freshMap ht.guarded hstill hfresh, hlast⟩
  refine ⟨h.guarded ht.guarded, Nat.le_trans ht.numbered h.lastBuildId_le,
    fun k hk map scope number hprogress => ?_⟩
  cases h with
  | begin =>
    rcases progress?_begin_cases hprogress with hnew | hold
    · cases hnew
    · exact hkept k hk map scope number hold
  | miss j entered hj hnone =>
    rcases progress?_proceed_cases hprogress with ⟨-, hnew⟩ | hold
    · cases hnew
      have hentered : (t.entered c).schemas.lastBuildId = t.state.schemas.lastBuildId :=
        (SchemaState.currentMap_same t.state).1
      exact ⟨SchemaState.freshMap_currentMap t.state,
        Nat.lt_succ_of_le (hentered.symm ▸ ht.numbered)⟩
    · exact hkept k hk map scope number hold
  | meanwhile => exact hkept k hk map scope number hprogress
  | _ =>
    -- The call that comes further has ended.
    rcases progress?_proceed_cases hprogress with ⟨-, hnew⟩ | hold
    · cases hnew
    · exact hkept k hk map scope number hold

/-- A step in which a call publishes a schema in a map that held nothing for the scope. -/
structure Publishes (c : Collaborators H) (k map : Nat) (scope : Scope) (info : SchemaInfo)
    (t u : Traffic H) : Prop where
  spares : Spares c t u
  building : t.progress? k = some (.building map scope info.buildId)
  ended : u.progress? k = some (.ended (.ok info))
  absent : t.state.schemas.lookup? map scope = none
  held : u.state.schemas.lookup? map scope = some info

/-- What a map holds after a step it held before, or it is what a call publishes. -/
theorem Spares.lookup?_cases (h : Spares c t u) (ht : t.Orderly)
    (hfound : u.state.schemas.lookup? m scope = some info) :
    t.state.schemas.lookup? m scope = some info ∨
      ∃ k scope', scope'.same scope = true ∧ Publishes c k m scope' info t u := by
  obtain ⟨entry, hentry, hsame, rfl⟩ := SchemaCache.mem_of_lookup? hfound
  have hold : entry ∈ t.state.schemas.entries m →
      t.state.schemas.lookup? m scope = some entry.info :=
    fun hold => ht.cache.single.lookup? hold hsame
  have hu := h.step.orderly ht
  have hspares := h
  obtain ⟨hstep, -, -⟩ := h
  cases hstep with
  | begin => exact .inl (hold hentry)
  | hit => exact .inl (hold (SchemaState.entries_currentMap t.state m ▸ hentry))
  | miss => exact .inl (hold (SchemaState.entries_currentMap t.state m ▸ hentry))
  | cancel => exact .inl (hold hentry)
  | publish k map number scope' info hk hinfo =>
    rcases SchemaCache.mem_entries_publish hentry with hbefore | ⟨rfl, rfl⟩
    · exact .inl (hold hbefore)
    cases habsent : t.state.schemas.lookup? m scope' with
    | some first =>
      -- The map held something for the scope already, so nothing was published.
      left
      have hunchanged : (t.state.schemas.publish m scope' info).2 = t.state.schemas := by
        rw [SchemaCache.publish_of_found habsent]
      exact hold (hunchanged ▸ hentry)
    | none =>
      have hown : (t.state.schemas.publish m scope' info).1 = info :=
        (SchemaCache.publish_eq m scope' info t.state.schemas).resolve_right (by simp [habsent])
      refine .inr ⟨k, scope', hsame, hspares, hinfo ▸ hk, ?_, habsent,
        hu.cache.single.lookup? hentry (Scope.same_refl _)⟩
      rw [progress?_proceed (u := conclude number (.ok info) { t with state := _ }) hk, hown]
  | meanwhile state hthinned => exact .inl (hold (hthinned.entries m hentry))

/-! ### Every run -/

theorem Run.guarded (h : Run c t u) (ht : t.state.schemas.Guarded) :
    u.state.schemas.Guarded := by
  induction h with
  | here => exact ht
  | step _ hstep ih => exact hstep.guarded ih

theorem Run.orderly (h : Run c t u) (ht : t.Orderly) : u.Orderly := by
  induction h with
  | here => exact ht
  | step _ hstep ih => exact hstep.orderly ih

theorem Run.ended (h : Run c t u) (hk : t.progress? k = some (.ended result)) :
    u.progress? k = some (.ended result) := by
  induction h with
  | here => exact hk
  | step _ hstep ih => exact hstep.ended ih

theorem Steady.run (h : Steady c t u) : Run c t u := by
  induction h with
  | here => exact .here
  | step _ hspares ih => exact ih.step hspares.step

theorem Run.lastBuildId_le (h : Run c t u) :
    t.state.schemas.lastBuildId ≤ u.state.schemas.lastBuildId := by
  induction h with
  | here => exact Nat.le_refl _
  | step _ hstep ih => exact Nat.le_trans ih hstep.lastBuildId_le

/-- While neither stamp moves the current map stays current. -/
theorem Run.freshMap (h : Run c t u) (ht : t.state.schemas.Guarded)
    (hstill : u.elapsed = t.elapsed) (hfresh : t.state.freshMap c = some m) :
    u.state.freshMap c = some m := by
  induction h with
  | here => exact hfresh
  | step hbefore hstep ih =>
    have hearlier := hbefore.elapsed_le
    have hlater := hstep.elapsed_le
    exact hstep.freshMap (hbefore.guarded ht) (by omega) (ih (by omega))

/-- While neither stamp moves, later calls build for the current map under new numbers. -/
theorem Run.recent (h : Run c t u) {first last : Nat} (ht : t.Recent c first last)
    (hstill : u.elapsed = t.elapsed) : u.Recent c first last := by
  induction h with
  | here => exact ht
  | step hbefore hstep ih =>
    have hearlier := hbefore.elapsed_le
    have hlater := hstep.elapsed_le
    exact hstep.recent (ih (by omega)) (by omega)

/-- Between two moments a call publishes a schema in a map that held nothing for the scope. -/
def Published (c : Collaborators H) (t u : Traffic H) (k map : Nat) (scope : Scope)
    (info : SchemaInfo) : Prop :=
  ∃ before after, Steady c t before ∧ Publishes c k map scope info before after ∧
    Steady c after u

/-- What a map holds it held before, or it has been published since. -/
theorem Steady.lookup?_cases (h : Steady c t u) (ht : t.Orderly)
    (hfound : u.state.schemas.lookup? m scope = some info) :
    t.state.schemas.lookup? m scope = some info ∨
      ∃ k scope', scope'.same scope = true ∧ Published c t u k m scope' info := by
  induction h with
  | here => exact .inl hfound
  | step hbefore hspares ih =>
    rcases hspares.lookup?_cases (hbefore.orderly ht) hfound with
      hold | ⟨k, scope', hsame, hpublishes⟩
    · refine (ih hold).imp_right ?_
      rintro ⟨k, scope', hsame, first, second, hfirst, hpublishes, hsecond⟩
      exact ⟨k, scope', hsame, first, second, hfirst, hpublishes, hsecond.step hspares⟩
    · exact .inr ⟨k, scope', hsame, _, _, hbefore, hpublishes, .here⟩

/-- What has been published stays. -/
theorem Published.held (h : Published c t u k map scope info) (ht : t.Orderly) :
    u.state.schemas.lookup? map scope = some info := by
  obtain ⟨before, after, hbefore, hpublishes, hafter⟩ := h
  have horderly := hpublishes.spares.step.orderly (hbefore.orderly ht)
  exact (hafter.orderly horderly).cache.single.lookup?_of_retains hafter.retains hpublishes.held

/-- Whoever has published has ended with that, and had not ended before. -/
theorem Published.ended (h : Published c t u k map scope info) :
    u.progress? k = some (.ended (.ok info)) ∧ t.progress? k ≠ some (.ended (.ok info)) := by
  obtain ⟨before, after, hbefore, hpublishes, hafter⟩ := h
  refine ⟨hafter.run.ended hpublishes.ended, fun hended => ?_⟩
  cases (hbefore.run.ended hended).symm.trans hpublishes.building

/-- While neither stamp moves, what a later call has published it has published in the current map,
under a new number. -/
theorem Published.recent (h : Published c t u k map scope info) {first last : Nat}
    (ht : t.Recent c first last) (hk : first ≤ k) (hstill : u.elapsed = t.elapsed) :
    u.state.freshMap c = some map ∧ last < info.buildId := by
  obtain ⟨before, after, hbefore, hpublishes, hafter⟩ := h
  have hstep := hpublishes.spares.step
  have hfirst := hbefore.run.elapsed_le
  have hsecond := hstep.elapsed_le
  have hthird := hafter.run.elapsed_le
  have hrecent := hbefore.run.recent ht (by omega)
  obtain ⟨hfresh, hlast⟩ := hrecent.building k hk map scope _ hpublishes.building
  have hrest := hafter.run.trans .here
  exact ⟨hafter.run.freshMap (hstep.guarded hrecent.guarded) (by omega)
    (hstep.freshMap hrecent.guarded (by omega) hfresh), hlast⟩

/-- The map that a call has entered is current. -/
theorem Fetch.freshMap (h : Fetch c k scope t u) : u.state.freshMap c = some (t.map c) := by
  have hentered : (t.entered c).freshMap c = some (t.map c) :=
    SchemaState.freshMap_currentMap t.state
  cases h with
  | hit => exact hentered
  | miss => exact hentered

end Traffic

/-! ### Evaluations -/

namespace Dialogue

variable {H : Type} {c : Collaborators H} {t u v : Dialogue H} {context : Option FileRef}
  {result : Except Cancelled SchemaInfo} {s : SchemaState H} {scope : Scope} {info : SchemaInfo}
  {k map : Nat}

/-- What is told of a call is, in the traffic, that it enters the current map, and that no entry is
dropped after that. -/
theorem Told.fetch (h : Told c t context result s u) (hroom : t.state.schemas.capacity ≠ 0) :
    ∃ after, Traffic.Fetch c t.traffic.calls.length (t.scope c context) (t.called c context) after ∧
      Traffic.Steady c after u.traffic := by
  obtain ⟨v, henters, hv⟩ := h.enters
  obtain ⟨after, hfetch, hafter⟩ := henters.fetch hroom
  have hleft : v.traffic.state.schemas.capacity ≠ 0 := by
    rw [hafter.retains.capacity, hfetch.retains.capacity]
    exact hroom
  exact ⟨after, hfetch, hafter.trans (hv.traffic hleft)⟩

/-- If neither stamp moves during a call, the map that it entered is current at its end, and none
had moved when its scope was resolved. -/
theorem Told.freshMap (h : Told c t context result s u) (ht : t.state.schemas.Guarded)
    (hroom : t.state.schemas.capacity ≠ 0) (hstill : u.elapsed = t.elapsed) :
    u.state.freshMap c = some (t.map c context) ∧
      c.advance t.state.site (t.state.resolveScope c context).2.site = 0 := by
  obtain ⟨after, hfetch, hafter⟩ := h.fetch hroom
  have hcalled : Traffic.Run c t.traffic (t.called c context) := run_called context
  have hresolved : (t.called c context).elapsed =
      t.elapsed + c.advance t.state.site (t.state.resolveScope c context).2.site := rfl
  have hentered := hfetch.step.elapsed_le
  have hrest : after.elapsed ≤ u.elapsed := hafter.run.elapsed_le
  refine ⟨hafter.run.freshMap (hfetch.step.guarded (hcalled.guarded ht)) ?_ hfetch.freshMap, ?_⟩
  · exact Nat.le_antisymm (by change u.elapsed ≤ after.elapsed; omega) hrest
  · omega

/-- Only a call that has begun since can have published during a call. -/
theorem Told.length_le_of_published (h : Told c t context result s u)
    (hpublished : Traffic.Published c t.traffic u.traffic k map scope info) :
    t.exchanges.length ≤ k := by
  obtain ⟨hended, hnot⟩ := hpublished.ended
  by_contra hlt
  have hkept := h.reaches.kept k (Nat.lt_of_not_le hlt)
  refine hnot (Eq.trans ?_ hended)
  simp only [Traffic.progress?, traffic, List.getElem?_map, hkept]

/-- While neither stamp moves, what a call has published that has begun since it has published in
the current map, under a new number. -/
theorem recent_of_published
    (h : Traffic.Published c t.traffic u.traffic k map scope info)
    (ht : t.state.schemas.Guarded) (hk : t.exchanges.length ≤ k) (hstill : u.elapsed = t.elapsed) :
    u.state.freshMap c = some map ∧ t.state.schemas.lastBuildId < info.buildId :=
  h.recent (Traffic.recent_here ht) (Nat.le_trans (Nat.le_of_eq (length_traffic t)) hk) hstill

/-- Between two moments a schema is published for a scope, by the call of a number or a later
one. -/
def Published (c : Collaborators H) (first : Nat) (scope : Scope) (info : SchemaInfo)
    (t u : Dialogue H) : Prop :=
  ∃ k ≥ first, ∃ map scope', scope'.same scope = true ∧
    Traffic.Published c t.traffic u.traffic k map scope' info

/-- If neither stamp moves during a call, what is held at its end was held at its beginning, or it
has been published by the call itself or a later one. -/
theorem Told.held?_iff (h : Told c t context result s u) (ht : t.traffic.Orderly)
    (hguarded : t.state.schemas.Guarded) (hroom : t.state.schemas.capacity ≠ 0)
    (hstill : u.elapsed = t.elapsed) :
    u.state.held? c scope = some info ↔ t.state.held? c scope = some info ∨
      Published c t.exchanges.length scope info t u := by
  have hsteady : Traffic.Steady c t.traffic u.traffic := h.reaches.steady.traffic hroom
  have horderly := hsteady.orderly ht
  obtain ⟨hfresh, hadvance⟩ := h.freshMap hguarded hroom hstill
  have hafter : u.state.held? c scope = u.state.schemas.lookup? (t.map c context) scope := by
    rw [SchemaState.held?, hfresh, Option.bind_some]
  have hbefore : t.state.held? c scope = t.state.schemas.lookup? (t.map c context) scope :=
    SchemaState.held?_eq_of_still hguarded scope hadvance
  rw [hafter, hbefore]
  constructor
  · intro hfound
    refine (hsteady.lookup?_cases ht hfound).imp_right ?_
    rintro ⟨k, scope', hsame, hpublished⟩
    exact ⟨k, h.length_le_of_published hpublished, _, scope', hsame, hpublished⟩
  · rintro (hheld | ⟨k, hk, map, scope', hsame, hpublished⟩)
    · exact horderly.cache.single.lookup?_of_retains hsteady.retains hheld
    · obtain ⟨hcurrent, -⟩ := recent_of_published hpublished hguarded hk hstill
      obtain rfl := Option.some.inj (hfresh.symm.trans hcurrent)
      rw [← SchemaCache.lookup?_congr hsame]
      exact hpublished.held ht

/-- If neither stamp moves during a call that ends with a schema, that is held for its scope. -/
theorem Told.held?_of_ok (h : Told c t context (.ok info) s u) (ht : t.traffic.Orderly)
    (hguarded : t.state.schemas.Guarded) (hroom : t.state.schemas.capacity ≠ 0)
    (hstill : u.elapsed = t.elapsed) : u.state.held? c (t.scope c context) = some info := by
  obtain ⟨after, hfetch, hafter⟩ := h.fetch hroom
  have hcalled : (t.called c context).Orderly := (run_called context).orderly ht
  have hfollows := hafter.follows (hfetch.step.orderly hcalled) hfetch.follows
  rw [SchemaState.held?, (h.freshMap hguarded hroom hstill).1, Option.bind_some]
  exact hfollows.returned (length_traffic t ▸ h.progress?)

/-! ### The scope of a call -/

/-- No stamp moves from one moment to another: neither of the two that the maps depend on ever, and
none at all at the moments that are recorded. -/
structure Stands (c : Collaborators H) (t u : Dialogue H) : Prop where
  elapsed : u.elapsed = t.elapsed
  stamps : c.stamp u.state.site = c.stamp t.state.site
  moments : ∀ moments, u.moments = moments ++ t.moments →
    ∀ moment ∈ moments, c.stamp moment = c.stamp t.state.site

theorem Step.moments_suffix (h : Step c t u) : t.moments <:+ u.moments := by
  cases h with
  | hit context => exact (List.suffix_cons t.state.site t.moments).trans (List.suffix_append _ _)
  | miss context => exact (List.suffix_cons t.state.site t.moments).trans (List.suffix_append _ _)
  | _ => exact List.suffix_rfl

theorem Steady.moments_suffix (h : Steady c t u) : t.moments <:+ u.moments := by
  induction h with
  | here => exact List.suffix_rfl
  | step _ hstep _ ih => exact ih.trans hstep.moments_suffix

variable {file : FileRef} {stamp : Dependency → Stamp}

/-- A scope that is served is served after a step, if the stamps are the same at its moments. -/
theorem Step.serves (h : Step c t u) (hretains : t.state.Retains u.state)
    (hmoments : ∀ moments, u.moments = moments ++ t.moments →
      ∀ moment ∈ moments, c.stamp moment = stamp)
    (hserves : t.state.scopes.cache.Serves stamp file .resolve scope) :
    u.state.scopes.cache.Serves stamp file .resolve scope := by
  have hentered : ∀ context, c.stamp t.state.site = stamp →
      (t.entered c context).state.scopes.cache.Serves stamp file .resolve scope := by
    rintro context rfl
    rw [scopes_entered]
    exact hserves.scopeFor context .resolve
  have hbegins : ∀ context, (t.resolved c context).moments = u.moments →
      c.stamp t.state.site = stamp := by
    intro context hsame
    refine hmoments (t.state.scopes.scopeVisits c context .resolve ++ [t.state.site]) ?_ _ (by simp)
    rw [← hsame, List.append_assoc]
    rfl
  cases h with
  | hit context => exact hentered context (hbegins context rfl)
  | miss context => exact hentered context (hbegins context rfl)
  | meanwhile schemas kept site hthinned hkept =>
    obtain rfl := hkept.eq_of_length_le hretains.cells
    exact hserves
  | _ => exact hserves

theorem Steady.serves (h : Steady c t u)
    (hmoments : ∀ moments, u.moments = moments ++ t.moments →
      ∀ moment ∈ moments, c.stamp moment = stamp)
    (hserves : t.state.scopes.cache.Serves stamp file .resolve scope) :
    u.state.scopes.cache.Serves stamp file .resolve scope := by
  induction h with
  | here => exact hserves
  | step hbefore hstep hretains ih =>
    obtain ⟨earlier, hearlier⟩ := hbefore.moments_suffix
    obtain ⟨later, hlater⟩ := hstep.moments_suffix
    refine hstep.serves hretains (fun moments hsame moment hmoment => ?_)
      (ih fun moments hsame moment hmoment => ?_)
    · refine hmoments (moments ++ earlier) ?_ moment (List.mem_append_left _ hmoment)
      rw [hsame, ← hearlier, List.append_assoc]
    · refine hmoments (later ++ moments) ?_ moment (List.mem_append_right _ hmoment)
      rw [← hlater, hsame, List.append_assoc]

/-- The scope that a call has resolved is served from then on, where there is room. -/
theorem Enters.serves (h : Enters c (some file) t u)
    (hroom : t.state.scopes.cache.options.capacity ≠ 0) :
    u.state.scopes.cache.Serves (c.stamp t.state.site) file .resolve (t.scope c (some file)) := by
  have hentered : (t.entered c (some file)).state.scopes.cache.Serves (c.stamp t.state.site) file
      .resolve (t.scope c (some file)) := by
    rw [scopes_entered]
    exact ScopeState.serves_scopeFor hroom
  cases h with
  | hit => exact hentered
  | miss => exact hentered

theorem Enters.moments (h : Enters c context t u) : (t.resolved c context).moments = u.moments := by
  cases h <;> rfl

/-- As long as no stamp moves and nothing is dropped, it is served. -/
theorem Enters.serves_later (h : Enters c (some file) t v) (hsteady : Steady c v u)
    (hroom : t.state.scopes.cache.options.capacity ≠ 0) (hstands : t.Stands c u) :
    u.state.scopes.cache.Serves (c.stamp u.state.site) file .resolve (t.scope c (some file)) := by
  rw [hstands.stamps]
  refine hsteady.serves (fun moments hsame moment hmoment => ?_) (h.serves hroom)
  refine hstands.moments
    (moments ++ (t.state.scopes.scopeVisits c (some file) .resolve ++ [t.state.site])) ?_
    moment (List.mem_append_left _ hmoment)
  rw [hsame, ← h.moments]
  simp [Dialogue.resolved]

/-- So a call of the same context resolves the same scope, and nothing else happens. -/
theorem Enters.resolveScope (h : Enters c context t v) (hsteady : Steady c v u)
    (hroom : t.state.scopes.cache.options.capacity ≠ 0) (hstands : t.Stands c u) :
    u.state.resolveScope c context = (t.scope c context, u.state) := by
  cases context with
  | none => rfl
  | some file =>
    rw [SchemaState.resolveScope,
      ScopeCache.Serves.served (h.serves_later hsteady hroom hstands)]

end Dialogue

end SchemaEngine
