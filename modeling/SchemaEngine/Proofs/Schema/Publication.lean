import SchemaEngine.Proofs.Schema.Evaluation
import SchemaEngine.Proofs.Schema.Upkeep
import SchemaEngine.Proofs.Scope.Sameness

/-!
# What is published in a map

Builds for one scope may begin while another one is under way, and end in any order, also into a map
that was left behind meanwhile. The first outcome that is published in a map is the one that stays,
so as long as no entry is dropped all calls that entered the map for that scope end with it.

## Main definitions

* `SchemaCache.Single`: no map holds two entries for one scope.
* `Traffic.Steady`: sequences of steps in which no entry is dropped.
* `Traffic.Follows`: what has become of a call that entered a map for a scope.

## Main results

* `SchemaCache.lookup?_publish`: what publishing returns is what the map holds from then on.
* `Traffic.Step.orderly`, `Traffic.Spares.follows`: what one step preserves.
* `Traffic.Steady.follows`: a call ends with what its map holds.
* `Dialogue.Steady.traffic`: evaluations are sequences of such steps.
-/

set_option autoImplicit false

namespace SchemaEngine

/-! ### The entries of a map -/

namespace SchemaCache

variable {cache before after : SchemaCache} {map : Nat} {scope scope' : Scope} {info : SchemaInfo}
  {entry : ScopedSchema}

/-- No map holds two entries for one scope. -/
def Single (cache : SchemaCache) : Prop :=
  ∀ m, ∀ entry ∈ cache.entries m, ∀ entry' ∈ cache.entries m,
    entry.scope.same entry'.scope = true → entry = entry'

/-- Scopes are compared by value. -/
theorem lookup?_congr (h : scope.same scope' = true) :
    cache.lookup? map scope = cache.lookup? map scope' := by
  have hsame : (fun entry : ScopedSchema => entry.scope.same scope) =
      fun entry => entry.scope.same scope' := by
    funext entry
    exact Bool.eq_iff_iff.mpr
      ⟨fun hentry => Scope.same_trans hentry h,
        fun hentry => Scope.same_trans hentry (Scope.same_symm h)⟩
  rw [lookup?, lookup?, find?, find?, hsame]

/-- Where a map holds no two entries for one scope, an entry is what it holds for its scope. -/
theorem Single.lookup? (h : cache.Single) (hentry : entry ∈ cache.entries map)
    (hsame : entry.scope.same scope = true) : cache.lookup? map scope = some entry.info := by
  cases hfound : cache.lookup? map scope with
  | none =>
    simp only [SchemaCache.lookup?, find?, Option.map_eq_none_iff, List.find?_eq_none] at hfound
    exact absurd hsame (hfound entry hentry)
  | some info =>
    obtain ⟨first, hfirst, hscope, rfl⟩ := mem_of_lookup? hfound
    rw [h map first hfirst entry hentry (Scope.same_trans hscope (Scope.same_symm hsame))]

/-- What a map holds for a scope stays as long as no entry is dropped. -/
theorem Single.lookup?_of_retains (h : after.Single) (hretains : before.Retains after)
    (hfound : before.lookup? map scope = some info) : after.lookup? map scope = some info := by
  obtain ⟨entry, hentry, hsame, rfl⟩ := mem_of_lookup? hfound
  exact h.lookup? ((hretains.entries map).subset hentry) hsame

theorem Single.of_subset (h : before.Single) (hentries : ∀ m, after.entries m ⊆ before.entries m) :
    after.Single :=
  fun m entry hentry entry' hentry' =>
    h m entry (hentries m hentry) entry' (hentries m hentry')

/-- A map that holds something for a scope is left as it is. -/
theorem publish_of_found {first : SchemaInfo} (h : cache.lookup? map scope = some first) :
    cache.publish map scope info = (first, cache) := by
  simp only [publish, h]

/-- Publishing makes no second entry for a scope. -/
theorem Single.publish (h : cache.Single) (map : Nat) (scope : Scope) (info : SchemaInfo) :
    (cache.publish map scope info).2.Single := by
  cases hfound : cache.lookup? map scope with
  | some first =>
    rw [publish_of_found hfound]
    exact h
  | none =>
    have hother : ∀ entry ∈ cache.entries map, ¬ entry.scope.same scope = true := by
      simpa [SchemaCache.lookup?, find?] using hfound
    intro m entry hentry entry' hentry' hsame
    rcases mem_entries_publish hentry with hold | ⟨rfl, rfl⟩ <;>
      rcases mem_entries_publish hentry' with hold' | ⟨hm, rfl⟩
    · exact h m entry hold entry' hold' hsame
    · exact absurd hsame (hother entry (hm ▸ hold))
    · exact absurd (Scope.same_symm hsame) (hother entry' hold')
    · rfl

/-- What publishing returns is what the map holds from then on. -/
theorem lookup?_publish (hmap : map < cache.maps.length) (hroom : cache.capacity ≠ 0) :
    (cache.publish map scope info).2.lookup? map scope =
      some (cache.publish map scope info).1 := by
  cases hfound : cache.lookup? map scope with
  | some first =>
    rw [publish_of_found hfound]
    exact hfound
  | none =>
    have hnone : ((cache.entries map).find? fun entry => entry.scope.same scope) = none := by
      simpa [SchemaCache.lookup?, SchemaCache.find?] using hfound
    simp only [entries, List.getElem?_eq_getElem hmap, Option.getD_some] at hnone
    simp [publish, hroom, SchemaCache.lookup?, SchemaCache.find?, entries,
      List.getElem?_eq_getElem hmap, hnone, Scope.same_refl]

/-- No map holds two entries for one scope, and the current map has been begun. -/
structure Orderly (cache : SchemaCache) : Prop where
  single : cache.Single
  current : ∀ memo, cache.current.slot = some memo → memo.value < cache.maps.length

theorem orderly_new (capacity : UInt64) : ({ capacity := capacity } : SchemaCache).Orderly where
  single := by
    intro m entry hentry
    simp [entries] at hentry
  current memo hmemo := by cases hmemo

end SchemaCache

namespace SchemaState

variable {H : Type} {c : Collaborators H} {s : SchemaState H}

/-- Where an empty map is begun in place of a stale one. -/
theorem currentMap_of_stale (hstale : s.freshMap c = none) :
    (s.currentMap c).1 = s.schemas.maps.length ∧
      (s.currentMap c).2.schemas.maps = s.schemas.maps ++ [[]] ∧
      ∀ memo, (s.currentMap c).2.schemas.current.slot = some memo →
        memo.value = s.schemas.maps.length := by
  have hmap : s.currentMap c = _ := Place.get_of_stale (mapPlace c) startMap s hstale
  rw [hmap]
  refine ⟨rfl, rfl, fun memo hmemo => ?_⟩
  obtain rfl := Option.some.inj hmemo
  rfl

/-- The fresh map is entered where there is one. -/
theorem currentMap_of_fresh {map : Nat} (hfresh : s.freshMap c = some map) :
    s.currentMap c = (map, s) :=
  Place.get_of_fresh (mapPlace c) startMap s hfresh

/-- The map that is entered has been begun, and no map is given up. -/
theorem orderly_currentMap (h : s.schemas.Orderly) :
    (s.currentMap c).2.schemas.Orderly ∧
      (s.currentMap c).1 < (s.currentMap c).2.schemas.maps.length ∧
      s.schemas.maps.length ≤ (s.currentMap c).2.schemas.maps.length := by
  cases hfresh : s.freshMap c with
  | some map =>
    rw [currentMap_of_fresh hfresh]
    obtain ⟨memo, hmemo, -, rfl⟩ := Cell.slot_of_peek hfresh
    exact ⟨h, h.current memo hmemo, Nat.le_refl _⟩
  | none =>
    obtain ⟨hnumber, hmaps, hslot⟩ := currentMap_of_stale hfresh
    have hlength : (s.currentMap c).2.schemas.maps.length = s.schemas.maps.length + 1 := by
      rw [hmaps, List.length_append, List.length_singleton]
    refine ⟨⟨h.single.of_subset fun m entry hentry => ?_, fun memo hmemo => ?_⟩, by omega, by omega⟩
    · simp only [SchemaCache.entries, hmaps] at hentry ⊢
      rcases Nat.lt_trichotomy m s.schemas.maps.length with hlt | rfl | hgt
      · rwa [List.getElem?_append_left hlt] at hentry
      · simp at hentry
      · rw [List.getElem?_eq_none (by simp; omega)] at hentry
        cases hentry
    · rw [hslot memo hmemo]
      omega

end SchemaState

/-! ### One step -/

namespace Traffic

variable {H : Type} {c : Collaborators H} {t u v : Traffic H} {k j map number : Nat}
  {scope scope' : Scope} {info : SchemaInfo} {progress old : Progress}

/-- No map holds two entries for one scope, and calls build for maps that have been begun. -/
structure Orderly (t : Traffic H) : Prop where
  cache : t.state.schemas.Orderly
  building : ∀ k map scope number, t.progress? k = some (.building map scope number) →
    map < t.state.schemas.maps.length

theorem progress?_proceed (h : u.progress? k = some old) (progress : Progress) :
    (proceed k progress u).progress? k = some progress := by
  obtain ⟨call, hcall, -⟩ := Option.map_eq_some_iff.mp h
  simp [progress?, proceed, hcall]

theorem progress?_proceed_other (h : j ≠ k) (progress : Progress) (u : Traffic H) :
    (proceed k progress u).progress? j = u.progress? j := by
  simp [progress?, proceed, Ne.symm h]

theorem progress?_proceed_cases (h : (proceed k progress u).progress? j = some old) :
    j = k ∧ old = progress ∨ u.progress? j = some old := by
  by_cases hj : j = k
  · subst hj
    obtain ⟨call, hcall, rfl⟩ := Option.map_eq_some_iff.mp h
    rcases getElem?_modify_cases hcall with ⟨hne, -⟩ | ⟨-, first, -, rfl⟩
    · exact absurd rfl hne
    · exact .inl ⟨rfl, rfl⟩
  · exact .inr (progress?_proceed_other hj progress u ▸ h)

/-- A call that begins leaves the others as they are. -/
theorem progress?_begin (h : t.progress? k = some old) :
    ({ t with calls := t.calls ++ [{ opened := t.elapsed }] } : Traffic H).progress? k =
      some old := by
  obtain ⟨call, hcall, rfl⟩ := Option.map_eq_some_iff.mp h
  simp only [progress?, List.getElem?_append_left (List.getElem?_eq_some_iff.mp hcall).1, hcall,
    Option.map_some]

theorem progress?_begin_cases
    (h : ({ t with calls := t.calls ++ [{ opened := t.elapsed }] } : Traffic H).progress? k =
      some old) : old = .begun ∨ t.progress? k = some old := by
  obtain ⟨call, hcall, rfl⟩ := Option.map_eq_some_iff.mp h
  rcases getElem?_append_singleton hcall with hold | ⟨-, rfl⟩
  · exact .inr (by rw [progress?, hold, Option.map_some])
  · exact .inl rfl

/-- Where one call comes further, calls build for maps that have been begun if this one does. -/
theorem Orderly.building_proceed (h : t.Orderly) (hcalls : u.calls = t.calls) {begun : Nat}
    (hbegun : t.state.schemas.maps.length ≤ begun)
    (hprogress : ∀ map scope number, progress = .building map scope number → map < begun)
    (hj : (proceed k progress u).progress? j = some (.building map scope number)) :
    map < begun := by
  rcases progress?_proceed_cases hj with ⟨-, hnew⟩ | hold
  · exact hprogress map scope number hnew.symm
  · rw [progress?, hcalls] at hold
    exact Nat.lt_of_lt_of_le (h.building j map scope number hold) hbegun

/-- Every step keeps the order. -/
theorem Step.orderly (h : Step c t u) (ht : t.Orderly) : u.Orderly := by
  obtain ⟨hentered, hmap, hlength⟩ := SchemaState.orderly_currentMap (c := c) ht.cache
  cases h with
  | begin =>
    refine ⟨ht.cache, fun j map scope number hj => ?_⟩
    rcases progress?_begin_cases hj with hnew | hold
    · cases hnew
    · exact ht.building j map scope number hold
  | hit k scope info hk hfound =>
    exact ⟨hentered, fun _ _ _ _ => ht.building_proceed rfl hlength nofun⟩
  | miss k scope hk hnone =>
    refine ⟨⟨hentered.single, hentered.current⟩, fun _ _ _ _ =>
      ht.building_proceed rfl hlength fun map scope number hnew => ?_⟩
    cases hnew
    exact hmap
  | cancel k map number scope hk =>
    exact ⟨ht.cache, fun _ _ _ _ => ht.building_proceed rfl (Nat.le_refl _) nofun⟩
  | publish k map number scope info hk hinfo =>
    obtain ⟨hcurrent, -, hmaps⟩ := SchemaCache.publish_same map scope info t.state.schemas
    have hkept := Nat.le_of_eq hmaps.symm
    refine ⟨⟨ht.cache.single.publish map scope info, fun memo hmemo => ?_⟩,
      fun _ _ _ _ => ht.building_proceed rfl hkept nofun⟩
    exact Nat.lt_of_lt_of_le (ht.cache.current memo (hcurrent ▸ hmemo)) hkept
  | meanwhile state hthinned =>
    have hkept := Nat.le_of_eq hthinned.length.symm
    refine ⟨⟨ht.cache.single.of_subset hthinned.entries, fun memo hmemo => ?_⟩,
      fun j map scope number hj => ?_⟩
    · exact Nat.lt_of_lt_of_le (ht.cache.current memo (hthinned.current ▸ hmemo)) hkept
    · exact Nat.lt_of_lt_of_le (ht.building j map scope number hj) hkept

/-- A step that drops no entry: none that a map holds, and none that is being published. -/
structure Spares (c : Collaborators H) (t u : Traffic H) : Prop where
  step : Step c t u
  retains : t.state.schemas.Retains u.state.schemas
  room : ∀ k map scope number info, t.progress? k = some (.building map scope number) →
    u.progress? k = some (.ended (.ok info)) → t.state.schemas.capacity ≠ 0

/-- What is known of a call that entered a map for a scope, once it has come so far: it builds for
that map and scope, it was cancelled, or it has ended with what the map holds for the scope. -/
def Settles (t : Traffic H) (map : Nat) (scope : Scope) : Progress → Prop
  | .begun => False
  | .building map' scope' _ => map' = map ∧ scope' = scope
  | .ended (.error _) => True
  | .ended (.ok info) => t.state.schemas.lookup? map scope = some info

/-- What has become of a call that entered a map for a scope. -/
def Follows (t : Traffic H) (k map : Nat) (scope : Scope) : Prop :=
  ∃ progress, t.progress? k = some progress ∧ t.Settles map scope progress

/-- What is known of a call stays true while the call comes no further. -/
theorem Settles.kept (h : t.Settles map scope progress) (hu : u.Orderly)
    (hretains : t.state.schemas.Retains u.state.schemas) : u.Settles map scope progress := by
  match progress, h with
  | .building _ _ _, hsame => exact hsame
  | .ended (.error _), _ => trivial
  | .ended (.ok _), hfound => exact hu.cache.single.lookup?_of_retains hretains hfound

/-- A call that entered a map for a scope goes on building for them, is cancelled, or ends with what
the map holds for the scope. -/
theorem Spares.follows (h : Spares c t u) (ht : t.Orderly) (hk : t.Follows k map scope) :
    u.Follows k map scope := by
  obtain ⟨progress, hprogress, hsettles⟩ := hk
  have hkept := hsettles.kept (h.step.orderly ht) h.retains
  -- The call has entered its map already, so no other call that enters one is this one.
  have hentered : ∀ j, t.progress? j = some .begun → k ≠ j := by
    rintro j hj rfl
    obtain rfl := Option.some.inj (hprogress.symm.trans hj)
    exact hsettles
  obtain ⟨hstep, hretains, hroom⟩ := h
  cases hstep with
  | begin => exact ⟨progress, progress?_begin hprogress, hkept⟩
  | hit j scope info hj hfound =>
    exact ⟨progress, (progress?_proceed_other (hentered j hj) _ _).trans hprogress, hkept⟩
  | miss j scope hj hnone =>
    exact ⟨progress, (progress?_proceed_other (hentered j hj) _ _).trans hprogress, hkept⟩
  | cancel j map number scope hj =>
    by_cases hkj : k = j
    · subst hkj
      exact ⟨_, progress?_proceed (u := t.conclude number _) hj _, trivial⟩
    · exact ⟨progress, (progress?_proceed_other hkj _ _).trans hprogress, hkept⟩
  | publish j map' number scope' info hj hinfo =>
    by_cases hkj : k = j
    · subst hkj
      obtain rfl := Option.some.inj (hprogress.symm.trans hj)
      obtain ⟨rfl, rfl⟩ := hsettles
      have hended := progress?_proceed
        (u := conclude number (.ok info) { t with state := { t.state with
          schemas := (t.state.schemas.publish map' scope' info).2 } }) hj
        (.ended (.ok (t.state.schemas.publish map' scope' info).1))
      exact ⟨_, hended, SchemaCache.lookup?_publish (ht.building k _ _ _ hj)
        (hroom k _ _ _ _ hj hended)⟩
    · exact ⟨progress, (progress?_proceed_other hkj _ _).trans hprogress, hkept⟩
  | meanwhile state hthinned => exact ⟨progress, hprogress, hkept⟩

/-- A call that enters a map drops nothing. -/
theorem Fetch.retains (h : Fetch c k scope t u) : t.state.schemas.Retains u.state.schemas := by
  have hentered := SchemaState.retains_currentMap (c := c) t.state
  cases h with
  | hit => exact hentered
  | miss => exact ⟨hentered.entries, hentered.capacity⟩

theorem Fetch.follows (h : Fetch c k scope t u) : u.Follows k (t.map c) scope := by
  cases h with
  | hit info hk hfound => exact ⟨_, progress?_proceed (u := { t with state := _ }) hk _, hfound⟩
  | miss hk hnone =>
    exact ⟨_, progress?_proceed (u := { t with state := _, builds := _ }) hk _, rfl, rfl⟩

/-! ### Every run -/

/-- Sequences of steps in which no entry is dropped. -/
inductive Steady (c : Collaborators H) (start : Traffic H) : Traffic H → Prop where
  | here : Steady c start start
  | step {t u : Traffic H} : Steady c start t → Spares c t u → Steady c start u

theorem Steady.trans (h : Steady c t u) (h' : Steady c u v) : Steady c t v := by
  induction h' with
  | here => exact h
  | step _ hstep ih => exact ih.step hstep

/-- A step in which no entry is dropped, where there is room for more. -/
theorem Step.steady (h : Step c t u) (hretains : t.state.schemas.Retains u.state.schemas)
    (hroom : t.state.schemas.capacity ≠ 0) : Steady c t u :=
  .step .here ⟨h, hretains, fun _ _ _ _ _ _ _ => hroom⟩

theorem Fetch.steady (h : Fetch c k scope t u) (hroom : t.state.schemas.capacity ≠ 0) :
    Steady c t u :=
  h.step.steady h.retains hroom

theorem Steady.orderly (h : Steady c t u) (ht : t.Orderly) : u.Orderly := by
  induction h with
  | here => exact ht
  | step _ hspares ih => exact hspares.step.orderly ih

theorem Steady.retains (h : Steady c t u) : t.state.schemas.Retains u.state.schemas := by
  induction h with
  | here => exact .refl _
  | step _ hspares ih => exact ih.trans hspares.retains

theorem Steady.follows (h : Steady c t u) (ht : t.Orderly) (hk : t.Follows k map scope) :
    u.Follows k map scope := by
  induction h with
  | here => exact hk
  | step hbefore hspares ih => exact hspares.follows (hbefore.orderly ht) ih

/-- A call that has ended with a schema has ended with what its map holds for its scope. -/
theorem Follows.returned (h : t.Follows k map scope)
    (hk : t.progress? k = some (.ended (.ok info))) :
    t.state.schemas.lookup? map scope = some info := by
  obtain ⟨progress, hprogress, hsettles⟩ := h
  obtain rfl := Option.some.inj (hprogress.symm.trans hk)
  exact hsettles

theorem orderly_new {s : SchemaState H} {capacity : UInt64}
    (hs : s.schemas = { capacity := capacity }) : ({ state := s } : Traffic H).Orderly where
  cache := hs ▸ SchemaCache.orderly_new capacity
  building k map scope number hk := by cases hk

end Traffic

/-! ### Evaluations -/

namespace Dialogue

variable {H : Type} {c : Collaborators H} {t u : Dialogue H} {context : Option FileRef}

/-- A step in which the schemas are left alone. -/
theorem steady_meanwhile {t : Traffic H} (state : SchemaState H)
    (hsame : state.schemas = t.state.schemas) (hroom : t.state.schemas.capacity ≠ 0) :
    Traffic.Steady c t
      { t with state := state, elapsed := t.elapsed + c.advance t.state.site state.site } :=
  (Traffic.Step.meanwhile state (hsame ▸ .refl _)).steady (hsame ▸ .refl _) hroom

theorem steady_called (context : Option FileRef) (hroom : t.state.schemas.capacity ≠ 0) :
    Traffic.Steady c t.traffic (t.called c context) :=
  ((Traffic.Step.begin t.traffic).steady (.refl _) hroom).trans
    (steady_meanwhile (t.state.resolveScope c context).2 rfl hroom)

/-- A call that begins enters the current map for the scope that it resolved. -/
theorem Enters.fetch (h : Enters c context t u) (hroom : t.state.schemas.capacity ≠ 0) :
    ∃ after,
      Traffic.Fetch c t.traffic.calls.length (t.scope c context) (t.called c context) after ∧
        Traffic.Steady c after u.traffic := by
  cases h with
  | hit info hfound => exact ⟨_, fetch_found context hfound, .here⟩
  | miss hnone =>
    have hfetch := fetch_begun context hnone
    have hleft : (t.numbered c context).state.schemas.capacity ≠ 0 :=
      hfetch.retains.capacity ▸ hroom
    exact ⟨_, hfetch, steady_meanwhile _ rfl hleft⟩

/-- A step of a dialogue in which no entry is dropped is a sequence of such steps of its traffic. -/
theorem Step.steady_traffic (h : Step c t u) (hretains : t.state.schemas.Retains u.state.schemas)
    (hroom : t.state.schemas.capacity ≠ 0) : Traffic.Steady c t.traffic u.traffic := by
  have hopened : ∀ {context}, Enters c context t u → Traffic.Steady c t.traffic u.traffic := by
    intro context henters
    obtain ⟨after, hfetch, hafter⟩ := henters.fetch hroom
    exact ((steady_called context hroom).trans (hfetch.steady hroom)).trans hafter
  cases h with
  | hit context info hfound => exact hopened (.hit info hfound)
  | miss context hnone => exact hopened (.miss hnone)
  | resume k j map number scope work next asked answer closed hk hlater hasked hended hresumes =>
    rw [traffic_proceed_same hk (.building map scope number next) rfl (t.moveTo c _) rfl]
    exact steady_meanwhile (t := t.traffic) _ rfl hroom
  | collected k map number scope site registry schema hk hschema =>
    rw [traffic_proceed_same hk (.building map scope number (.checking registry schema _)) rfl
      (t.moveTo c _) rfl]
    exact steady_meanwhile (t := t.traffic) _ rfl hroom
  | cancel k map number scope work hk houtcome =>
    rw [traffic_proceed]
    have hstep := Traffic.Step.cancel (c := c) k map number scope (progress?_traffic hk)
    exact hstep.steady (.refl _) hroom
  | publish k map number scope work info hk houtcome =>
    rw [traffic_proceed]
    have hstep := Traffic.Step.publish (c := c) k map number scope info (progress?_traffic hk)
      (Work.buildId_of_outcome? houtcome)
    exact hstep.steady hretains hroom
  | meanwhile schemas kept site hthinned hkept =>
    exact (Traffic.Step.meanwhile (t := t.traffic) _ hthinned).steady hretains hroom

theorem Steady.retains (h : Steady c t u) : t.state.schemas.Retains u.state.schemas := by
  induction h with
  | here => exact .refl _
  | step _ _ hretains ih => exact ih.trans hretains.schemas

/-- A steady run of a dialogue is one of its traffic. -/
theorem Steady.traffic (h : Steady c t u) (hroom : t.state.schemas.capacity ≠ 0) :
    Traffic.Steady c t.traffic u.traffic := by
  induction h with
  | here => exact .here
  | step hbefore hstep hretains ih =>
    exact ih.trans (hstep.steady_traffic hretains.schemas (hbefore.retains.capacity ▸ hroom))

end Dialogue

end SchemaEngine
