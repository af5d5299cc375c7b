import SchemaEngine.Proofs.Schema.Maps

/-!
# Calls for schemas, in any order of their steps

A call enters the current map and finds a schema there, or begins a build. Whoever is asked during a
build may call again, move stamps and drop entries before the build ends, and so may everybody else;
so the steps of all calls are taken in any order here, and what a build finds out is left open.

Time is told by how far the stamps have advanced since the beginning.

## Main definitions

* `Traffic`: the calls and builds up to now.
* `Traffic.Step`, `Traffic.Run`: the steps, and sequences of them.
* `Traffic.Fetch`: the steps in which a call enters a map.
* `Traffic.Sound`: the invariant.

## Main results

* `Traffic.Step.sound`: one step keeps the invariant.
* `Traffic.Run.sound`: the invariant holds after every run of a new cache.
* `Traffic.Run.opened_ge`, `Traffic.Run.began_le`: what begins later, and what has begun before.
-/

set_option autoImplicit false

namespace SchemaEngine

/-- How far a call has come. -/
inductive Progress where
  /-- It has not entered a map yet. -/
  | begun
  /-- It found nothing in a map for a scope, and builds the schema of a number. -/
  | building (map : Nat) (scope : Scope) (number : Nat)
  | ended (result : Except Cancelled SchemaInfo)

/-- A call for a schema. -/
structure Call where
  /-- The advance at which it began. -/
  opened : Nat
  progress : Progress := .begun

/-- A build; the first one has the number one. -/
structure Build where
  /-- The call that began it. -/
  call : Nat
  /-- The advance at which it began. -/
  began : Nat
  /-- How it ended. -/
  outcome : Option (Except Cancelled SchemaInfo) := none

/-- The calls and builds at a cache, in the order in which they began. -/
structure Traffic (H : Type) where
  state : SchemaState H
  /-- How far the stamps have advanced. -/
  elapsed : Nat := 0
  calls : List Call := []
  builds : List Build := []

/-- The state once a build has been given its number. -/
def SchemaState.numbered {H : Type} (s : SchemaState H) : SchemaState H :=
  { s with schemas := { s.schemas with lastBuildId := s.schemas.lastBuildId + 1 } }

namespace Traffic

variable {H : Type}

/-- A call comes further. -/
def proceed (k : Nat) (progress : Progress) (t : Traffic H) : Traffic H :=
  { t with calls := t.calls.modify k fun call => { call with progress := progress } }

/-- The build of a number ends. -/
def conclude (number : Nat) (outcome : Except Cancelled SchemaInfo) (t : Traffic H) : Traffic H :=
  { t with
    builds := t.builds.modify (number - 1) fun build => { build with outcome := some outcome } }

/-- The progress of a call. -/
def progress? (t : Traffic H) (k : Nat) : Option Progress :=
  t.calls[k]?.map (·.progress)

/-- The state once the current map has been entered. -/
def entered (c : Collaborators H) (t : Traffic H) : SchemaState H :=
  (t.state.currentMap c).2

/-- The number of the current map. -/
def map (c : Collaborators H) (t : Traffic H) : Nat :=
  (t.state.currentMap c).1

/-- The steps. -/
inductive Step (c : Collaborators H) : Traffic H → Traffic H → Prop where
  /-- A call begins. -/
  | begin (t : Traffic H) : Step c t { t with calls := t.calls ++ [{ opened := t.elapsed }] }
  /-- A call finds what it asks for. -/
  | hit {t : Traffic H} (k : Nat) (scope : Scope) (info : SchemaInfo) :
      t.progress? k = some .begun → (t.entered c).schemas.lookup? (t.map c) scope = some info →
        Step c t (proceed k (.ended (.ok info)) { t with state := t.entered c })
  /-- A call finds nothing, and begins a build. -/
  | miss {t : Traffic H} (k : Nat) (scope : Scope) :
      t.progress? k = some .begun → (t.entered c).schemas.lookup? (t.map c) scope = none →
        Step c t (proceed k (.building (t.map c) scope ((t.entered c).schemas.lastBuildId + 1))
          { t with
            state := (t.entered c).numbered
            builds := t.builds ++ [{ call := k, began := t.elapsed }] })
  /-- A build is cancelled, and so is its call. -/
  | cancel {t : Traffic H} (k map number : Nat) (scope : Scope) :
      t.progress? k = some (.building map scope number) →
        Step c t (proceed k (.ended (.error .mk)) (t.conclude number (.error .mk)))
  /-- A build ends with an outcome of its number, and publishes it. -/
  | publish {t : Traffic H} (k map number : Nat) (scope : Scope) (info : SchemaInfo) :
      t.progress? k = some (.building map scope number) → info.buildId = number →
        Step c t (proceed k (.ended (.ok (t.state.schemas.publish map scope info).1))
          (conclude number (.ok info)
            { t with state :=
              { t.state with schemas := (t.state.schemas.publish map scope info).2 } }))
  /-- Stamps move, scopes are asked for and forgotten, and entries of maps are dropped. -/
  | meanwhile {t : Traffic H} (state : SchemaState H) : state.schemas.Thinned t.state.schemas →
      Step c t { t with
        state := state, elapsed := t.elapsed + c.advance t.state.site state.site }

/-- Sequences of steps. -/
inductive Run (c : Collaborators H) (start : Traffic H) : Traffic H → Prop where
  | here : Run c start start
  | step {t u : Traffic H} : Run c start t → Step c t u → Run c start u

theorem Run.trans {c : Collaborators H} {t u v : Traffic H} (h : Run c t u) (h' : Run c u v) :
    Run c t v := by
  induction h' with
  | here => exact h
  | step _ hstep ih => exact ih.step hstep

/-- A call enters the current map for a scope: it finds a schema there, or it begins a build. -/
inductive Fetch (c : Collaborators H) (k : Nat) (scope : Scope) (t : Traffic H) :
    Traffic H → Prop where
  | hit (info : SchemaInfo) :
      t.progress? k = some .begun → (t.entered c).schemas.lookup? (t.map c) scope = some info →
        Fetch c k scope t (proceed k (.ended (.ok info)) { t with state := t.entered c })
  | miss :
      t.progress? k = some .begun → (t.entered c).schemas.lookup? (t.map c) scope = none →
        Fetch c k scope t
          (proceed k (.building (t.map c) scope ((t.entered c).schemas.lastBuildId + 1))
            { t with
              state := (t.entered c).numbered
              builds := t.builds ++ [{ call := k, began := t.elapsed }] })

theorem Fetch.step {c : Collaborators H} {k : Nat} {scope : Scope} {t u : Traffic H}
    (h : Fetch c k scope t u) : Step c t u := by
  cases h with
  | hit info hk hfound => exact .hit k scope info hk hfound
  | miss hk hnone => exact .miss k scope hk hnone

/-! ### The invariant -/

/-- A build that began at an advance or later has ended with an outcome. -/
def Finished (t : Traffic H) (info : SchemaInfo) (since : Nat) : Prop :=
  ∃ i build, info.buildId = i + 1 ∧ t.builds[i]? = some build ∧
    build.outcome = some (.ok info) ∧ since ≤ build.began

/-- What is known of a call that has come so far, where `births` are the advances at which the maps
were begun: its map was not begun before the call, and what it returns was not built before. -/
def CallSound (t : Traffic H) (births : List Nat) (k opened : Nat) : Progress → Prop
  | .begun => True
  | .building map _ number => ∃ birth i build, births[map]? = some birth ∧ opened ≤ birth ∧
      number = i + 1 ∧ t.builds[i]? = some build ∧ build.call = k ∧ build.outcome = none ∧
      birth ≤ build.began
  | .ended (.error _) => True
  | .ended (.ok info) => t.Finished info opened

/-- The invariant of the calls at a cache. -/
structure Sound (c : Collaborators H) (base : Stamp) (births : List Nat) (t : Traffic H) :
    Prop where
  counted : t.state.Counted c base births t.elapsed
  numbered : t.state.schemas.lastBuildId = t.builds.length
  began : ∀ build ∈ t.builds, build.began ≤ t.elapsed
  opened : ∀ call ∈ t.calls, call.opened ≤ t.elapsed
  entries : ∀ (m birth : Nat), births[m]? = some birth →
    ∀ entry ∈ t.state.schemas.entries m, t.Finished entry.info birth
  calls : ∀ (k : Nat) (call : Call), t.calls[k]? = some call →
    t.CallSound births k call.opened call.progress
  outcomes : ∀ (i : Nat) (build : Build) (info : SchemaInfo), t.builds[i]? = some build →
    build.outcome = some (.ok info) → info.buildId = i + 1

/-- The builds that a step of one call leaves alone: those that have ended, and those of others. -/
def KeepsBuilds (k : Nat) (t u : Traffic H) : Prop :=
  ∀ (i : Nat) (build : Build), t.builds[i]? = some build →
    build.outcome ≠ none ∨ build.call ≠ k → u.builds[i]? = some build

theorem KeepsBuilds.of_append {k : Nat} {t u : Traffic H} {more : List Build}
    (h : u.builds = t.builds ++ more) : KeepsBuilds k t u := by
  intro i build hbuild _
  rw [h, List.getElem?_append_left (List.getElem?_eq_some_iff.mp hbuild).1, hbuild]

theorem Finished.kept {k : Nat} {t u : Traffic H} {info : SchemaInfo} {since : Nat}
    (h : t.Finished info since) (hkept : KeepsBuilds k t u) : u.Finished info since := by
  obtain ⟨i, build, hnumber, hbuild, houtcome, hsince⟩ := h
  exact ⟨i, build, hnumber, hkept i build hbuild (.inl (by simp [houtcome])), houtcome, hsince⟩

theorem Finished.mono {t : Traffic H} {info : SchemaInfo} {since earlier : Nat}
    (h : t.Finished info since) (hle : earlier ≤ since) : t.Finished info earlier := by
  obtain ⟨i, build, hnumber, hbuild, houtcome, hsince⟩ := h
  exact ⟨i, build, hnumber, hbuild, houtcome, Nat.le_trans hle hsince⟩

/-- What another call does leaves a call as it is. -/
theorem CallSound.kept {k j opened : Nat} {t u : Traffic H} {births births' : List Nat}
    {progress : Progress} (h : t.CallSound births j opened progress) (hother : j ≠ k)
    (hkept : KeepsBuilds k t u)
    (hbirths : ∀ (m birth : Nat), births[m]? = some birth → births'[m]? = some birth) :
    u.CallSound births' j opened progress := by
  match progress, h with
  | .begun, _ => trivial
  | .building map _ number,
      ⟨birth, i, build, hbirth, hopened, hnumber, hbuild, hcall, hnone, hle⟩ =>
    exact ⟨birth, i, build, hbirths map birth hbirth, hopened, hnumber,
      hkept i build hbuild (.inr (hcall ▸ hother)), hcall, hnone, hle⟩
  | .ended (.error _), _ => trivial
  | .ended (.ok info), h => exact Finished.kept h hkept

/-! ### One step keeps the invariant -/

section Steps

variable {c : Collaborators H} {base : Stamp} {births births' : List Nat} {t u : Traffic H}
  {k map number : Nat} {scope : Scope} {info : SchemaInfo} {progress progress' : Progress}

/-- The calls after one of them has come further. -/
theorem Sound.calls_proceed (h : t.Sound c base births) (hcalls : u.calls = t.calls)
    (hkept : KeepsBuilds k t (proceed k progress u))
    (hbirths : ∀ (m birth : Nat), births[m]? = some birth → births'[m]? = some birth)
    (hnew : ∀ call, t.calls[k]? = some call →
      (proceed k progress u).CallSound births' k call.opened progress) :
    ∀ (j : Nat) (call : Call), (proceed k progress u).calls[j]? = some call →
      (proceed k progress u).CallSound births' j call.opened call.progress := by
  intro j call hcall
  simp only [proceed, hcalls] at hcall
  rcases getElem?_modify_cases hcall with ⟨hother, hold⟩ | ⟨rfl, old, hold, rfl⟩
  · exact (h.calls j call hold).kept hother hkept hbirths
  · exact hnew old hold

theorem Sound.opened_proceed (h : t.Sound c base births) (hcalls : u.calls = t.calls) :
    ∀ call ∈ (proceed k progress u).calls, call.opened ≤ t.elapsed := by
  intro call hcall
  simp only [proceed, hcalls] at hcall
  rcases mem_modify_cases hcall with hold | ⟨old, hold, rfl⟩
  · exact h.opened call hold
  · exact h.opened old (List.mem_of_getElem? hold)

theorem Sound.begin (h : t.Sound c base births) :
    ({ t with calls := t.calls ++ [{ opened := t.elapsed }] } : Traffic H).Sound c base births where
  counted := h.counted
  numbered := h.numbered
  began := h.began
  opened := by
    intro call hcall
    rcases List.mem_append.mp hcall with hold | hnew
    · exact h.opened call hold
    · exact Nat.le_of_eq (congrArg Call.opened (List.mem_singleton.mp hnew))
  entries := h.entries
  calls := by
    intro k call hcall
    rw [List.getElem?_append] at hcall
    split at hcall
    · exact h.calls k call hcall
    · rw [List.mem_singleton.mp (List.mem_of_getElem? hcall)]
      trivial
  outcomes := h.outcomes

theorem Sound.meanwhile (h : t.Sound c base births) {state : SchemaState H}
    (hthinned : state.schemas.Thinned t.state.schemas) :
    ({ t with state := state, elapsed := t.elapsed + c.advance t.state.site state.site } :
      Traffic H).Sound c base births where
  counted := h.counted.of_same hthinned.current hthinned.length
  numbered := hthinned.lastBuildId.trans h.numbered
  began build hbuild := Nat.le_trans (h.began build hbuild) (Nat.le_add_right _ _)
  opened call hcall := Nat.le_trans (h.opened call hcall) (Nat.le_add_right _ _)
  entries m birth hbirth entry hentry := h.entries m birth hbirth entry (hthinned.entries m hentry)
  calls := h.calls
  outcomes := h.outcomes

/-- What a call finds in the current map was not built before the call began. -/
theorem Sound.hit (h : t.Sound c base births) (hbound : t.elapsed < 2 ^ 64)
    (hfound : (t.entered c).schemas.lookup? (t.map c) scope = some info) :
    ∃ births', (proceed k (.ended (.ok info)) { t with state := t.entered c }).Sound c base
      births' := by
  obtain ⟨births', hentered⟩ := SchemaState.currentMap_spec h.counted hbound
  have hkept : KeepsBuilds k t (proceed k (.ended (.ok info)) { t with state := t.entered c }) :=
    fun _ _ hbuild _ => hbuild
  refine ⟨births', hentered.counted, hentered.lastBuildId.trans h.numbered, h.began,
    h.opened_proceed rfl, ?_, h.calls_proceed rfl hkept hentered.kept fun call hcall => ?_,
    h.outcomes⟩
  · intro m birth hbirth entry hentry
    obtain ⟨hold, hmem⟩ := hentered.entries m birth hbirth entry hentry
    exact (h.entries m birth hold entry hmem).kept hkept
  · obtain ⟨entry, hentry, -, rfl⟩ := SchemaCache.mem_of_lookup? hfound
    obtain ⟨hold, hmem⟩ := hentered.entries _ _ hentered.fresh entry hentry
    exact ((h.entries _ _ hold entry hmem).kept hkept).mono
      (h.opened call (List.mem_of_getElem? hcall))

/-- A build that a call begins has the next number, and begins when nothing has advanced since its
map was begun. -/
theorem Sound.miss (h : t.Sound c base births) (hbound : t.elapsed < 2 ^ 64) :
    ∃ births', (proceed k (.building (t.map c) scope ((t.entered c).schemas.lastBuildId + 1))
      { t with
        state := (t.entered c).numbered
        builds := t.builds ++ [{ call := k, began := t.elapsed }] }).Sound c base births' := by
  obtain ⟨births', hentered⟩ := SchemaState.currentMap_spec h.counted hbound
  have hlast : (t.entered c).schemas.lastBuildId = t.builds.length :=
    hentered.lastBuildId.trans h.numbered
  have hkept : KeepsBuilds k t (proceed k
      (.building (t.map c) scope ((t.entered c).schemas.lastBuildId + 1))
      { t with
        state := (t.entered c).numbered
        builds := t.builds ++ [{ call := k, began := t.elapsed }] }) := .of_append rfl
  refine ⟨births', ?_, ?_, ?_, h.opened_proceed rfl, ?_,
    h.calls_proceed rfl hkept hentered.kept fun call hcall => ?_, ?_⟩
  · exact hentered.counted.of_same_site rfl rfl rfl
  · simpa [SchemaState.numbered, proceed] using hlast
  · intro build hbuild
    rcases List.mem_append.mp hbuild with hold | hnew
    · exact h.began build hold
    · exact Nat.le_of_eq (congrArg Build.began (List.mem_singleton.mp hnew))
  · intro m birth hbirth entry hentry
    obtain ⟨hold, hmem⟩ := hentered.entries m birth hbirth entry hentry
    exact (h.entries m birth hold entry hmem).kept hkept
  · refine ⟨t.elapsed, t.builds.length, { call := k, began := t.elapsed }, hentered.fresh,
      h.opened call (List.mem_of_getElem? hcall), by rw [hlast], ?_, rfl, rfl, Nat.le_refl _⟩
    exact List.getElem?_concat_length ..
  · intro i build info hbuild houtcome
    rcases getElem?_append_singleton hbuild with hold | ⟨-, rfl⟩
    · exact h.outcomes i build info hold houtcome
    · cases houtcome

/-- The builds that are left alone where the build of a call ends. -/
theorem keepsBuilds_conclude {outcome : Except Cancelled SchemaInfo} {build : Build} {i : Nat}
    (hbuild : t.builds[i]? = some build) (hcall : build.call = k) (hnone : build.outcome = none)
    (hbuilds : u.builds = (t.conclude (i + 1) outcome).builds) : KeepsBuilds k t u := by
  intro j other hother hleft
  have hne : i ≠ j := by
    rintro rfl
    obtain rfl := Option.some.inj (hbuild.symm.trans hother)
    exact hleft.elim (fun h => h hnone) fun h => h hcall
  rw [hbuilds]
  simpa [conclude, List.getElem?_modify, hne] using hother

theorem Sound.outcomes_conclude (h : t.Sound c base births)
    {outcome : Except Cancelled SchemaInfo} {i : Nat}
    (hnew : ∀ info, outcome = .ok info → info.buildId = i + 1) :
    ∀ (j : Nat) (build : Build) (info : SchemaInfo),
      (t.conclude (i + 1) outcome).builds[j]? = some build → build.outcome = some (.ok info) →
        info.buildId = j + 1 := by
  intro j build info hbuild houtcome
  rcases getElem?_modify_cases hbuild with ⟨-, hold⟩ | ⟨rfl, old, -, rfl⟩
  · exact h.outcomes j build info hold houtcome
  · exact hnew info (Option.some.inj houtcome)

theorem Sound.began_conclude (h : t.Sound c base births)
    {outcome : Except Cancelled SchemaInfo} :
    ∀ build ∈ (t.conclude number outcome).builds, build.began ≤ t.elapsed := by
  intro build hbuild
  rcases mem_modify_cases hbuild with hold | ⟨old, hold, rfl⟩
  · exact h.began build hold
  · exact h.began old (List.mem_of_getElem? hold)

theorem Sound.building (h : t.Sound c base births)
    (hk : t.progress? k = some (.building map scope number)) :
    ∃ call, t.calls[k]? = some call ∧
      t.CallSound births k call.opened (.building map scope number) := by
  obtain ⟨call, hcall, hprogress⟩ := Option.map_eq_some_iff.mp hk
  exact ⟨call, hcall, hprogress ▸ h.calls k call hcall⟩

theorem Sound.cancel (h : t.Sound c base births)
    (hk : t.progress? k = some (.building map scope number)) :
    (proceed k (.ended (.error .mk)) (t.conclude number (.error .mk))).Sound c base births := by
  obtain ⟨call, -, birth, i, build, -, -, rfl, hbuild, hcall, hnone, -⟩ := h.building hk
  have hkept : KeepsBuilds k t
      (proceed k (.ended (.error .mk)) (t.conclude (i + 1) (.error .mk))) :=
    keepsBuilds_conclude hbuild hcall hnone rfl
  exact
    { counted := h.counted
      numbered := h.numbered.trans (List.length_modify ..).symm
      began := h.began_conclude
      opened := h.opened_proceed rfl
      entries := fun m birth hbirth entry hentry =>
        (h.entries m birth hbirth entry hentry).kept hkept
      calls := h.calls_proceed rfl hkept (fun _ _ hm => hm) fun _ _ => trivial
      outcomes := h.outcomes_conclude fun info hinfo => by cases hinfo }

/-- A build publishes into the map that its call entered, which was not begun later than the build;
the call returns what was built or what that map held. -/
theorem Sound.publish (h : t.Sound c base births)
    (hk : t.progress? k = some (.building map scope number)) (hinfo : info.buildId = number) :
    (proceed k (.ended (.ok (t.state.schemas.publish map scope info).1))
      (conclude number (.ok info)
        { t with state :=
          { t.state with schemas := (t.state.schemas.publish map scope info).2 } })).Sound c base
      births := by
  obtain ⟨call, hcallk, birth, i, build, hbirth, hopened, rfl, hbuild, hcall, hnone, hbegan⟩ :=
    h.building hk
  obtain ⟨hcurrent, hlast, hlength⟩ := SchemaCache.publish_same map scope info t.state.schemas
  let after := proceed k (.ended (.ok (t.state.schemas.publish map scope info).1))
    (conclude (i + 1) (.ok info)
      { t with state := { t.state with schemas := (t.state.schemas.publish map scope info).2 } })
  have hkept : KeepsBuilds k t after := keepsBuilds_conclude hbuild hcall hnone rfl
  have hfinished : after.Finished info birth := by
    refine ⟨i, { build with outcome := some (.ok info) }, hinfo, ?_, rfl, hbegan⟩
    simp [after, proceed, conclude, hbuild]
  exact
    { counted := h.counted.of_same_site hcurrent hlength rfl
      numbered := hlast.trans (h.numbered.trans (List.length_modify ..).symm)
      began := h.began_conclude
      opened := h.opened_proceed rfl
      entries := by
        intro m birth' hbirth' entry hentry
        rcases SchemaCache.mem_entries_publish hentry with hold | ⟨rfl, rfl⟩
        · exact (h.entries m birth' hbirth' entry hold).kept hkept
        · obtain rfl := Option.some.inj (hbirth.symm.trans hbirth')
          exact hfinished
      calls := by
        refine h.calls_proceed rfl hkept (fun _ _ hm => hm) fun call' hcall' => ?_
        obtain rfl := Option.some.inj (hcallk.symm.trans hcall')
        rcases SchemaCache.publish_eq map scope info t.state.schemas with hown | hfirst
        · rw [hown]
          exact hfinished.mono hopened
        · obtain ⟨entry, hentry, -, hfound⟩ := SchemaCache.mem_of_lookup? hfirst
          rw [← hfound]
          exact ((h.entries map birth hbirth entry hentry).kept hkept).mono hopened
      outcomes := h.outcomes_conclude fun other hother => by
        obtain rfl := Except.ok.inj hother
        exact hinfo }

end Steps

/-! ### Every run keeps the invariant -/

section Runs

variable {c : Collaborators H} {base : Stamp} {births : List Nat} {t u : Traffic H}

/-- One step keeps the invariant. -/
theorem Step.sound (h : Step c t u) (ht : t.Sound c base births) (hbound : t.elapsed < 2 ^ 64) :
    ∃ births', u.Sound c base births' := by
  cases h with
  | begin => exact ⟨births, ht.begin⟩
  | hit k scope info hk hfound => exact ht.hit hbound hfound
  | miss k scope hk hnone => exact ht.miss hbound
  | cancel k map number scope hk => exact ⟨births, ht.cancel hk⟩
  | publish k map number scope info hk hinfo => exact ⟨births, ht.publish hk hinfo⟩
  | meanwhile state hthinned => exact ⟨births, ht.meanwhile hthinned⟩

theorem Step.elapsed_le (h : Step c t u) : t.elapsed ≤ u.elapsed := by
  cases h <;> first | exact Nat.le_refl _ | exact Nat.le_add_right _ _

theorem Run.elapsed_le (h : Run c t u) : t.elapsed ≤ u.elapsed := by
  induction h with
  | here => exact Nat.le_refl _
  | step _ hstep ih => exact Nat.le_trans ih hstep.elapsed_le

/-- The invariant holds after every run in which the stamps advance by less than 2⁶⁴ in all. -/
theorem Run.sound (h : Run c t u) (ht : t.Sound c base births) (hbound : u.elapsed < 2 ^ 64) :
    ∃ births', u.Sound c base births' := by
  induction h with
  | here => exact ⟨births, ht⟩
  | step _ hstep ih =>
    have hbefore := Nat.lt_of_le_of_lt hstep.elapsed_le hbound
    obtain ⟨births', hu⟩ := ih hbefore
    exact hstep.sound hu hbefore

/-- A new cache, before any call. -/
theorem sound_new {s : SchemaState H} {capacity : UInt64}
    (hs : s.schemas = { capacity := capacity }) :
    ({ state := s } : Traffic H).Sound c (mapSource.stamp (c.stamp s.site)) [] where
  counted := SchemaState.counted_new s.site rfl capacity hs
  numbered := by rw [hs]; rfl
  began _ hbuild := by cases hbuild
  opened _ hcall := by cases hcall
  entries _ _ hbirth := by cases hbirth
  calls _ _ hcall := by cases hcall
  outcomes _ _ _ hbuild := by cases hbuild

/-- After a step a call opened when it did before, or it has just begun. -/
theorem Step.opened_cases (h : Step c t u) {k : Nat} {call : Call}
    (hcall : u.calls[k]? = some call) :
    (∃ before, t.calls[k]? = some before ∧ before.opened = call.opened) ∨
      call.opened = t.elapsed := by
  cases h with
  | begin =>
    rw [List.getElem?_append] at hcall
    split at hcall
    · exact .inl ⟨call, hcall, rfl⟩
    · rw [List.mem_singleton.mp (List.mem_of_getElem? hcall)]
      exact .inr rfl
  | meanwhile state hthinned => exact .inl ⟨call, hcall, rfl⟩
  | _ =>
    left
    rcases getElem?_modify_cases hcall with ⟨-, hold⟩ | ⟨rfl, old, hold, rfl⟩
    · exact ⟨call, hold, rfl⟩
    · exact ⟨old, hold, rfl⟩

/-- After a step a build began when it did before, or it has just begun. -/
theorem Step.began_cases (h : Step c t u) {i : Nat} {build : Build}
    (hbuild : u.builds[i]? = some build) :
    (∃ before, t.builds[i]? = some before ∧ before.began = build.began) ∨ t.builds.length ≤ i := by
  have hconcluded : ∀ {number outcome} {t : Traffic H},
      (t.conclude number outcome).builds[i]? = some build →
        ∃ before, t.builds[i]? = some before ∧ before.began = build.began := by
    intro number outcome t hbuild
    rcases getElem?_modify_cases hbuild with ⟨-, hold⟩ | ⟨rfl, old, hold, rfl⟩
    · exact ⟨build, hold, rfl⟩
    · exact ⟨old, hold, rfl⟩
  cases h with
  | begin => exact .inl ⟨build, hbuild, rfl⟩
  | hit => exact .inl ⟨build, hbuild, rfl⟩
  | miss =>
    simp only [proceed, List.getElem?_append] at hbuild
    split at hbuild
    · exact .inl ⟨build, hbuild, rfl⟩
    · rename_i hge
      exact .inr (Nat.le_of_not_lt hge)
  | cancel => exact .inl (hconcluded hbuild)
  | publish => exact .inl (hconcluded hbuild)
  | meanwhile => exact .inl ⟨build, hbuild, rfl⟩

theorem Step.length_builds_le (h : Step c t u) : t.builds.length ≤ u.builds.length := by
  cases h <;> simp [proceed, conclude]

theorem Run.length_builds_le (h : Run c t u) : t.builds.length ≤ u.builds.length := by
  induction h with
  | here => exact Nat.le_refl _
  | step _ hstep ih => exact Nat.le_trans ih hstep.length_builds_le

/-- What has begun before a run had not begun later than that. -/
theorem Run.began_le (h : Run c t u) (ht : ∀ build ∈ t.builds, build.began ≤ t.elapsed) {i : Nat}
    {build : Build} (hbuild : u.builds[i]? = some build) (hi : i < t.builds.length) :
    build.began ≤ t.elapsed := by
  induction h generalizing build with
  | here => exact ht build (List.mem_of_getElem? hbuild)
  | step hrun hstep ih =>
    rcases hstep.began_cases hbuild with ⟨before, hbefore, hsame⟩ | hnew
    · exact hsame ▸ ih hbefore
    · have := hrun.length_builds_le
      omega

/-- A call that begins in a run opens no earlier than the run. -/
theorem Run.opened_ge (h : Run c t u) {k : Nat} {call : Call} (hcall : u.calls[k]? = some call)
    (hk : t.calls.length ≤ k) : t.elapsed ≤ call.opened := by
  induction h generalizing call with
  | here =>
    have := (List.getElem?_eq_some_iff.mp hcall).1
    omega
  | step hrun hstep ih =>
    rcases hstep.opened_cases hcall with ⟨before, hbefore, hsame⟩ | hnew
    · exact hsame ▸ ih hbefore
    · exact hnew ▸ hrun.elapsed_le

end Runs

end Traffic

end SchemaEngine
