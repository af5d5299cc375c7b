import SchemaEngine.Proofs.Schema.Evaluation

/-!
# No stale schema

A call that begins after a stamp has moved finds a map that was begun after that, whatever was being
built meanwhile: a late outcome reaches the map that its own call entered, and no later call enters
it again. Builds are numbered in the order in which they begin, so the number tells how old a schema
is, and which one it is.

## Main definitions

* `Traffic.Given`: the schemas that are returned or held.
* `Traffic.BuiltSince`: the outcomes of builds that have begun since a moment.

## Main results

* `Traffic.Run.finished`: a build that has ended keeps its outcome.
* `Traffic.Run.began_after`: what is returned after an advance was begun after it.
* `Dialogue.Told.builtSince`: so is what an evaluation comes to after an advance.
* `no_stale_schema`: all of it, for every run of a new cache.
-/

set_option autoImplicit false

namespace SchemaEngine

namespace Traffic

variable {H : Type} {c : Collaborators H} {base : Stamp} {births : List Nat} {t u v : Traffic H}
  {info info' : SchemaInfo} {k since : Nat}

/-- A schema that a call has returned, or that a map holds. -/
def Given (t : Traffic H) (info : SchemaInfo) : Prop :=
  (∃ k, t.progress? k = some (.ended (.ok info))) ∨
    ∃ m, ∃ entry ∈ t.state.schemas.entries m, entry.info = info

/-- What a call has returned was not built before the call began. -/
theorem Sound.returned (h : t.Sound c base births)
    (hk : t.progress? k = some (.ended (.ok info))) :
    ∃ call, t.calls[k]? = some call ∧ t.Finished info call.opened := by
  obtain ⟨call, hcall, hprogress⟩ := Option.map_eq_some_iff.mp hk
  have hsound := h.calls k call hcall
  rw [hprogress] at hsound
  exact ⟨call, hcall, hsound⟩

/-- Whatever is given is the outcome of a build. -/
theorem Sound.finished_of_given (h : t.Sound c base births) (hgiven : t.Given info) :
    t.Finished info 0 := by
  rcases hgiven with ⟨k, hk⟩ | ⟨m, entry, hentry, rfl⟩
  · obtain ⟨call, -, hfinished⟩ := h.returned hk
    exact hfinished.mono (Nat.zero_le _)
  · obtain ⟨birth, hbirth⟩ := h.counted.born_of_entry hentry
    exact (h.entries m birth hbirth entry hentry).mono (Nat.zero_le _)

/-- The number of an outcome tells the build, and so the outcome. -/
theorem Finished.unique (h : t.Finished info since) {since' : Nat} (h' : t.Finished info' since')
    (hsame : info.buildId = info'.buildId) : info = info' := by
  obtain ⟨i, build, hi, hbuild, houtcome, -⟩ := h
  obtain ⟨j, build', hj, hbuild', houtcome', -⟩ := h'
  obtain rfl : i = j := by omega
  obtain rfl := Option.some.inj (hbuild.symm.trans hbuild')
  exact Except.ok.inj (Option.some.inj (houtcome.symm.trans houtcome'))

/-- A build that has ended keeps its outcome in a step. -/
theorem Step.finished (h : Step c t u) (ht : t.Sound c base births)
    (hfinished : t.Finished info since) : u.Finished info since := by
  have hconclude : ∀ {k map number : Nat} {scope : Scope} {outcome : Except Cancelled SchemaInfo},
      t.progress? k = some (.building map scope number) →
        u.builds = (t.conclude number outcome).builds → u.Finished info since := by
    intro k map number scope outcome hk hbuilds
    obtain ⟨call, -, birth, i, build, -, -, rfl, hbuild, hcall, hnone, -⟩ := ht.building hk
    exact hfinished.kept (keepsBuilds_conclude hbuild hcall hnone hbuilds)
  cases h with
  | begin => exact hfinished
  | hit => exact hfinished
  | miss k => exact hfinished.kept (k := k) (.of_append rfl)
  | cancel k map number scope hk => exact hconclude hk rfl
  | publish k map number scope info hk => exact hconclude hk rfl
  | meanwhile => exact hfinished

/-- A build that has ended keeps its outcome. -/
theorem Run.finished (h : Run c t u) (ht : t.Sound c base births) (hbound : u.elapsed < 2 ^ 64)
    (hfinished : t.Finished info since) : u.Finished info since := by
  induction h with
  | here => exact hfinished
  | step hrun hstep ih =>
    have hbefore := Nat.lt_of_le_of_lt hstep.elapsed_le hbound
    obtain ⟨births', hsound⟩ := hrun.sound ht hbefore
    exact hstep.finished hsound (ih hbefore)

/-- A schema is the outcome of a build that has begun since an earlier moment, and its number is
above every number that was given before that. -/
def BuiltSince (t u : Traffic H) (info : SchemaInfo) : Prop :=
  t.state.schemas.lastBuildId < info.buildId ∧
    ∃ i build, t.builds.length ≤ i ∧ u.builds[i]? = some build ∧
      build.outcome = some (.ok info) ∧ info.buildId = i + 1

/-- What a call returns that begins after an advance was begun after that advance. -/
theorem Run.began_after (h : Run c t u) (ht : t.Sound c base births)
    (hmoved : t.elapsed < u.elapsed) (h' : Run c u v) (hbound : v.elapsed < 2 ^ 64)
    (hk : u.calls.length ≤ k) (hreturned : v.progress? k = some (.ended (.ok info))) :
    BuiltSince t v info := by
  obtain ⟨births', hv⟩ := (h.trans h').sound ht hbound
  obtain ⟨call, hcall, i, build, hi, hbuild, houtcome, hsince⟩ := hv.returned hreturned
  have hopened := h'.opened_ge hcall hk
  have hlater : t.builds.length ≤ i := by
    refine Nat.le_of_not_lt fun hlt => ?_
    have hbegan := (h.trans h').began_le ht.began hbuild hlt
    omega
  refine ⟨?_, i, build, hlater, hbuild, houtcome, hi⟩
  rw [ht.numbered]
  omega

end Traffic

namespace Dialogue

variable {H : Type} {c : Collaborators H} {t u v : Dialogue H} {context : Option FileRef}
  {s : SchemaState H} {info : SchemaInfo} {base : Stamp} {births : List Nat}

theorem Told.given (h : Told c t context (.ok info) s u) : u.traffic.Given info :=
  .inl ⟨_, h.progress?⟩

/-- What a call returns that is evaluated after an advance was begun after that advance. -/
theorem Told.builtSince (h : Told c t context (.ok info) s u) (hbefore : Run c v t)
    (hv : v.traffic.Sound c base births) (hmoved : v.elapsed < t.elapsed)
    (hbound : u.elapsed < 2 ^ 64) : v.traffic.BuiltSince u.traffic info :=
  hbefore.traffic.began_after hv hmoved h.reaches.run.traffic hbound
    (Nat.le_of_eq (length_traffic t)) h.progress?

end Dialogue

open Traffic in
/-- No stale schema. In every run of a new cache in which the stamps advance by less than 2⁶⁴, with
the steps of its calls in any order:

* a call that begins after an advance returns a schema whose build began after that advance, and
  whose number is above every number given before it;
* builds are numbered from one in the order in which they begin, also those that are cancelled, so
  that what is returned or held at any two times is the same if the numbers are;
* the evaluation of a call, with all calls that are asked for in it, is a stretch of such a run, in
  which nothing happens but the evaluation; so what it returns after an advance, at whatever moment
  of whichever other evaluations, was begun after that advance. -/
theorem no_stale_schema {H : Type} {c : Collaborators H} {s : SchemaState H} {capacity : UInt64}
    (hs : s.schemas = { capacity := capacity }) :
    (∀ t₁ t₂ t₃ : Traffic H, Run c { state := s } t₁ → Run c t₁ t₂ → Run c t₂ t₃ →
        t₁.elapsed < t₂.elapsed → t₃.elapsed < 2 ^ 64 →
        ∀ k info, t₂.calls.length ≤ k → t₃.progress? k = some (.ended (.ok info)) →
          t₁.BuiltSince t₃ info) ∧
      (∀ t : Traffic H, Run c { state := s } t → t.elapsed < 2 ^ 64 →
        t.state.schemas.lastBuildId = t.builds.length ∧
          (∀ k map scope number, t.progress? k = some (.building map scope number) →
            ∃ i build, number = i + 1 ∧ t.builds[i]? = some build ∧ build.call = k) ∧
          (∀ i build info, t.builds[i]? = some build → build.outcome = some (.ok info) →
            info.buildId = i + 1)) ∧
      (∀ t u : Traffic H, Run c { state := s } t → Run c t u → u.elapsed < 2 ^ 64 →
        ∀ info info', t.Given info → u.Given info' → info.buildId = info'.buildId →
          info = info') ∧
      (∀ (t : Dialogue H) (depth : Nat) (context : Option FileRef)
        (result : Except Cancelled SchemaInfo) (s' : SchemaState H),
        SchemaState.schemaFor c depth context t.state = some (result, s') →
          ∃ u, Dialogue.evaluate c depth context t = some (result, u) ∧
            Dialogue.Told c t context result s' u ∧
            ∀ info, result = .ok info → u.traffic.Given info ∧
              ∀ t₁ : Dialogue H, Dialogue.Run c { state := s } t₁ → Dialogue.Run c t₁ t →
                t₁.elapsed < t.elapsed → u.elapsed < 2 ^ 64 →
                  t₁.traffic.BuiltSince u.traffic info) := by
  have hnew := sound_new (c := c) hs
  refine ⟨?after, ?numbers, ?unique, ?evaluated⟩
  case after =>
    intro t₁ t₂ t₃ h₁ h₂ h₃ hmoved hbound k info hk hreturned
    have hbefore : t₁.elapsed < 2 ^ 64 :=
      Nat.lt_trans hmoved (Nat.lt_of_le_of_lt h₃.elapsed_le hbound)
    obtain ⟨births, ht₁⟩ := h₁.sound hnew hbefore
    exact h₂.began_after ht₁ hmoved h₃ hbound hk hreturned
  case numbers =>
    intro t ht hbound
    obtain ⟨births, hsound⟩ := ht.sound hnew hbound
    refine ⟨hsound.numbered, fun k map scope number hk => ?_, hsound.outcomes⟩
    obtain ⟨call, -, birth, i, build, -, -, hnumber, hbuild, hcall, -, -⟩ := hsound.building hk
    exact ⟨i, build, hnumber, hbuild, hcall⟩
  case unique =>
    intro t u ht hu hbound info info' hgiven hgiven' hsame
    obtain ⟨births, htsound⟩ := ht.sound hnew (Nat.lt_of_le_of_lt hu.elapsed_le hbound)
    obtain ⟨births', husound⟩ := hu.sound htsound hbound
    have hkept := hu.finished htsound hbound (htsound.finished_of_given hgiven)
    exact hkept.unique (husound.finished_of_given hgiven') hsame
  case evaluated =>
    intro t depth context result s' heval
    obtain ⟨u, hevaluated, htold⟩ := Dialogue.exists_told heval
    refine ⟨u, hevaluated, htold, ?_⟩
    rintro info rfl
    refine ⟨htold.given, fun t₁ h₁ hbefore hmoved hbound => ?_⟩
    have hopened : t.elapsed ≤ u.elapsed := htold.reaches.run.traffic.elapsed_le
    obtain ⟨births, ht₁⟩ := h₁.traffic.sound hnew (show t₁.elapsed < 2 ^ 64 by omega)
    exact htold.builtSince hbefore ht₁ hmoved hbound

section Example

open Traffic

/-- A new cache of schemas. -/
def plainStart : SchemaState Stamp where
  schemas := {}
  scopes := { cache := { root := ⟨[47]⟩ }, site := { host := 0 } }

/-- A schema without types, from the build of a number. -/
def plainInfo (number : Nat) : SchemaInfo where
  schema := .empty
  errors := []
  registry := {}
  buildId := number

/-- The state once the configuration was reloaded. -/
def reloaded (s : SchemaState Stamp) : SchemaState Stamp :=
  s.withSite { s.site with host := s.site.host + 1 }

/-- The configuration is reloaded while a schema is built, and the outcome is published late; a call
that begins after that builds another schema. -/
theorem late_outcome :
    ∃ t₁ t₂ t₃, Run (plainCollaborators leavingLibrary) { state := plainStart } t₁ ∧
      Run (plainCollaborators leavingLibrary) t₁ t₂ ∧
      Run (plainCollaborators leavingLibrary) t₂ t₃ ∧
      t₁.elapsed < t₂.elapsed ∧ t₃.elapsed < 2 ^ 64 ∧ t₂.calls.length = 1 ∧
      t₃.progress? 0 = some (.ended (.ok (plainInfo 1))) ∧
      t₃.progress? 1 = some (.ended (.ok (plainInfo 2))) := by
  let c := plainCollaborators leavingLibrary
  have hhere : ∀ {t u : Traffic Stamp}, Run c t u → Run c u u := fun _ => .here
  have hreload : ∀ t : Traffic Stamp, Step c t
      { t with state := reloaded t.state, elapsed := _ } := fun t => .meanwhile _ (.refl _)
  have hfirst := Run.step (Run.step .here (Step.begin (c := c) { state := plainStart }))
    (.miss 0 .empty rfl (by decide))
  have hsecond := (hhere hfirst).step (hreload _)
  have hpublished := (hhere hsecond).step (.publish 0 0 1 .empty (plainInfo 1) rfl rfl)
  have hbuilding := (hpublished.step (.begin _)).step (.miss 1 .empty rfl (by decide))
  have hthird := hbuilding.step (.publish 1 1 2 .empty (plainInfo 2) rfl rfl)
  exact ⟨_, _, _, hfirst, hsecond, hthird, by decide, by decide, rfl, rfl, rfl⟩

/-- The late outcome is not what the next call returns; and a call that is evaluated after another
reload builds again. -/
theorem no_stale_schema_late_outcome :
    (∃ t₁ t₃ : Traffic Stamp, t₃.progress? 0 = some (.ended (.ok (plainInfo 1))) ∧
      t₃.progress? 1 = some (.ended (.ok (plainInfo 2))) ∧ t₁.BuiltSince t₃ (plainInfo 2)) ∧
    ∃ (t₁ t u : Dialogue Stamp) (after : SchemaState Stamp),
      Dialogue.Run (plainCollaborators leavingLibrary) t₁ t ∧ t₁.elapsed < t.elapsed ∧
      SchemaState.schemaFor (plainCollaborators leavingLibrary) 1 none t.state =
        some (.ok (plainInfo 2), after) ∧
      t₁.traffic.BuiltSince u.traffic (plainInfo 2) := by
  let c := plainCollaborators leavingLibrary
  obtain ⟨hafter, -, -, hcalls⟩ := no_stale_schema (c := c) (s := plainStart) rfl
  constructor
  · obtain ⟨t₁, t₂, t₃, h₁, h₂, h₃, hmoved, hbound, hone, hlate, hlater⟩ := late_outcome
    exact ⟨t₁, t₃, hlate, hlater,
      hafter t₁ t₂ t₃ h₁ h₂ h₃ hmoved hbound 1 _ (Nat.le_of_eq hone) hlater⟩
  · have hreload : ∀ {t u : Dialogue Stamp}, Dialogue.Run c t u →
        Dialogue.Run c u (u.moveTo c (reloaded u.state)) :=
      fun _ => (Dialogue.Step.meanwhile _ _ (reloaded _).site (.refl _) (.refl _)).run
    have hagain := fun {t u : Dialogue Stamp} (_ : Dialogue.Run c t u) =>
      hcalls u 1 none (.ok (plainInfo 2))
    obtain ⟨t₁, hfirst, htold, -⟩ := hcalls { state := plainStart } 1 none (.ok (plainInfo 1)) _ rfl
    have hrun := htold.reaches.run
    cases hfirst
    obtain ⟨u, hsecond, -, hserved⟩ := hagain (hreload hrun) _ rfl
    cases hsecond
    have hbuilt := (hserved _ rfl).2 _ hrun (hreload hrun) (by decide +kernel) (by decide +kernel)
    exact ⟨_, _, _, _, hreload hrun, by decide +kernel, rfl, hbuilt⟩

end Example

end SchemaEngine
