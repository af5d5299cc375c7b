import SchemaEngine.Proofs.Schema.Cancellation
import SchemaEngine.Proofs.Schema.Freshness

/-!
# One schema for each scope of a map

Whoever enters a map for a scope ends with the one schema that the map holds for it: the first one
that was published there, be it by a call that was asked for in the build of this one, and although
the map may have been left behind since.

A schema that is held now is what a call finds that begins now, if no stamp moves while the scope of
the call is resolved; and a call that finds nothing has definitions collected.

## Main results

* `SchemaState.schemaFor_of_build`: the outcome of a build gives way to what was published before.
* `Dialogue.Told.kept`: what a call has returned is held in its map from then on.
* `SchemaState.isCached_iff`: what is held is what a call finds.
* `one_schema_per_scope`: all of it.
-/

set_option autoImplicit false

namespace SchemaEngine

/-! ### What a call returns and its map holds -/

namespace Dialogue

variable {H : Type} {c : Collaborators H} {t u w : Dialogue H} {context : Option FileRef}
  {s : SchemaState H} {info : SchemaInfo}

/-- What a call has returned is held in the map that it entered, as long as no entry is dropped. -/
theorem Told.kept (h : Told c t context (.ok info) s u) (ht : t.traffic.Orderly)
    (hroom : t.state.schemas.capacity ≠ 0) (hw : Steady c u w) :
    w.state.schemas.lookup? (t.map c context) (t.scope c context) = some info := by
  have hsteady : Traffic.Steady c t.traffic u.traffic := h.reaches.steady.traffic hroom
  have hleft : u.state.schemas.capacity ≠ 0 := hsteady.retains.capacity ▸ hroom
  obtain ⟨after, hfetch, hafter⟩ := h.fetch hroom
  have hcalled : (t.called c context).Orderly := (run_called context).orderly ht
  have hfollows := (hafter.trans (hw.traffic hleft)).follows (hfetch.step.orderly hcalled)
    hfetch.follows
  exact hfollows.returned (hw.run.traffic.ended (length_traffic t ▸ h.progress?))

end Dialogue

namespace SchemaState

variable {H : Type} {c : Collaborators H} {s : SchemaState H} {context : Option FileRef}

/-- A call that finds nothing returns the outcome of its build, unless its map holds a schema for
the scope when the build is over. -/
theorem schemaFor_of_build {built : SchemaInfo} {after : SchemaState H} {depth : Nat}
    (hmiss : s.Misses c context)
    (hbuild : build c (schemaFor c depth) context (s.resolveScope c context).1
      (s.opened c context) = some (.ok built, after)) :
    ∃ info now, schemaFor c (depth + 1) context s = some (.ok info, now) ∧
      info = (after.schemas.lookup? ((s.resolveScope c context).2.currentMap c).1
        (s.resolveScope c context).1).getD built := by
  have hnone : ((s.resolveScope c context).2.currentMap c).2.schemas.lookup?
      ((s.resolveScope c context).2.currentMap c).1 (s.resolveScope c context).1 = none := hmiss
  unfold opened at hbuild
  simp only [schemaFor, hnone, hbuild]
  refine ⟨_, _, rfl, ?_⟩
  unfold SchemaCache.publish
  split
  case h_1 first hfirst => rw [hfirst, Option.getD_some]
  case h_2 hnothing =>
    rw [hnothing, Option.getD_none]
    split <;> rfl

end SchemaState

/-! ### What is held now -/

namespace SchemaState

variable {H : Type} {c : Collaborators H} {s : SchemaState H} {context : Option FileRef}
  {scope : Scope}

/-- A schema is held for the scope of a call if and only if the call finds one, as long as no stamp
moves while that scope is resolved. -/
theorem isCached_iff (hscope : (s.resolveScope c context).1.same scope = true)
    (hstill : c.stamp (s.resolveScope c context).2.site = c.stamp s.site) :
    s.isCached c scope = true ↔ ¬ s.Misses c context := by
  have hsame : (s.resolveScope c context).2.freshMap c = s.freshMap c := by
    unfold freshMap
    rw [hstill]
    rfl
  unfold isCached
  cases hfresh : s.freshMap c with
  | none =>
    have hmisses : s.Misses c context := misses_of_stale (hsame.trans hfresh)
    exact iff_of_false Bool.false_ne_true fun h => h hmisses
  | some map =>
    have hentered := currentMap_of_fresh (hsame.trans hfresh)
    have hlookup : s.Misses c context ↔ s.schemas.lookup? map scope = none := by
      rw [Misses, opened, hentered, SchemaCache.lookup?_congr hscope]
      exact Iff.rfl
    rw [hlookup, Option.isSome_iff_ne_none]

/-- A call that finds a schema returns it, and that is all. -/
theorem schemaFor_of_not_misses (h : ¬ s.Misses c context) (depth : Nat) :
    ∃ info, schemaFor c (depth + 1) context s = some (.ok info, s.opened c context) := by
  obtain ⟨info, hinfo⟩ := Option.ne_none_iff_exists'.mp h
  have hfound : ((s.resolveScope c context).2.currentMap c).2.schemas.lookup?
      ((s.resolveScope c context).2.currentMap c).1 (s.resolveScope c context).1 = some info :=
    hinfo
  refine ⟨info, ?_⟩
  simp only [schemaFor, hfound]
  rfl

/-- A call returns without a build if and only if it finds a schema. -/
theorem not_misses_iff : ¬ s.Misses c context ↔ ∃ depth result s',
    schemaFor c depth context s = some (result, s') ∧
      s'.schemas.lastBuildId = s.schemas.lastBuildId := by
  constructor
  · intro hfinds
    obtain ⟨info, hinfo⟩ := schemaFor_of_not_misses hfinds 0
    exact ⟨1, _, _, hinfo, (currentMap_same _).1⟩
  · rintro ⟨depth, result, s', h, hsame⟩ hmiss
    exact absurd hsame (Nat.ne_of_gt (lastBuildId_lt_of_misses hmiss h))

/-- No build begins in an evaluation if and only if no definitions are collected in it. -/
theorem lastBuildId_eq_iff {tally : H → Nat} (hc : c.Tallies tally) {depth : Nat}
    {result : Except Cancelled SchemaInfo} {s' : SchemaState H}
    (h : schemaFor c depth context s = some (result, s')) :
    s'.schemas.lastBuildId = s.schemas.lastBuildId ↔
      tally s'.site.host = tally s.site.host := by
  have htallied : Tallied tally s s' := upheld_schemaFor (upholdsCalls_tallied hc) _ _ _ _ h
  unfold Tallied at htallied
  omega

/-- Telling how many schemas are held changes nothing, unless entries are dropped. -/
theorem cachedEntries_of_retains (h : s.schemas.Retains (s.cachedEntries c).2.schemas) :
    (s.cachedEntries c).2 = s := by
  unfold cachedEntries at h ⊢
  split
  · rfl
  · rename_i map hfresh
    simp only [hfresh] at h
    have hmaps : s.schemas.maps.modify map (fun entries =>
        entries.take s.schemas.capacity.toNat) = s.schemas.maps := by
      refine List.ext_getElem? fun m => ?_
      have hkept := h.entries m
      simp only [SchemaCache.entries, SchemaCache.trim, List.getElem?_modify] at hkept ⊢
      cases hentries : s.schemas.maps[m]? with
      | none => rfl
      | some entries =>
        by_cases hm : map = m
        · simp only [hentries, hm, ↓reduceIte, Option.map_eq_map, Option.map_some,
            Option.getD_some] at hkept ⊢
          rw [(List.take_sublist _ entries).eq_of_length_le hkept.length_le]
        · simp [hm]
    simp only [SchemaCache.trim, hmaps]

end SchemaState

open Traffic in
/-- One schema for each scope of a map. In every run of a new cache in which no entry is dropped,
with the steps of its calls in any order:

* a map never holds two schemas for one scope, at no two times either;
* a call that entered a map for a scope and ends with a schema ends with the one that the map holds
  for this scope, whatever was published, whatever moved and whichever map was begun meanwhile.

The evaluation of a call, with all calls that are asked for in it, is a stretch of such a run, in
which nothing happens but the evaluation. At whatever moment it begins, what the maps held they
still hold at its end, and a schema that it ends with is held from then on, in the map that the call
entered, for the scope that it resolved. If something was published there for that scope in the
middle of its build, that is what it ends with, and otherwise the outcome of the build.

In every state a schema is held for the resolve scope of a call if and only if the call returns
without a build, that is, without definitions being collected, as long as no stamp moves. Telling
how many schemas are held drops entries or changes nothing. -/
theorem one_schema_per_scope {H : Type} {c : Collaborators H} {s : SchemaState H}
    {capacity : UInt64} (hs : s.schemas = { capacity := capacity }) :
    (∀ t u : Traffic H, Steady c { state := s } t → Steady c t u →
        ∀ m, ∀ entry ∈ t.state.schemas.entries m, ∀ entry' ∈ u.state.schemas.entries m,
          entry.scope.same entry'.scope = true → entry = entry') ∧
      (∀ (t u v : Traffic H) (k : Nat) (scope : Scope), Steady c { state := s } t →
        Fetch c k scope t u → Steady c u v →
        ∀ info, v.progress? k = some (.ended (.ok info)) →
          ∀ scope', scope.same scope' = true →
            v.state.schemas.lookup? (t.map c) scope' = some info) ∧
      (∀ (t : Dialogue H) (depth : Nat) (context : Option FileRef)
        (result : Except Cancelled SchemaInfo) (after : SchemaState H),
        SchemaState.schemaFor c depth context t.state = some (result, after) →
          ∃ u, Dialogue.evaluate c depth context t = some (result, u) ∧
            Dialogue.Told c t context result after u ∧
            (Dialogue.Run c { state := s } t → t.state.schemas.capacity ≠ 0 →
              Steady c t.traffic u.traffic ∧
              (∀ m scope info, t.state.schemas.lookup? m scope = some info →
                after.schemas.lookup? m scope = some info) ∧
              ∀ info, result = .ok info → ∀ w, Dialogue.Steady c u w →
                ∀ scope, (t.scope c context).same scope = true →
                  w.state.schemas.lookup? (t.map c context) scope = some info)) ∧
      (∀ (t : Dialogue H) (depth : Nat) (context : Option FileRef) (built : SchemaInfo)
        (after : SchemaState H), t.state.Misses c context →
        SchemaState.build c (SchemaState.schemaFor c depth) context (t.scope c context)
          (t.state.opened c context) = some (.ok built, after) →
        ∃ info now, SchemaState.schemaFor c (depth + 1) context t.state = some (.ok info, now) ∧
          info = (after.schemas.lookup? (t.map c context) (t.scope c context)).getD built) ∧
      (∀ (now : SchemaState H) (context : Option FileRef) (scope : Scope),
        (now.resolveScope c context).1.same scope = true →
        c.stamp (now.resolveScope c context).2.site = c.stamp now.site →
          (now.isCached c scope = true ↔ ∃ depth result s',
            SchemaState.schemaFor c depth context now = some (result, s') ∧
              s'.schemas.lastBuildId = now.schemas.lastBuildId) ∧
          ∀ tally : H → Nat, c.Tallies tally →
            (now.isCached c scope = true ↔ ∃ depth result s',
              SchemaState.schemaFor c depth context now = some (result, s') ∧
                tally s'.site.host = tally now.site.host)) ∧
      (∀ now : SchemaState H, now.schemas.Retains (now.cachedEntries c).2.schemas →
        (now.cachedEntries c).2 = now) := by
  have hnew : ({ state := s } : Traffic H).Orderly := orderly_new hs
  refine ⟨?single, ?returned, ?evaluated, ?nested, ?held,
    fun _ => SchemaState.cachedEntries_of_retains⟩
  case single =>
    intro t u ht hu m entry hentry entry' hentry' hsame
    have horderly := (ht.trans hu).orderly hnew
    exact horderly.cache.single m entry ((hu.retains.entries m).subset hentry) entry' hentry' hsame
  case returned =>
    intro t u v k scope ht hfetch hv info hreturned scope' hsame
    have hentered := hfetch.step.orderly (ht.orderly hnew)
    rw [← SchemaCache.lookup?_congr hsame]
    exact (hv.follows hentered hfetch.follows).returned hreturned
  case evaluated =>
    intro t depth context result after heval
    obtain ⟨u, hevaluated, htold⟩ := Dialogue.exists_told heval
    refine ⟨u, hevaluated, htold, fun hrun hroom => ?_⟩
    have horderly : t.traffic.Orderly := hrun.traffic.orderly hnew
    have hsteady : Steady c t.traffic u.traffic := htold.reaches.steady.traffic hroom
    refine ⟨hsteady, fun m scope info hfound => ?_, ?_⟩
    · rw [← htold.state]
      exact (hsteady.orderly horderly).cache.single.lookup?_of_retains hsteady.retains hfound
    · rintro info rfl w hw scope hsame
      rw [← SchemaCache.lookup?_congr hsame]
      exact htold.kept horderly hroom hw
  case nested => exact fun t depth context built after => SchemaState.schemaFor_of_build
  case held =>
    intro now context scope hscope hstill
    have hheld := SchemaState.isCached_iff hscope hstill
    refine ⟨hheld.trans SchemaState.not_misses_iff, fun tally hc => ?_⟩
    rw [hheld, SchemaState.not_misses_iff]
    constructor <;> rintro ⟨depth, result, s', heval, hsame⟩
    · exact ⟨depth, result, s', heval, (SchemaState.lastBuildId_eq_iff hc heval).mp hsame⟩
    · exact ⟨depth, result, s', heval, (SchemaState.lastBuildId_eq_iff hc heval).mpr hsame⟩

section Example

open Dialogue

/-- Whoever collects definitions for the first time asks for the same schema again, and then a file
comes up. -/
def reentrantCollaborators : Collaborators Bool :=
  { hesitantCollaborators with
    registryInfo := fun _ site =>
      if site.host then
        .ask { site with host := false } none fun site _ =>
          .done { site with generation := site.generation + 1 } (.ok {})
      else .done site (.ok {}) }

/-- The first build ends last, and its map was left behind meanwhile: the call ends with what the
second build has published there, and its own outcome is held nowhere. -/
theorem one_schema_per_scope_nested_builds :
    ∃ (after : SchemaState Bool) (u : Dialogue Bool),
      SchemaState.schemaFor reentrantCollaborators 2 none hesitantStart =
        some (.ok (plainInfo 2), after) ∧
      evaluate reentrantCollaborators 2 none { state := hesitantStart } =
        some (.ok (plainInfo 2), u) ∧
      u.builds.map (·.outcome) = [some (.ok (plainInfo 1)), some (.ok (plainInfo 2))] ∧
      after.freshMap reentrantCollaborators = none ∧
      after.schemas.lookup? 0 .empty = some (plainInfo 2) := by
  let start : Dialogue Bool := { state := hesitantStart }
  have hresult : (SchemaState.schemaFor reentrantCollaborators 2 none hesitantStart).map
      (fun call => (call.1, call.2.freshMap reentrantCollaborators)) =
        some (.ok (plainInfo 2), none) := by decide +kernel
  have hbuilds : (evaluate reentrantCollaborators 2 none start).map
      (fun call => call.2.builds.map (·.outcome)) =
        some [some (.ok (plainInfo 1)), some (.ok (plainInfo 2))] := by decide +kernel
  obtain ⟨⟨_, after⟩, hcall, hparts⟩ := Option.map_eq_some_iff.mp hresult
  obtain ⟨rfl, hleft⟩ := Prod.mk.inj hparts
  obtain ⟨-, -, hcalls, -⟩ :=
    one_schema_per_scope (c := reentrantCollaborators) (s := hesitantStart) rfl
  obtain ⟨u, hevaluated, htold, hshared⟩ := hcalls start 2 none _ after hcall
  obtain ⟨-, -, hheld⟩ := hshared .here (by decide)
  rw [hevaluated] at hbuilds
  exact ⟨after, u, hcall, hevaluated, Option.some.inj hbuilds, hleft,
    htold.state ▸ hheld _ rfl u .here .empty rfl⟩

end Example

end SchemaEngine
