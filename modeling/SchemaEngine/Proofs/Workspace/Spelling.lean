import SchemaEngine.Change.Relevance
import SchemaEngine.Proofs.Change.Coalescing
import SchemaEngine.Proofs.Path.Spelling
import SchemaEngine.Proofs.Schema.Outcomes
import SchemaEngine.Proofs.Scope.Precedence

/-!
# Files under two spellings

A path may reach the engine in several spellings: from a configuration, from an event, from an
editor. They are one path wherever it counts. A scope contains all of them or none, and scopes that
were made from different spellings are the same; a file has one name, one cell for its scope, one
place among the waiting edits and one among the watched directories. So what was computed under one
spelling is what is returned under another one, first the scope and then the schema.

## Main definitions

* `FileRef.Interchangeable`: two references that stand for one file wherever files are told apart.
* `ScopeState.Undisturbed`: nothing moves while the scope of a file is asked for.

## Main results

* `Scope.contains_path_congr`: a scope contains all spellings of a path or none.
* `Scope.ofFiles_congr`, `Scope.ofRoots_congr`: listed paths under other spellings.
* `FileRef.interchangeable`: references that are the same can be exchanged.
* `ScopeState.scopeFor_again`, `Dialogue.schemaFor_again`: the scope and the schema that were
  computed under another spelling.
* `spelling_never_matters`: all of it.
-/

set_option autoImplicit false

namespace SchemaEngine

open Relation

/-! ### Scopes -/

namespace Scope

variable {p q : Path}

theorem fileType_congr (h : p.same q = true) : fileType p = fileType q := by
  rw [fileType, fileType, Path.extension_congr h]

mutual

/-- A scope contains a path under each of its spellings. -/
theorem contains_path_congr (h : p.same q = true) : ∀ s : Scope, s.contains p = s.contains q
  | .empty => rfl
  | .files paths => by
    simp only [contains, Path.same_congr_right h]
  | .roots directories => by
    simp only [contains, Path.startsWith_congr h (Path.same_refl _)]
  | .union members => containsAny_path_congr h members
  | .fileTypes base extensions => by
    rw [contains, contains, fileType_congr h, contains_path_congr h base]

theorem containsAny_path_congr (h : p.same q = true) :
    ∀ ss : List Scope, containsAny ss p = containsAny ss q
  | [] => rfl
  | s :: ss => by
    rw [containsAny, containsAny, contains_path_congr h s, containsAny_path_congr h ss]

end

variable {ps qs : List Path}

/-- Sets of paths that are equal up to spellings make scopes that are the same, and the empty scope
if they are empty. -/
theorem nonempty_congr (kind : List Path → Scope)
    (hkind : ∀ {ps qs : List Path}, List.Forall₂ (Path.same · · = true) ps qs →
      (kind ps).same (kind qs) = true) :
    ∀ {ps qs : List Path}, List.Forall₂ (Path.same · · = true) ps qs →
      (match ps with | [] => empty | p :: ps => kind (p :: ps)).same
        (match qs with | [] => empty | q :: qs => kind (q :: qs)) = true
  | [], [], _ => rfl
  | _ :: _, _ :: _, h => hkind h

/-- Files that are listed under other spellings, in another order or more often, are one scope. -/
theorem ofFiles_congr (hpq : ∀ p ∈ ps, ∃ q ∈ qs, p.same q = true)
    (hqp : ∀ q ∈ qs, ∃ p ∈ ps, q.same p = true) : (ofFiles ps).same (ofFiles qs) = true :=
  nonempty_congr files (fun h => sameAll_iff.mpr h) (Path.lawful_order.forall₂_ofList hpq hqp)

/-- So are directories. -/
theorem ofRoots_congr (hpq : ∀ p ∈ ps, ∃ q ∈ qs, p.same q = true)
    (hqp : ∀ q ∈ qs, ∃ p ∈ ps, q.same p = true) : (ofRoots ps).same (ofRoots qs) = true :=
  nonempty_congr roots (fun h => sameAll_iff.mpr h) (Path.lawful_order.forall₂_ofList hpq hqp)

end Scope

/-! ### Sets of edits -/

theorem Sorted.insert_insert_of_eq {α : Type} {order : α → α → Ordering} [Std.TransCmp order]
    {x y : α} (h : order x y = .eq) (ys : List α) :
    insert order y (insert order x ys) = insert order x ys := by
  have hcongr (z : α) : order x z = order y z := Std.TransCmp.congr_left h
  have hsymm : order y x = .eq := Std.OrientedCmp.eq_symm h
  induction ys with
  | nil => rw [insert, insert, hsymm]
  | cons z zs ih =>
    rw [insert]
    split
    case h_1 => rw [insert, hsymm]
    case h_2 hxz => rw [insert, ← hcongr, hxz]
    case h_3 hxz => rw [insert, ← hcongr, hxz, ih]

/-! ### Files -/

/-- Two references that stand for one file wherever files are told apart. -/
structure FileRef.Interchangeable (f g : FileRef) : Prop where
  -- its name, and what that tells of a change
  name : f.name = g.name
  recognized : ∀ names : ConfigFileNames, names.recognizes f = names.recognizes g
  concerns : ∀ (names : ConfigFileNames) (change : FileChange),
    change.concerns names f = change.concerns names g
  -- the cells of its scopes
  cell : ∀ (cache : ScopeCache) (flavor : Flavor), cache.cell? f flavor = cache.cell? g flavor
  ensured : ∀ (cache : ScopeCache) (flavor : Flavor),
    (cache.ensure f flavor).ensure g flavor = cache.ensure f flavor
  filled : ∀ (cache : ScopeCache) (flavor : Flavor) (cell : Cell Dependency Scope),
    cache.setCell f flavor cell = cache.setCell g flavor cell
  dropped : ∀ cache : ScopeCache, cache.forget f = cache.forget g
  -- the edits that wait
  added : ∀ (queue : FlushQueue) (document : DocumentId),
    (queue.push ⟨f, document⟩).1 = (queue.push ⟨g, document⟩).1
  pending : ∀ (queue : FlushQueue) (document : DocumentId),
    List.Forall₂ (WatchedEdit.same · · = true) (queue.push ⟨f, document⟩).2.pending
      (queue.push ⟨g, document⟩).2.pending
  pendingOnce : ∀ (queue : FlushQueue) (document : DocumentId),
    (queue.push ⟨f, document⟩).2.push ⟨g, document⟩ = (false, (queue.push ⟨f, document⟩).2)
  -- the directories that are watched
  watched : ∀ known : List FileRef, (known.any fun d => d.same f) = known.any fun d => d.same g
  watching : ∀ (known : List FileRef) (directory : FileRef),
    ((f :: known).any fun d => d.same directory) = (g :: known).any fun d => d.same directory
  relevant : ∀ {H : Type} (c : Collaborators H) (names : ConfigFileNames) (known : List FileRef)
    (isDirectory : Bool) (change : FileChange) (site : Site H),
    c.files.isInProject site.host f = c.files.isInProject site.host g →
      c.resolver.configFileIn f site = c.resolver.configFileIn g site →
        FileEvent.isRelevant c names known ⟨some f, isDirectory, change⟩ site =
          FileEvent.isRelevant c names known ⟨some g, isDirectory, change⟩ site

variable {f g : FileRef}

theorem FileRef.name_congr (h : f.same g = true) : f.name = g.name := by
  rw [name, name, Path.fileName_congr (same_iff.mp h).1]

theorem ConfigFileNames.recognizes_congr (names : ConfigFileNames) (h : f.same g = true) :
    names.recognizes f = names.recognizes g := by
  rw [recognizes, recognizes, FileRef.name_congr h]

theorem FileChange.concerns_congr (names : ConfigFileNames) (change : FileChange)
    (h : f.same g = true) : change.concerns names f = change.concerns names g := by
  have hnames := names.recognizes_congr h
  cases change with
  | property p oldValue newValue => cases p <;> rfl
  | _ => exact hnames

namespace ScopeCache

/-- A file has its cell under every spelling. -/
theorem ensure_ensure_of_same (cache : ScopeCache) (flavor : Flavor) (h : f.same g = true) :
    (cache.ensure f flavor).ensure g flavor = cache.ensure f flavor := by
  by_cases hroom : cache.options.capacity = 0
  case pos =>
    cases hcell : cache.cell? f flavor with
    | some cell =>
      have hother := cell?_congr h ▸ hcell
      simp only [ensure, hcell, hother]
    | none =>
      have hother := cell?_congr h ▸ hcell
      simp only [ensure, hcell, hother, hroom, if_true]
  case neg =>
    obtain ⟨cell, hcell⟩ := exists_cell?_ensure hroom f flavor
    rw [cell?_congr h] at hcell
    rw [ensure, hcell]

theorem setCell_congr (cache : ScopeCache) (flavor : Flavor) (cell : Cell Dependency Scope)
    (h : f.same g = true) : cache.setCell f flavor cell = cache.setCell g flavor cell := by
  simp only [setCell, FileScope.isFor_congr _ h]

theorem forget_congr (cache : ScopeCache) (h : f.same g = true) :
    cache.forget f = cache.forget g := by
  simp only [forget, FileRef.same_congr_right h]

end ScopeCache

namespace FlushQueue

variable {edit other : WatchedEdit}

theorem order_respects_same : Sorted.Respects WatchedEdit.order (WatchedEdit.same · · = true) := by
  intro a a' b b' ha hb
  rw [← WatchedEdit.order_eq_iff] at ha hb
  exact (Std.TransCmp.congr_left ha).trans (Std.TransCmp.congr_right hb)

/-- An edit waits once, under whichever spelling it came first. -/
theorem push_push_of_same (queue : FlushQueue) (h : edit.same other = true) :
    (queue.push edit).2.push other = (false, (queue.push edit).2) := by
  have hequal := WatchedEdit.order_eq_iff.mpr h
  have hsymm : other.same edit = true :=
    WatchedEdit.order_eq_iff.mp (Std.OrientedCmp.eq_symm hequal)
  have hwaits : (queue.push edit).2.waits other = true := by
    rw [waits_push, hsymm, Bool.true_or]
  refine Prod.ext ?_ ?_
  · rw [push_eq, hwaits, Bool.not_true]
  · exact congrArg (fun pending => { queue with pending := pending })
      (Sorted.insert_insert_of_eq hequal queue.pending)

theorem pending_push_congr (queue : FlushQueue) (h : edit.same other = true) :
    List.Forall₂ (WatchedEdit.same · · = true) (queue.push edit).2.pending
      (queue.push other).2.pending := by
  refine Sorted.insert_forall₂ order_respects_same h (List.forall₂_same.mpr fun pending _ => ?_)
  exact WatchedEdit.order_eq_iff.mp Std.ReflCmp.compare_self

end FlushQueue

/-- References that are the same can be exchanged. -/
theorem FileRef.interchangeable (h : f.same g = true) : f.Interchangeable g := by
  have hedit (document : DocumentId) :
      WatchedEdit.same ⟨f, document⟩ ⟨g, document⟩ = true := by
    rw [WatchedEdit.same, h, beq_self_eq_true, Bool.and_self]
  refine
    { name := name_congr h
      recognized := fun names => names.recognizes_congr h
      concerns := fun names change => change.concerns_congr names h
      cell := fun cache flavor => ScopeCache.cell?_congr h
      ensured := fun cache flavor => cache.ensure_ensure_of_same flavor h
      filled := fun cache flavor cell => cache.setCell_congr flavor cell h
      dropped := fun cache => cache.forget_congr h
      added := fun queue document => ?added
      pending := fun queue document => queue.pending_push_congr (hedit document)
      pendingOnce := fun queue document => queue.push_push_of_same (hedit document)
      watched := fun known => ?watched
      watching := fun known directory => ?watching
      relevant := fun c names known isDirectory change site hproject hlooked => ?relevant }
  case added => rw [FlushQueue.push_eq, FlushQueue.push_eq, queue.waits_congr (hedit document)]
  case watched => simp only [same_congr_right h]
  case watching => simp only [List.any_cons, same_congr_left h]
  case relevant =>
    have hknown : (known.any fun d => d.same f) = known.any fun d => d.same g := by
      simp only [same_congr_right h]
    simp only [FileEvent.isRelevant, FileChange.concernsDirectory, hproject, hlooked, hknown,
      change.concerns_congr names h]

/-! ### Scopes and schemas of a file -/

variable {H : Type} {c : Collaborators H} {flavor : Flavor}

namespace ScopeCache

variable {cache : ScopeCache} {stamp : Dependency → Stamp} {scope : Scope}

/-- What is held for a file is held for each of its spellings. -/
theorem Serves.congr (hserves : cache.Serves stamp f flavor scope) (h : f.same g = true) :
    cache.Serves stamp g flavor scope := by
  obtain ⟨cell, hcell, hpeek⟩ := hserves
  exact ⟨cell, cell?_congr h ▸ hcell, hpeek⟩

end ScopeCache

namespace ScopeState

/-- The scope that was computed for a file is what the next call returns for another spelling, and
nothing else happens, wherever the stamps are those of the first call. -/
theorem scopeFor_again (s : ScopeState H) (h : f.same g = true)
    (hroom : s.cache.options.capacity ≠ 0) {site : Site H} (hsite : c.stamp site = c.stamp s.site) :
    scopeFor c (some g) flavor { (scopeFor c (some f) flavor s).2 with site := site } =
      ((scopeFor c (some f) flavor s).1,
        { (scopeFor c (some f) flavor s).2 with site := site }) := by
  have hserves : (scopeFor c (some f) flavor s).2.cache.Serves (c.stamp s.site) f flavor
      (scopeFor c (some f) flavor s).1 := serves_scopeFor hroom
  rw [← hsite] at hserves
  exact ScopeCache.Serves.served (hserves.congr h)

/-- While the scope of a file is asked for, nothing moves that it depends on, and no stamp takes a
value again that it left. -/
structure Undisturbed (c : Collaborators H) (moments : List (Site H)) (s : ScopeState H)
    (file : FileRef) (flavor : Flavor) : Prop where
  neverReturns : NeverReturns c.stamp (scopeVisits c (some file) flavor s ++ s.site :: moments)
  still : ∀ visit ∈ scopeVisits c (some file) flavor s,
    Agree c.stamp (fileSources file) visit s.site

variable {a : ScopeAnswers} {root : Path} {options : ScopeOptions}
  {moments moments' : List (Site H)} {s s' : ScopeState H}

/-- An undisturbed call gives the scope that the stamps give without a cache. -/
theorem Undisturbed.scopeFor_same (h : Undisturbed c moments s f flavor) (ha : a.Of c)
    (hs : Journey c root options moments s) :
    (scopeFor c (some f) flavor s).1.same
      (a.scopeFor { root := root, options := options } c (some f) flavor s.site) = true := by
  have hsound := hs.sound ha (h.neverReturns.of_sublist (past_sublist _ _ _))
  refine (scopeFor_spec ha hsound (some f) flavor h.neverReturns).1 fun file hfile => ?_
  obtain rfl := Option.some.inj hfile
  exact h.still

/-- Two spellings have one scope where the stamps are the same, in whatever states of whatever
caches they are asked for. -/
theorem Undisturbed.same_of_same (hf : Undisturbed c moments s f flavor)
    (hg : Undisturbed c moments' s' g flavor) (ha : a.Of c)
    (hs : Journey c root options moments s) (hs' : Journey c root options moments' s')
    (h : f.same g = true) (hagree : Agree c.stamp (fileSources g) s.site s'.site) :
    (scopeFor c (some f) flavor s).1.same (scopeFor c (some g) flavor s').1 = true :=
  Scope.same_trans (hf.scopeFor_same ha hs)
    (Scope.same_trans (a.scopeFor_same _ ha h flavor hagree)
      (Scope.same_symm (hg.scopeFor_same ha hs')))

end ScopeState

open SchemaState Dialogue in
/-- The schema that a call has returned for a file is what a later call returns for another
spelling, as long as no stamp moves and nothing is dropped. -/
theorem Dialogue.schemaFor_again {s after : SchemaState H} {capacity : UInt64} {t u w : Dialogue H}
    {info : SchemaInfo} (hs : s.schemas = { capacity := capacity }) (hrun : Run c { state := s } t)
    (htold : Told c t (some f) (.ok info) after u) (h : f.same g = true)
    (hroom : t.state.schemas.capacity ≠ 0)
    (hcells : t.state.scopes.cache.options.capacity ≠ 0) (hw : Steady c u w)
    (hstands : t.Stands c w) (depth : Nat) :
    schemaFor c (depth + 1) (some g) w.state = some (.ok info, w.state.opened c (some g)) := by
  have hguarded : t.state.schemas.Guarded :=
    hrun.traffic.guarded (hs ▸ SchemaCache.guarded_new capacity)
  have horderly : t.traffic.Orderly := hrun.traffic.orderly (Traffic.orderly_new hs)
  have hguardedw : w.state.schemas.Guarded :=
    (htold.reaches.steady.trans hw).run.traffic.guarded hguarded
  -- the scope of the first call is served under both spellings
  obtain ⟨v, henters, hv⟩ := htold.enters
  have hserves := (henters.serves_later (hv.trans hw) hcells hstands).congr h
  have hresolve : w.state.resolveScope c (some g) = (t.scope c (some f), w.state) := by
    rw [resolveScope, ScopeCache.Serves.served hserves]
  have hscope : (w.state.resolveScope c (some g)).1.same (t.scope c (some f)) = true := by
    rw [hresolve]
    exact Scope.same_refl _
  have hadvance : c.advance w.state.site (w.state.resolveScope c (some g)).2.site = 0 := by
    rw [hresolve]
    exact c.advance_self _
  -- and its schema is held in the map that is still current
  have hheld : w.state.held? c (t.scope c (some f)) = some info := by
    rw [held?, htold.freshMap_later hguarded hroom hw hstands.elapsed, Option.bind_some]
    exact htold.kept horderly hroom hw
  exact schemaFor_of_held? hguardedw hadvance hscope hheld depth

open ScopeState SchemaState Dialogue in
/-- Path spelling never matters.

* Paths are the same if they differ in repeated slashes, in dots behind a slash and in a slash at
  the end, any number of times, and in nothing else.
* The same scopes contain the same paths; unions and restrictions of the same scopes are the same,
  and so are listed files and directories, whichever of their spellings stays.
* Two spellings of a file are the same reference, and they can be exchanged wherever files are told
  apart: for their names, for the cells of scopes, for waiting edits and for watched directories.
* What was computed as the scope of a file is what is returned for its other spellings while the
  stamps are what they were. Computed anew, in whatever cache and even where there is no room for a
  cell, it is the same scope, with one entry among the schemas that are kept, provided that the
  collaborators answer alike for both spellings.
* The schema that a call has returned is returned for the other spelling as well, as long as no
  stamp moves and nothing is dropped. -/
theorem spelling_never_matters :
    (∀ p q : Path, p.same q = true ↔ EqvGen Path.Tidies p q) ∧
      (∀ (s t : Scope) (p q : Path), s.same t = true → p.same q = true →
        s.contains p = t.contains q) ∧
      (∀ (s t u u' : Scope) (types : List String), s.same t = true → u.same u' = true →
        (s.merge u).same (t.merge u') = true ∧ (s.restrict types).same (t.restrict types) = true) ∧
      (∀ ps qs : List Path, (∀ p ∈ ps, ∃ q ∈ qs, p.same q = true) →
        (∀ q ∈ qs, ∃ p ∈ ps, q.same p = true) →
          (Scope.ofFiles ps).same (.ofFiles qs) = true ∧
            (Scope.ofRoots ps).same (.ofRoots qs) = true) ∧
      (∀ f g : FileRef, f.path.same g.path = true → f.synthetic = g.synthetic →
        f.same g = true ∧ f.Interchangeable g) ∧
      ∀ {H : Type} {c : Collaborators H} {f g : FileRef}, f.same g = true →
        (∀ (s : ScopeState H) (flavor : Flavor) (site : Site H),
          s.cache.options.capacity ≠ 0 → c.stamp site = c.stamp s.site →
            scopeFor c (some g) flavor { (scopeFor c (some f) flavor s).2 with site := site } =
              ((scopeFor c (some f) flavor s).1,
                { (scopeFor c (some f) flavor s).2 with site := site })) ∧
        (∀ {a : ScopeAnswers} {root : Path} {options : ScopeOptions}
          {moments moments' : List (Site H)} {s s' : ScopeState H} {flavor : Flavor}, a.Of c →
            Journey c root options moments s → Journey c root options moments' s' →
            Undisturbed c moments s f flavor → Undisturbed c moments' s' g flavor →
            Agree c.stamp (fileSources g) s.site s'.site →
              (scopeFor c (some f) flavor s).1.same (scopeFor c (some g) flavor s').1 = true ∧
                ∀ (schemas : SchemaCache) (map : Nat),
                  schemas.lookup? map (scopeFor c (some f) flavor s).1 =
                    schemas.lookup? map (scopeFor c (some g) flavor s').1) ∧
        ∀ {s after : SchemaState H} {capacity : UInt64} {t u w : Dialogue H} {info : SchemaInfo},
          s.schemas = { capacity := capacity } → Run c { state := s } t →
          Told c t (some f) (.ok info) after u →
          t.state.schemas.capacity ≠ 0 → t.state.scopes.cache.options.capacity ≠ 0 →
          Steady c u w → t.Stands c w →
            ∀ depth, schemaFor c (depth + 1) (some g) w.state =
              some (.ok info, w.state.opened c (some g)) := by
  refine ⟨fun p q => Path.same_iff_eqvGen, fun s t p q hscopes hpaths => ?contains,
    fun s t u u' types hs hu => ⟨Scope.merge_congr hs hu, Scope.restrict_congr hs types⟩,
    fun ps qs hpq hqp => ⟨Scope.ofFiles_congr hpq hqp, Scope.ofRoots_congr hpq hqp⟩,
    fun f g hpath hkind => ?files, fun h => ⟨fun s flavor site hroom hsite =>
      scopeFor_again s h hroom hsite, ?answers, ?schemas⟩⟩
  case contains => rw [Scope.contains_congr p hscopes, Scope.contains_path_congr hpaths]
  case files =>
    have hsame : f.same g = true := FileRef.same_iff.mpr ⟨hpath, hkind⟩
    exact ⟨hsame, FileRef.interchangeable hsame⟩
  case answers =>
    intro a root options moments moments' s s' flavor ha hs hs' hf hg hagree
    have hsame := hf.same_of_same hg ha hs hs' h hagree
    exact ⟨hsame, fun _ _ => SchemaCache.lookup?_congr hsame⟩
  case schemas =>
    intro s after capacity t u w info hs hrun htold hroom hcells hw hstands
    exact Dialogue.schemaFor_again hs hrun htold h hroom hcells hw hstands

section Example

open ScopeState SchemaState Dialogue

/-- The file of the other examples under another spelling, `//./a/`. -/
def untidyFile : FileRef where
  path := ⟨[47, 47, 46, 47, 97, 47]⟩

/-- New caches, where nobody is called off any more. -/
def calmStart : SchemaState Bool :=
  { hesitantStart with scopes := { cache := { root := ⟨[47]⟩ }, site := { host := false } } }

theorem plainAnswers_of_hesitant : plainAnswers.Of hesitantCollaborators where
  config _ _ _ := rfl
  hasConfigFiles _ _ := rfl
  libraries _ _ := rfl
  fileStamp _ _ := rfl

/-- Nothing moves while the scope of a file is asked for. -/
theorem undisturbed_calm (file : FileRef)
    (hvisits : ∀ visit ∈ scopeVisits hesitantCollaborators (some file) .resolve calmStart.scopes,
      visit.generation = 0) :
    Undisturbed hesitantCollaborators [] calmStart.scopes file .resolve where
  neverReturns := by
    refine NeverReturns.of_still calmStart.scopes.site fun moment hmoment => ?_
    rcases List.mem_append.mp hmoment with hvisit | hstart
    · rw [stamp_hesitant (hvisits moment hvisit), stamp_hesitant rfl]
    · rw [List.mem_singleton.mp hstart]
  still visit hvisit _ _ := by rw [stamp_hesitant (hvisits visit hvisit), stamp_hesitant rfl]

/-- A call for the file builds the empty schema. -/
theorem told_calm :
    ∃ info after u, Told hesitantCollaborators { state := calmStart } (some plainFile) (.ok info)
        after u ∧
      info.schema = .empty ∧ u.elapsed = 0 ∧
      ∀ moment ∈ u.state.site :: u.moments, moment.generation = 0 := by
  let c := hesitantCollaborators
  let start : Dialogue Bool := { state := calmStart }
  let first : Dialogue Bool := start.begun c (some plainFile)
  have hnext : ∀ {t u : Dialogue Bool}, Reaches c 0 first t → Step c t u → Step c t u :=
    fun _ h => h
  have hschema : Schema.ofRegistry {} = .ok .empty := by decide
  have hcollect := hnext (.refl c 0 first) (.collected 0 _ _ _ _ {} .empty rfl hschema)
  have hcollected := hcollect.reaches_proceed rfl (.of_schemas (.refl _) rfl)
  have hpublish := hnext hcollected (.publish 0 _ _ _ _ _ rfl rfl)
  have hnone : (start.entered c (some plainFile)).state.schemas.lookup?
      (start.map c (some plainFile)) (start.scope c (some plainFile)) = none := by decide
  have htold := Told.of_begun hnone hcollected hpublish rfl
    (.of_schemas (SchemaCache.retains_publish ..) rfl)
  exact ⟨_, _, _, htold, by decide +kernel, by decide +kernel, by decide +kernel⟩

/-- The file and its other spelling: in bytes, in a scope, as references, for the scope and for the
schema that the other one was built for. -/
theorem spelling_never_matters_untidy :
    EqvGen Path.Tidies untidyFile.path plainFile.path ∧
      (Scope.roots [⟨[47, 47]⟩]).contains untidyFile.path =
        (Scope.roots [⟨[47]⟩]).contains plainFile.path ∧
      ((Scope.ofFiles [untidyFile.path, plainFile.path]).merge (.ofRoots [⟨[47, 47]⟩])).same
        ((Scope.ofFiles [plainFile.path]).merge (.ofRoots [⟨[47]⟩])) = true ∧
      untidyFile.Interchangeable plainFile ∧
      (∃ s : ScopeState Bool,
        s.cache.perFile.map (·.file) = [untidyFile] ∧
          scopeFor hesitantCollaborators (some plainFile) .resolve s =
            ((scopeFor hesitantCollaborators (some untidyFile) .resolve calmStart.scopes).1, s)) ∧
      (scopeFor hesitantCollaborators (some untidyFile) .resolve calmStart.scopes).1.same
        (scopeFor hesitantCollaborators (some plainFile) .resolve calmStart.scopes).1 = true ∧
      ∃ (info : SchemaInfo) (w : Dialogue Bool), info.schema = .empty ∧
        schemaFor hesitantCollaborators 1 (some untidyFile) w.state =
          some (.ok info, w.state.opened hesitantCollaborators (some untidyFile)) := by
  obtain ⟨hpaths, hcontains, hoperations, hsets, hfiles, hshared⟩ := spelling_never_matters
  have hsame : untidyFile.same plainFile = true := by decide
  have hback : plainFile.same untidyFile = true := by decide
  obtain ⟨hagain, hanew, -⟩ := hshared (c := hesitantCollaborators) hsame
  obtain ⟨-, -, hschemas⟩ := hshared (c := hesitantCollaborators) hback
  have hlisted :=
    (hsets [untidyFile.path, plainFile.path] [plainFile.path] (by decide) (by decide)).1
  have hroots := (hsets [⟨[47, 47]⟩] [⟨[47]⟩] (by decide) (by decide)).2
  refine ⟨(hpaths _ _).mp (by decide), hcontains _ _ _ _ (by decide) (by decide),
    (hoperations _ _ _ _ [] hlisted hroots).1, (hfiles untidyFile plainFile (by decide) rfl).2,
    ?cell, ?anew, ?schema⟩
  case cell =>
    exact ⟨_, by decide, hagain calmStart.scopes .resolve calmStart.scopes.site (by decide) rfl⟩
  case anew =>
    have hstart : Journey hesitantCollaborators ⟨[47]⟩ {} [] calmStart.scopes := .here _
    exact (hanew plainAnswers_of_hesitant hstart hstart (undisturbed_calm _ (by decide))
      (undisturbed_calm _ (by decide)) fun _ _ => rfl).1
  case schema =>
    let start : Dialogue Bool := { state := calmStart }
    obtain ⟨info, after, u, htold, hempty, hstill, hmoments⟩ := told_calm
    have hstands : start.Stands hesitantCollaborators u := stands_hesitant rfl hstill hmoments
    exact ⟨info, u, hempty, hschemas rfl .here htold (by decide) (by decide) .here hstands 0⟩

end Example

end SchemaEngine
