import SchemaEngine.Memo.Script
import SchemaEngine.Proofs.Memo.Moments

/-!
# Where the values of cells come from

The producer of a cell may take any steps on the bench that holds the cell, also on the same cell.
An inner production can then be stored between the moment at which an outer one recorded its stamps
and the moment at which the outer one is stored, and the last one to be stored stays. Whatever the
order is, a cell holds the value of one production beside the stamps recorded for that very
production, so that a value is served only while its own stamps are current.

A chronicle is a bench together with what it does not remember: the earlier readings of its stamps
and every production so far. Productions begin and end in any order, which covers every nesting of
them.

## Main definitions

* `Production`: one execution of a producer.
* `Chronicle`: a bench, its earlier readings and its productions.
* `Chronicle.Step`, `Chronicle.Run`: what may happen to a bench, in any order.
* `Chronicle.consulted`, `Chronicle.record`, `Chronicle.recordAll`: what happens when a cell is
  consulted, in a step of a script, and in a script.
* `Chronicle.Tracks`: what happens to a bench under a function is recorded, step by step.

## Main results

* `Chronicle.tracks_consulted`: consulting a cell is recorded if what its producer does is.
* `Chronicle.tracks_recordAll`: scripts are recorded.
* `Chronicle.slot_consult`: what a cell holds that was consulted.
* `Chronicle.Run.sound`: what a run knows of its productions and of the values held.
* `Chronicle.cells_serve_current`: a cell holds the value of a production beside the stamps of that
  production, and serves it exactly as long as they are current.
-/

set_option autoImplicit false

namespace SchemaEngine

variable {V β : Type}

/-- What a cell serves without a production: the value held, if every stamp recorded for it is the
present one of its source. -/
def Cell.Serves (read : String → Stamp) (cell : Cell String V) (value : V) : Prop :=
  ∃ memo, cell.slot = some memo ∧ memo.value = value ∧
    ∀ entry ∈ memo.stamps.entries, entry.1.stamp read = entry.2

namespace Cell

variable {read : String → Stamp} {cell : Cell String V} {value : V}

theorem peek_eq_some_iff : cell.peek read = some value ↔ cell.Serves read value := by
  unfold peek Serves
  cases cell.slot with
  | none => simp
  | some memo =>
    have hcurrent : memo.stamps.isCurrent read = true ↔
        ∀ entry ∈ memo.stamps.entries, entry.1.stamp read = entry.2 := by
      simp [Snapshot.isCurrent]
    simp only [Option.some.injEq, exists_eq_left', ← hcurrent]
    split <;> simp_all

theorem peek_eq_none_iff : cell.peek read = none ↔ ∀ value, ¬ cell.Serves read value := by
  simp only [← peek_eq_some_iff, Option.eq_none_iff_forall_ne_some, ne_eq]

theorem isFresh_iff : cell.isFresh read = true ↔ ∃ value, cell.Serves read value := by
  simp only [isFresh_eq_isSome_peek, Option.isSome_iff_exists, peek_eq_some_iff]

end Cell

/-- One execution of the producer of a cell. -/
structure Production (V : Type) where
  /-- The name of the cell. -/
  cell : String
  /-- The stamps that were recorded for it. -/
  stamps : Snapshot String
  /-- The reading of stamps just before it began. -/
  start : String → Stamp
  /-- The readings before that one, latest first. -/
  past : List (String → Stamp)
  /-- The value that it ended with, if it succeeded, once it has ended. -/
  result : Option (Option V) := none

/-- A bench, the earlier readings of its stamps, latest first, and its productions in the order in
which they began. -/
structure Chronicle (V : Type) where
  bench : Bench V
  past : List (String → Stamp) := []
  productions : List (Production V) := []

namespace Chronicle

/-- All readings of the stamps, latest first. -/
def moments (c : Chronicle V) : List (String → Stamp) :=
  c.bench.stampOf :: c.past

/-- The stamps take other values. -/
def move (c : Chronicle V) (reading : String → Stamp) : Chronicle V :=
  { c with bench := { c.bench with stampOf := reading }, past := c.moments }

/-- A cell is replaced. -/
def put (c : Chronicle V) (name : String) (cell : Cell String V) : Chronicle V :=
  { c with bench := (Bench.place name).put cell c.bench }

/-- The production of a cell that begins now. -/
def opening (c : Chronicle V) (name : String) : Production V where
  cell := name
  stamps := (c.bench.cellOf name).capture c.bench.stampOf
  start := c.bench.stampOf
  past := c.past

/-- The stamps of a cell's dependencies are recorded, and its producer begins. -/
def begin (c : Chronicle V) (name : String) : Chronicle V :=
  { c with productions := c.productions ++ [c.opening name] }

/-- The production of a number ends. Its value, if it has one, is stored with its stamps. -/
def finish (c : Chronicle V) (number : Nat) (production : Production V) (value : Option V) :
    Chronicle V :=
  let ended := { c with
    productions := c.productions.set number { production with result := some value } }
  match value with
  | none => ended
  | some v =>
    ended.put production.cell ((c.bench.cellOf production.cell).store v production.stamps)

/-- What may happen to a bench. -/
inductive Step : Chronicle V → Chronicle V → Prop where
  /-- Stamps move. -/
  | move (c : Chronicle V) (reading : String → Stamp) : Step c (c.move reading)
  /-- The value of a cell is dropped. -/
  | invalidate (c : Chronicle V) (name : String) :
      Step c (c.put name (c.bench.cellOf name).invalidate)
  /-- A snapshot is taken. -/
  | capture (c : Chronicle V) (snapshotOf : String → Snapshot String) :
      Step c { c with bench := { c.bench with snapshotOf := snapshotOf } }
  /-- A producer begins, which it does for a cell with nothing to serve. -/
  | begin (c : Chronicle V) (name : String)
      (hstale : (c.bench.cellOf name).peek c.bench.stampOf = none) : Step c (c.begin name)
  /-- A producer that has begun ends. -/
  | finish (c : Chronicle V) (number : Nat) (production : Production V) (value : Option V)
      (hbegun : c.productions[number]? = some production) (hopen : production.result = none) :
      Step c (c.finish number production value)

/-- Any number of steps. -/
inductive Run : Chronicle V → Chronicle V → Prop where
  | refl (c : Chronicle V) : Run c c
  | tail {c d e : Chronicle V} (run : Run c d) (step : Step d e) : Run c e

theorem Run.trans {c d e : Chronicle V} (h : Run c d) (h' : Run d e) : Run c e := by
  induction h' with
  | refl => exact h
  | tail _ step ih => exact ih.tail step

theorem Step.run {c d : Chronicle V} (h : Step c d) : Run c d :=
  (Run.refl c).tail h

/-! ### What happens to a bench is recorded -/

/-- A cell is consulted. If it serves a value nothing happens. Otherwise a production of it begins,
all that its producer does happens, and the production ends with what the producer gives. -/
def consulted (name : String) (value : Option V) (during : Chronicle V → Chronicle V)
    (c : Chronicle V) : Chronicle V :=
  match (c.bench.cellOf name).peek c.bench.stampOf with
  | some _ => c
  | none => (during (c.begin name)).finish c.productions.length (c.opening name) value

mutual

/-- What happens in a step of a script. -/
def record : Bench.Step V → Chronicle V → Chronicle V
  | .advance name, c => c.move (Bench.assign c.bench.stampOf name (c.bench.stampOf name + 1))
  | .set name stamp, c => c.move (Bench.assign c.bench.stampOf name stamp)
  | .invalidate name, c => c.put name (c.bench.cellOf name).invalidate
  | .capture name sources, c =>
    let snapshot := Snapshot.capture c.bench.stampOf (sources.map c.bench.source)
    { c with bench := { c.bench with
        snapshotOf := Bench.assign c.bench.snapshotOf name snapshot } }
  | .consult name outcome during, c => c.consulted name outcome.toOption fun d => recordAll during d
  | .stamp _, c => c
  | .peek _, c => c
  | .inspect _, c => c
  | .describeCell _, c => c
  | .describeSource _, c => c

/-- What happens in a script. -/
def recordAll : List (Bench.Step V) → Chronicle V → Chronicle V
  | [], c => c
  | step :: steps, c => recordAll steps (record step c)

end

/-- A function on chronicles records what happens to a bench under a function on benches: it takes
steps that lead to the bench that the latter gives, and leaves the productions that had begun before
as they are. -/
structure Tracks (track : Chronicle V → Chronicle V) (f : Bench V → β × Bench V) : Prop where
  run : ∀ c, Run c (track c)
  kept : ∀ c, c.productions <+: (track c).productions
  bench : ∀ c, (track c).bench = (f c.bench).2

theorem consult_of_peek (produce : Bench V → β × Bench V) (value : β → Option V) {name : String}
    {bench : Bench V} {v : V} (h : (bench.cellOf name).peek bench.stampOf = some v) :
    (Bench.place name).consult value produce bench = (.cached v, bench) := by
  have hpeek : ((Bench.place name).cell bench).peek ((Bench.place name).read bench) = some v := h
  simp only [Place.consult, hpeek]

/-- Consulting a cell that has nothing to serve runs its producer, and stores what that gives with
the stamps from before. -/
theorem consult_of_peek_eq_none (produce : Bench V → β × Bench V) (value : β → Option V)
    {name : String} {bench : Bench V} (h : (bench.cellOf name).peek bench.stampOf = none) :
    (Bench.place name).consult value produce bench =
      (.produced (produce bench).1,
        match value (produce bench).1 with
        | none => (produce bench).2
        | some v => (Bench.place name).put (((produce bench).2.cellOf name).store v
            ((bench.cellOf name).capture bench.stampOf)) (produce bench).2) := by
  have hpeek : ((Bench.place name).cell bench).peek ((Bench.place name).read bench) = none := h
  simp only [Place.consult, hpeek]
  cases value (produce bench).1 <;> rfl

/-- When the producer that a cell with nothing to serve was consulted with is done, its production
is still open, and ending it leads to what consulting the cell leads to. -/
theorem finish_consult {c d : Chronicle V} {name : String} (produce : Bench V → β × Bench V)
    (value : β → Option V) (hstale : (c.bench.cellOf name).peek c.bench.stampOf = none)
    (hextends : (c.begin name).productions <+: d.productions)
    (hbench : d.bench = (produce c.bench).2) :
    ∃ nested, d.productions = c.productions ++ c.opening name :: nested ∧
      (let ended := d.finish c.productions.length (c.opening name) (value (produce c.bench).1)
      ended.productions = c.productions ++
          { c.opening name with result := some (value (produce c.bench).1) } :: nested ∧
        ended.bench = ((Bench.place name).consult value produce c.bench).2) := by
  obtain ⟨nested, hnested⟩ := hextends
  simp only [begin, List.append_assoc, List.cons_append, List.nil_append] at hnested
  refine ⟨nested, hnested.symm, ?_, ?_⟩
  · cases value (produce c.bench).1 <;> simp [finish, put, ← hnested, List.set_append_right]
  · rw [consult_of_peek_eq_none produce value hstale]
    cases value (produce c.bench).1 <;> simp [finish, put, hbench, opening]

theorem getElem?_opening {c d : Chronicle V} {name : String} {nested : List (Production V)}
    (h : d.productions = c.productions ++ c.opening name :: nested) :
    d.productions[c.productions.length]? = some (c.opening name) := by
  simp [h]

theorem consult_of_stale (produce : Bench V → β × Bench V) (value : β → Option V) {name : String}
    {bench : Bench V} (h : ∀ v, ¬ (bench.cellOf name).Serves bench.stampOf v) :
    ((Bench.place name).consult value produce bench).1 = .produced (produce bench).1 := by
  rw [consult_of_peek_eq_none produce value (Cell.peek_eq_none_iff.mpr h)]

/-- Getting the value of a cell that has nothing to serve is consulting it. -/
theorem get_of_stale {produce : Bench V → V × Bench V} {name : String} {bench : Bench V}
    (h : ∀ v, ¬ (bench.cellOf name).Serves bench.stampOf v) :
    (Bench.place name).get produce bench =
      ((produce bench).1, ((Bench.place name).consult some produce bench).2) := by
  have hproduced := consult_of_stale produce some h
  unfold Place.get
  split
  case h_1 hcached =>
    rw [hcached] at hproduced
    cases hproduced
  case h_2 hconsulted =>
    rw [hconsulted] at hproduced ⊢
    cases hproduced
    rfl

/-- What a cell holds that had nothing to serve when it was consulted: the value of its producer
with the stamps from before, and else nothing has changed since the producer was done. -/
theorem slot_consult (produce : Bench V → β × Bench V) (value : β → Option V) {name : String}
    {bench : Bench V} (h : ∀ v, ¬ (bench.cellOf name).Serves bench.stampOf v) :
    (value (produce bench).1 = none →
      ((Bench.place name).consult value produce bench).2 = (produce bench).2) ∧
    ∀ v, value (produce bench).1 = some v →
      let after := ((Bench.place name).consult value produce bench).2
      (after.cellOf name).slot =
          some ⟨v, .capture bench.stampOf (bench.cellOf name).dependencies⟩ ∧
        (∀ other, other ≠ name → after.cellOf other = (produce bench).2.cellOf other) ∧
        after.stampOf = (produce bench).2.stampOf := by
  rw [consult_of_peek_eq_none produce value (Cell.peek_eq_none_iff.mpr h)]
  refine ⟨fun hnone => by rw [hnone], fun v hsome => ?_⟩
  rw [hsome]
  refine ⟨?_, fun other hother => ?_, rfl⟩
  · simp [Bench.place, Bench.assign, Cell.store, Cell.capture]
  · simp [Bench.place, Bench.assign, hother]

section Consulting

variable {track : Chronicle V → Chronicle V} {produce : Bench V → β × Bench V}
  {c : Chronicle V} {name : String}

theorem consulted_of_fresh (value : Option V) {v : V}
    (h : (c.bench.cellOf name).peek c.bench.stampOf = some v) :
    c.consulted name value track = c := by
  rw [consulted, h]

theorem consulted_of_stale (value : Option V)
    (h : (c.bench.cellOf name).peek c.bench.stampOf = none) :
    c.consulted name value track =
      (track (c.begin name)).finish c.productions.length (c.opening name) value := by
  rw [consulted, h]

/-- Consulting a cell that has nothing to serve is one more production, around those of the
producer, with the stamps from before and the value that the producer gives. -/
theorem Tracks.productions_consulted (h : Tracks track produce) (value : β → Option V)
    (hstale : (c.bench.cellOf name).peek c.bench.stampOf = none) :
    ∃ nested, (track (c.begin name)).productions = c.productions ++ c.opening name :: nested ∧
      (c.consulted name (value (produce c.bench).1) track).productions = c.productions ++
        { c.opening name with result := some (value (produce c.bench).1) } :: nested := by
  obtain ⟨nested, hopen, hended, -⟩ := finish_consult produce value hstale
    (h.kept (c.begin name)) (h.bench (c.begin name))
  rw [consulted_of_stale _ hstale]
  exact ⟨nested, hopen, hended⟩

/-- Consulting a cell is recorded if what its producer does is. -/
theorem tracks_consulted (h : Tracks track produce) (value : β → Option V) (name : String) :
    Tracks (fun c => c.consulted name (value (produce c.bench).1) track)
      ((Bench.place name).consult value produce) := by
  constructor <;> intro c <;> cases hpeek : (c.bench.cellOf name).peek c.bench.stampOf
  case run.some =>
    rw [consulted_of_fresh _ hpeek]
    exact .refl c
  case run.none =>
    obtain ⟨nested, hopen, -⟩ := h.productions_consulted value hpeek
    rw [consulted_of_stale _ hpeek]
    exact ((Step.begin c name hpeek).run.trans (h.run _)).tail
      (.finish _ _ _ _ (getElem?_opening hopen) rfl)
  case kept.some => simp only [consulted_of_fresh _ hpeek, List.prefix_rfl]
  case kept.none =>
    obtain ⟨nested, -, hended⟩ := h.productions_consulted value hpeek
    rw [hended]
    exact List.prefix_append _ _
  case bench.some => rw [consulted_of_fresh _ hpeek, consult_of_peek produce value hpeek]
  case bench.none =>
    obtain ⟨nested, -, -, hbench⟩ := finish_consult produce value hpeek
      (h.kept (c.begin name)) (h.bench (c.begin name))
    rw [consulted_of_stale _ hpeek]
    exact hbench

end Consulting

/-- A producer that runs a script and then has an outcome. -/
def producing (outcome : Except String V) (during : List (Bench.Step V)) (bench : Bench V) :
    (Except String V × List (Bench.Report V × List Bool)) × Bench V :=
  ((outcome, (Bench.runAll during bench).1), (Bench.runAll during bench).2)

theorem run_consult (name : String) (outcome : Except String V) (during : List (Bench.Step V))
    (bench : Bench V) :
    Bench.run (.consult name outcome during) bench =
      let consulted := (Bench.place name).consult (fun produced => produced.1.toOption)
        (producing outcome during) bench
      (Bench.reportOf consulted.1, consulted.2) :=
  rfl

/-- A function that leaves the bench as it is. -/
theorem tracks_of_bench_eq {f : Bench V → β × Bench V} (h : ∀ bench, (f bench).2 = bench) :
    Tracks id f :=
  ⟨.refl, fun _ => List.prefix_rfl, fun c => (h c.bench).symm⟩

theorem tracks_producing {during : List (Bench.Step V)} (outcome : Except String V)
    (h : Tracks (recordAll during) (Bench.runAll during)) :
    Tracks (recordAll during) (producing outcome during) :=
  ⟨h.run, h.kept, h.bench⟩

/-- One step that begins no production. -/
theorem tracks_of_step {f : Bench V → β × Bench V} {track : Chronicle V → Chronicle V}
    (hstep : ∀ c, Step c (track c)) (hkept : ∀ c, (track c).productions = c.productions)
    (hbench : ∀ c, (track c).bench = (f c.bench).2) : Tracks track f :=
  ⟨fun c => (hstep c).run, fun c => (hkept c).symm ▸ List.prefix_rfl, hbench⟩

mutual

theorem tracks_record : ∀ step : Bench.Step V, Tracks (record step) (Bench.run step)
  | .advance _ => tracks_of_step (fun c => .move c _) (fun _ => rfl) fun _ => rfl
  | .set _ _ => tracks_of_step (fun c => .move c _) (fun _ => rfl) fun _ => rfl
  | .invalidate name => tracks_of_step (fun c => .invalidate c name) (fun _ => rfl) fun _ => rfl
  | .capture _ _ => tracks_of_step (fun c => .capture c _) (fun _ => rfl) fun _ => rfl
  | .consult name outcome during => by
    have hconsulted := tracks_consulted (tracks_producing outcome (tracks_recordAll during))
      (fun produced => produced.1.toOption) name
    exact ⟨hconsulted.run, hconsulted.kept, hconsulted.bench⟩
  | .stamp _ => tracks_of_bench_eq fun _ => rfl
  | .peek _ => tracks_of_bench_eq fun _ => rfl
  | .inspect _ => tracks_of_bench_eq fun _ => rfl
  | .describeCell _ => tracks_of_bench_eq fun _ => rfl
  | .describeSource _ => tracks_of_bench_eq fun _ => rfl

/-- Every script is recorded, however its producers are nested. -/
theorem tracks_recordAll : ∀ steps : List (Bench.Step V),
    Tracks (recordAll steps) (Bench.runAll steps)
  | [] => tracks_of_bench_eq fun _ => rfl
  | step :: steps => by
    have hfirst := tracks_record step
    have hrest := tracks_recordAll steps
    refine ⟨fun c => (hfirst.run c).trans (hrest.run _),
      fun c => (hfirst.kept c).trans (hrest.kept _), fun c => ?_⟩
    change (recordAll steps (record step c)).bench = _
    rw [hrest.bench, hfirst.bench]
    rfl

end

/-! ### Productions and reports -/

end Chronicle

namespace Bench

mutual

/-- The outcomes of the producers that have run, as a report tells of them, each one before those
that ran in it. -/
def ran : Report V → List (Except String V)
  | .outcome result (some during) => result :: ranAll during
  | _ => []

/-- The outcomes that the reports of a script tell of. -/
def ranAll : List (Report V × List Bool) → List (Except String V)
  | [] => []
  | (report, _) :: reports => ran report ++ ranAll reports

end

end Bench

namespace Chronicle

/-- How the productions have ended. -/
def results (c : Chronicle V) : List (Option (Option V)) :=
  c.productions.map (·.result)

/-- The production of a cell that is consulted comes before those that its producer leads to. -/
theorem results_consulted {track : Chronicle V → Chronicle V} {produce : Bench V → β × Bench V}
    (h : Tracks track produce) (value : β → Option V) {c : Chronicle V} {name : String}
    (hstale : (c.bench.cellOf name).peek c.bench.stampOf = none) {ran : List (Option (Option V))}
    (hran : (track (c.begin name)).results = (c.begin name).results ++ ran) :
    (c.consulted name (value (produce c.bench).1) track).results =
      c.results ++ some (value (produce c.bench).1) :: ran := by
  obtain ⟨nested, hopen, hended⟩ := h.productions_consulted value hstale
  rw [results, hopen] at hran
  have hnested : nested.map (·.result) = ran := by simpa [results, begin, opening] using hran
  simp [results, hended, hnested]

mutual

theorem results_record (step : Bench.Step V) (c : Chronicle V) :
    (record step c).results =
      c.results ++ (Bench.ran (Bench.run step c.bench).1).map fun result =>
        some result.toOption := by
  cases step with
  | advance | set | invalidate | capture => exact (List.append_nil _).symm
  | stamp | peek | inspect | describeCell | describeSource => exact (List.append_nil _).symm
  | consult name outcome during =>
    rw [record, run_consult]
    cases hpeek : (c.bench.cellOf name).peek c.bench.stampOf with
    | some v =>
      rw [consulted_of_fresh _ hpeek, consult_of_peek _ _ hpeek]
      exact (List.append_nil _).symm
    | none =>
      have hproduced := consult_of_stale (producing outcome during)
        (fun produced => produced.1.toOption) (Cell.peek_eq_none_iff.mp hpeek)
      have hresults := results_consulted (tracks_producing outcome (tracks_recordAll during))
        (fun produced => produced.1.toOption) hpeek (results_recordAll during (c.begin name))
      simp only [hproduced]
      exact hresults

/-- The productions of a script are those that its reports tell of. -/
theorem results_recordAll (steps : List (Bench.Step V)) (c : Chronicle V) :
    (recordAll steps c).results =
      c.results ++ (Bench.ranAll (Bench.runAll steps c.bench).1).map fun result =>
        some result.toOption := by
  cases steps with
  | nil => exact (List.append_nil _).symm
  | cons step steps =>
    rw [recordAll, results_recordAll steps (record step c), results_record step c,
      (tracks_record step).bench, Bench.runAll, Bench.ranAll, List.map_append, List.append_assoc]

end

/-! ### What a run knows -/

/-- What is known of a production: it recorded the stamps of its cell's dependencies as they were
just before it began. -/
structure Recorded (c : Chronicle V) (production : Production V) : Prop where
  stamps : production.stamps =
    .capture production.start (c.bench.cellOf production.cell).dependencies
  moments : ∃ since, c.moments = since ++ production.start :: production.past

/-- A cell's memo is a production's value with the stamps that this production recorded. -/
def Origin (c : Chronicle V) (name : String) (memo : Memo String V) (production : Production V) :
    Prop :=
  production ∈ c.productions ∧ production.cell = name ∧
    production.result = some (some memo.value) ∧ production.stamps = memo.stamps

/-- What is known in every state of a run. -/
structure Sound (c : Chronicle V) : Prop where
  recorded : ∀ production ∈ c.productions, c.Recorded production
  held : ∀ name memo, (c.bench.cellOf name).slot = some memo →
    ∃ production, c.Origin name memo production

variable {c d : Chronicle V}

/-- Time passes, and the dependencies of no cell change. -/
theorem Recorded.mono {production : Production V} (h : c.Recorded production)
    (hdependencies : ∀ name, (d.bench.cellOf name).dependencies =
      (c.bench.cellOf name).dependencies)
    (hmoments : ∃ since, d.moments = since ++ c.moments) : d.Recorded production := by
  obtain ⟨since, hsince⟩ := hmoments
  obtain ⟨before, hbefore⟩ := h.moments
  refine ⟨by rw [h.stamps, hdependencies], since ++ before, ?_⟩
  rw [hsince, hbefore, List.append_assoc]

theorem slot_put (c : Chronicle V) (name other : String) (cell : Cell String V) :
    ((c.put name cell).bench.cellOf other).slot =
      if other = name then cell.slot else (c.bench.cellOf other).slot := by
  simp only [put, Bench.place, Bench.assign]
  split <;> rfl

theorem dependencies_put (c : Chronicle V) {name : String} {cell : Cell String V}
    (h : cell.dependencies = (c.bench.cellOf name).dependencies) (other : String) :
    ((c.put name cell).bench.cellOf other).dependencies = (c.bench.cellOf other).dependencies := by
  simp only [put, Bench.place, Bench.assign]
  split
  · rename_i hname
    rw [h, hname]
  · rfl

/-- The productions after one of them has ended. -/
theorem mem_set_ended {number : Nat} {production other : Production V} {value : Option V}
    (hbegun : c.productions[number]? = some production) (hopen : production.result = none)
    {v : V} (hother : other ∈ c.productions) (hresult : other.result = some (some v)) :
    other ∈ c.productions.set number { production with result := some value } := by
  obtain ⟨i, hi⟩ := List.mem_iff_getElem?.mp hother
  have hne : number ≠ i := by
    rintro rfl
    rw [hbegun, Option.some.injEq] at hi
    rw [← hi, hopen] at hresult
    cases hresult
  exact List.mem_iff_getElem?.mpr ⟨i, by rw [List.getElem?_set_ne hne, hi]⟩

theorem Sound.move (h : c.Sound) (reading : String → Stamp) : (c.move reading).Sound :=
  ⟨fun production hproduction => (h.recorded production hproduction).mono (fun _ => rfl)
    ⟨[reading], rfl⟩, h.held⟩

theorem Sound.invalidate (h : c.Sound) (name : String) :
    (c.put name (c.bench.cellOf name).invalidate).Sound := by
  constructor
  · intro production hproduction
    exact (h.recorded production hproduction).mono (dependencies_put c rfl) ⟨[], rfl⟩
  · intro other memo hslot
    rw [slot_put] at hslot
    split at hslot
    · cases hslot
    · exact h.held other memo hslot

theorem Sound.begin (h : c.Sound) (name : String) : (c.begin name).Sound := by
  constructor
  · intro production hproduction
    rcases List.mem_append.mp hproduction with hold | hnew
    · exact (h.recorded production hold).mono (fun _ => rfl) ⟨[], rfl⟩
    · obtain rfl := List.mem_singleton.mp hnew
      exact ⟨rfl, [], rfl⟩
  · intro other memo hslot
    obtain ⟨production, hmem, hproduction⟩ := h.held other memo hslot
    exact ⟨production, List.mem_append_left _ hmem, hproduction⟩

/-- The production that ends is the origin of the value that it stores; the origins of the other
values have ended before. -/
theorem Sound.finish (h : c.Sound) {number : Nat} {production : Production V}
    (value : Option V) (hbegun : c.productions[number]? = some production)
    (hopen : production.result = none) : (c.finish number production value).Sound := by
  have hmem : production ∈ c.productions := List.mem_of_getElem? hbegun
  have hlength : number < c.productions.length := (List.getElem?_eq_some_iff.mp hbegun).1
  constructor
  · intro other hother
    have hold : c.Recorded other := by
      have hset : other ∈ c.productions.set number { production with result := some value } := by
        cases value <;> exact hother
      rcases List.mem_or_eq_of_mem_set hset with hother | rfl
      · exact h.recorded other hother
      · exact ⟨(h.recorded production hmem).stamps, (h.recorded production hmem).moments⟩
    cases value with
    | none => exact ⟨hold.stamps, hold.moments⟩
    | some v => exact hold.mono (dependencies_put c rfl) ⟨[], rfl⟩
  · intro name memo hslot
    have hothers (hslot : (c.bench.cellOf name).slot = some memo) :
        ∃ origin, origin ∈ c.productions.set number { production with result := some value } ∧
          origin.cell = name ∧ origin.result = some (some memo.value) ∧
          origin.stamps = memo.stamps := by
      obtain ⟨origin, horigin, hname, hresult, hstamps⟩ := h.held name memo hslot
      exact ⟨origin, mem_set_ended hbegun hopen horigin hresult, hname, hresult, hstamps⟩
    cases value with
    | none => exact hothers hslot
    | some v =>
      simp only [Chronicle.finish, slot_put] at hslot
      split at hslot
      · rename_i hname
        obtain rfl := Option.some.inj hslot
        exact ⟨_, List.mem_set hlength _, hname.symm, rfl, rfl⟩
      · exact hothers hslot

/-- What one step keeps. -/
theorem Step.sound (h : Step c d) (hsound : c.Sound) : d.Sound := by
  cases h with
  | move reading => exact hsound.move reading
  | invalidate name => exact hsound.invalidate name
  | capture snapshotOf =>
    exact ⟨fun production hproduction =>
      (hsound.recorded production hproduction).mono (fun _ => rfl) ⟨[], rfl⟩, hsound.held⟩
  | begin name _ => exact hsound.begin name
  | finish number production value hbegun hopen => exact hsound.finish value hbegun hopen

theorem Run.sound (h : Run c d) (hsound : c.Sound) : d.Sound := by
  induction h with
  | refl => exact hsound
  | tail _ step ih => exact step.sound ih

/-- A bench whose cells hold nothing. -/
theorem sound_of_empty {bench : Bench V} (h : ∀ name, (bench.cellOf name).slot = none) :
    Sound { bench } :=
  ⟨fun _ hproduction => (List.not_mem_nil hproduction).elim, fun name memo hmemo => by
    rw [h name] at hmemo
    cases hmemo⟩

/-! ### Values served -/

/-- The origin of a value that is held, as a production that recorded what its cell depends on. -/
theorem Sound.origin (h : c.Sound) {name : String} {memo : Memo String V}
    (hmemo : (c.bench.cellOf name).slot = some memo) :
    ∃ production ∈ c.productions, production.cell = name ∧
      production.result = some (some memo.value) ∧
      memo.stamps = .capture production.start (c.bench.cellOf name).dependencies ∧
      ∃ since, c.moments = since ++ production.start :: production.past := by
  obtain ⟨production, hmem, rfl, hresult, hstamps⟩ := h.held name memo hmemo
  have hrecorded := h.recorded production hmem
  exact ⟨production, hmem, rfl, hresult, hstamps.symm.trans hrecorded.stamps, hrecorded.moments⟩

/-- A stamp that is the present one again never moved, if it never returns. -/
theorem unmoved_of_returned {source : Source String} {since past : List (String → Stamp)}
    {start : String → Stamp} (hmoments : c.moments = since ++ start :: past)
    (hreturn : NeverReturns (fun reading (_ : Unit) => source.stamp reading) c.moments)
    (hnow : source.stamp c.bench.stampOf = source.stamp start) :
    ∀ reading ∈ since, source.stamp reading = source.stamp start := by
  intro reading hreading
  cases since with
  | nil => cases hreading
  | cons now between =>
    rw [hmoments] at hreturn
    obtain rfl : c.bench.stampOf = now := (List.cons.inj hmoments).1
    rcases List.mem_cons.mp hreading with rfl | hbetween
    · exact hnow
    · have hsub : [reading, start].Sublist (between ++ start :: past) :=
        (List.singleton_sublist.mpr hbetween).append (List.singleton_sublist.mpr (.head past))
      exact hreturn _ reading start (hsub.cons_cons _) () hnow

/-- In every state of every run over cells that held nothing at first:

* A cell holds the value of one of its productions beside the stamps that its dependencies had just
  before this production began. It is consulted without running a producer exactly if these stamps
  are all current, and then serves that value and changes nothing; reading it without a producer
  agrees. No dependency whose stamp never returns has moved since the production of a served value
  began.
* After a cell was consulted that had nothing to serve, it holds what its producer gave, beside the
  stamps that its dependencies had before that. If the producer gave nothing, and also for the other
  cells and the stamps, everything is as the producer left it.
* Consulting such a cell is recorded as one production, with these stamps and this value, around
  those that its producer leads to, whatever steps that takes; and it leads to the bench that
  consulting gives, which is a later state of the run.
* A script is recorded as well, however its producers are nested, and leads to the bench that it
  gives. Its productions are those that its reports tell of, with their outcomes and in the order in
  which they began. -/
theorem cells_serve_current {bench : Bench V} (hempty : ∀ name, (bench.cellOf name).slot = none)
    {c : Chronicle V} (hrun : Run { bench } c) :
    (∀ name,
      let cell := c.bench.cellOf name
      (∀ memo, cell.slot = some memo → ∃ production ∈ c.productions,
        production.cell = name ∧ production.result = some (some memo.value) ∧
        memo.stamps =
          ⟨cell.dependencies.map fun source => (source, source.stamp production.start)⟩ ∧
        ∃ since, c.moments = since ++ production.start :: production.past) ∧
      (∀ (β : Type) (value : β → Option V) (produce : Bench V → β × Bench V),
        (∀ v t, (Bench.place name).consult value produce c.bench = (.cached v, t) ↔
          cell.Serves c.bench.stampOf v ∧ t = c.bench) ∧
        ((∀ v, ¬ cell.Serves c.bench.stampOf v) →
          ((Bench.place name).consult value produce c.bench).1 = .produced (produce c.bench).1)) ∧
      (∀ produce : Bench V → V × Bench V,
        (∀ v, cell.Serves c.bench.stampOf v →
          (Bench.place name).get produce c.bench = (v, c.bench)) ∧
        ((∀ v, ¬ cell.Serves c.bench.stampOf v) →
          (Bench.place name).get produce c.bench = ((produce c.bench).1,
            ((Bench.place name).consult some produce c.bench).2))) ∧
      (∀ v, cell.peek c.bench.stampOf = some v ↔ cell.Serves c.bench.stampOf v) ∧
      (cell.isFresh c.bench.stampOf = true ↔ ∃ v, cell.Serves c.bench.stampOf v) ∧
      (∀ v, cell.Serves c.bench.stampOf v → ∃ production ∈ c.productions,
        production.cell = name ∧ production.result = some (some v) ∧
        ∃ since, c.moments = since ++ production.start :: production.past ∧
          ∀ source ∈ cell.dependencies,
            NeverReturns (fun reading (_ : Unit) => source.stamp reading) c.moments →
            ∀ reading ∈ since, source.stamp reading = source.stamp production.start)) ∧
    (∀ (β : Type) (value : β → Option V) (produce : Bench V → β × Bench V) (name : String),
      (∀ v, ¬ (c.bench.cellOf name).Serves c.bench.stampOf v) →
        let produced := produce c.bench
        let after := ((Bench.place name).consult value produce c.bench).2
        (value produced.1 = none → after = produced.2) ∧
          ∀ v, value produced.1 = some v →
            (after.cellOf name).slot = some ⟨v, ⟨(c.bench.cellOf name).dependencies.map
                fun source => (source, source.stamp c.bench.stampOf)⟩⟩ ∧
              (∀ other, other ≠ name → after.cellOf other = produced.2.cellOf other) ∧
              after.stampOf = produced.2.stampOf) ∧
    (∀ (β : Type) (value : β → Option V) (produce : Bench V → β × Bench V)
      (track : Chronicle V → Chronicle V), Tracks track produce → ∀ name,
        let d := c.consulted name (value (produce c.bench).1) track
        Run c d ∧ d.bench = ((Bench.place name).consult value produce c.bench).2 ∧
          ((∀ v, ¬ (c.bench.cellOf name).Serves c.bench.stampOf v) →
            ∃ nested,
              (track (c.begin name)).productions =
                c.productions ++ c.opening name :: nested ∧
              d.productions = c.productions ++
                { c.opening name with result := some (value (produce c.bench).1) } :: nested)) ∧
    (∀ steps : List (Bench.Step V),
      let d := recordAll steps c
      Run c d ∧ d.bench = (Bench.runAll steps c.bench).2 ∧
        d.results = c.results ++ (Bench.ranAll (Bench.runAll steps c.bench).1).map fun result =>
          some result.toOption) := by
  have hsound := hrun.sound (sound_of_empty hempty)
  refine ⟨fun name => ⟨fun memo hmemo => hsound.origin hmemo, ?_, ?_,
    fun _ => Cell.peek_eq_some_iff, Cell.isFresh_iff, ?_⟩,
    fun β value produce name hstale => slot_consult produce value hstale, ?_,
    fun steps => ⟨(tracks_recordAll steps).run c, (tracks_recordAll steps).bench c,
      results_recordAll steps c⟩⟩
  · intro β value produce
    refine ⟨fun v t => ?_, fun hstale => consult_of_stale produce value hstale⟩
    by_cases hserves : ∃ v, (c.bench.cellOf name).Serves c.bench.stampOf v
    · obtain ⟨served, hserved⟩ := hserves
      have hpeek := Cell.peek_eq_some_iff.mpr hserved
      rw [consult_of_peek produce value hpeek, ← Cell.peek_eq_some_iff, hpeek]
      simp [eq_comm]
    · have hstale := not_exists.mp hserves
      have hproduced := consult_of_stale produce value hstale
      constructor
      · intro hcached
        rw [hcached] at hproduced
        cases hproduced
      · exact fun h => absurd h.1 (hstale v)
  · intro produce
    exact ⟨fun v hserves => Place.get_of_fresh (Bench.place name) produce c.bench
      (Cell.peek_eq_some_iff.mpr hserves), fun hstale => get_of_stale hstale⟩
  · rintro v ⟨memo, hmemo, rfl, hcurrent⟩
    obtain ⟨production, hmem, hname, hresult, hstamps, since, hmoments⟩ := hsound.origin hmemo
    refine ⟨production, hmem, hname, hresult, since, hmoments, fun source hsource hreturn => ?_⟩
    have hnow : source.stamp c.bench.stampOf = source.stamp production.start := by
      refine hcurrent (source, source.stamp production.start) ?_
      rw [hstamps]
      exact List.mem_map_of_mem hsource
    exact unmoved_of_returned hmoments hreturn hnow
  · intro β value produce track htrack name
    have hconsulted := tracks_consulted htrack value name
    exact ⟨hconsulted.run c, hconsulted.bench c, fun hstale =>
      htrack.productions_consulted value (Cell.peek_eq_none_iff.mpr hstale)⟩

section Example

/-- Two cells that depend on one clock. -/
def twoCells : Bench String where
  sources := [("clock", .single "clock")]
  counters := ["clock"]
  cellNames := ["x", "y"]
  cellOf := fun name => ⟨name, [.single "clock"], none⟩

/-- The producer of a cell consults the same cell, and then the clock moves: the inner value is
stored first, and is overwritten. -/
def reentrantScript : List (Bench.Step String) :=
  [.consult "x" (.ok "outer") [.consult "x" (.ok "inner") [], .peek "x", .advance "clock"]]

theorem cells_serve_current_reentrant :
    let c := recordAll reentrantScript { bench := twoCells }
    Run { bench := twoCells } c ∧ c.bench = (Bench.runAll reentrantScript twoCells).2 ∧
      c.results = [some (some "outer"), some (some "inner")] ∧
      (c.bench.cellOf "x").slot = some ⟨"outer", ⟨[(.single "clock", 0)]⟩⟩ ∧
      (∃ production ∈ c.productions, production.cell = "x" ∧
        production.result = some (some "outer") ∧ production.start "clock" = 0) ∧
      ((Bench.place "x").get (fun bench => ("again", bench)) c.bench).1 = "again" := by
  intro c
  have hempty : ∀ name, (twoCells.cellOf name).slot = none := fun _ => rfl
  obtain ⟨-, -, -, hscript⟩ := cells_serve_current hempty (.refl { bench := twoCells })
  obtain ⟨hrun, hbench, hresults⟩ := hscript reentrantScript
  have hslot : (c.bench.cellOf "x").slot = some ⟨"outer", ⟨[(.single "clock", 0)]⟩⟩ := rfl
  have hstale : (c.bench.cellOf "x").isFresh c.bench.stampOf = false := rfl
  obtain ⟨horigin, -, hget, -, hfresh, -⟩ := (cells_serve_current hempty hrun).1 "x"
  obtain ⟨production, hmem, hname, hresult, hstamps, -⟩ := horigin _ hslot
  refine ⟨hrun, hbench, hresults, hslot, ⟨production, hmem, hname, hresult, ?_⟩, ?_⟩
  · have hclock := congrArg (fun stamps => stamps.entries.map Prod.snd) hstamps
    exact (List.cons.inj hclock).1.symm
  · rw [(hget _).2 fun v hserves => ?_]
    rw [hfresh.mpr ⟨v, hserves⟩] at hstale
    cases hstale

end Example

end Chronicle

end SchemaEngine
