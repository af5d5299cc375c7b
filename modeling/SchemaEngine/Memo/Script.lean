import SchemaEngine.Memo.Cell
import SchemaEngine.Order.Sorted

/-!
# Scripts over memo cells

A bench holds named sources, cells and snapshots. A script is a list of steps on a bench: moving and
reading stamps, consulting and invalidating cells, taking snapshots. The producer of a cell is a
script too, which runs before the producer returns its outcome, so that steps nest to any depth.

## Main definitions

* `Bench`: the sources, cells and snapshots.
* `Bench.Step`: a step, with the script of its producer.
* `Bench.run`, `Bench.runAll`: the reports of a step and of a script, and the bench afterwards.
-/

set_option autoImplicit false

namespace SchemaEngine

/-- Named sources, cells and snapshots; the values of cells are of type `V`. -/
structure Bench (V : Type) where
  /-- The sources by name, in order of declaration. -/
  sources : List (String × Source String) := []
  /-- The single sources that count steps; the stamps of the others are set by hand. -/
  counters : List String := []
  /-- The present stamps of the single sources. -/
  stampOf : String → Stamp := fun _ => 0
  /-- The names of the cells, sorted. -/
  cellNames : List String := []
  /-- The cells. -/
  cellOf : String → Cell String V := fun name => ⟨name, [], none⟩
  /-- The snapshots. -/
  snapshotOf : String → Snapshot String := fun _ => ⟨[]⟩

namespace Bench

variable {V : Type}

/-- A function with one value replaced. -/
def assign {α : Type} (f : String → α) (name : String) (value : α) : String → α :=
  fun n => if n = name then value else f n

/-- A step on a bench. -/
inductive Step (V : Type) where
  /-- Moves a single source by one. -/
  | advance (source : String)
  /-- Sets the stamp of a single source. -/
  | set (source : String) (stamp : Stamp)
  /-- Reads the stamp of a source. -/
  | stamp (source : String)
  /-- Consults a cell whose producer runs a script and then has an outcome. -/
  | consult (cell : String) (outcome : Except String V) (during : List (Step V))
  /-- Reads a cell without computing. -/
  | peek (cell : String)
  /-- Drops the value of a cell. -/
  | invalidate (cell : String)
  /-- Records the stamps of sources. -/
  | capture (snapshot : String) (sources : List String)
  /-- Reads a snapshot. -/
  | inspect (snapshot : String)
  /-- Describes a cell. -/
  | describeCell (cell : String)
  /-- Describes a source. -/
  | describeSource (source : String)

/-- What a step reports. -/
inductive Report (V : Type) where
  | done
  | stamp (value : Stamp)
  /-- The outcome of a consulted cell; for each step of the producer, if it ran, its report and
  which cells were fresh after it. -/
  | outcome (result : Except String V) (during : Option (List (Report V × List Bool)))
  | peeked (value : Option V)
  /-- A snapshot and whether it is current. -/
  | snapshot (stamps : Snapshot String) (current : Bool)
  /-- A description, if the source has one. -/
  | description (text : Option String)

/-- The source of a name. -/
def source (bench : Bench V) (name : String) : Source String :=
  match bench.sources.find? fun entry => entry.1 == name with
  | some entry => entry.2
  | none => .single name

/-- Declares a single source with its first stamp. -/
def declareSingle (name : String) (counts : Bool) (stamp : Stamp) (bench : Bench V) : Bench V :=
  { bench with
    sources := bench.sources ++ [(name, .single name)]
    counters := if counts then bench.counters ++ [name] else bench.counters
    stampOf := assign bench.stampOf name stamp }

/-- Declares a combination of sources that are declared already. -/
def declareCombined (name : String) (parts : List String) (bench : Bench V) : Bench V :=
  { bench with sources := bench.sources ++ [(name, .combined (parts.map bench.source))] }

/-- Declares a cell with the sources that it depends on. -/
def declareCell (name : String) (dependencies : List String) (bench : Bench V) : Bench V :=
  { bench with
    cellNames := Sorted.insert compare name bench.cellNames
    cellOf := assign bench.cellOf name ⟨name, dependencies.map bench.source, none⟩ }

/-- The place of a cell on a bench. -/
def place (name : String) : Place (Bench V) String V where
  cell bench := bench.cellOf name
  put cell bench := { bench with cellOf := assign bench.cellOf name cell }
  read bench := bench.stampOf
  note _ _ bench := bench

/-- Which cells are fresh, in the order of their names. -/
def freshness (bench : Bench V) : List Bool :=
  bench.cellNames.map fun name => (bench.cellOf name).isFresh bench.stampOf

/-- A snapshot as it is reported. -/
def inspected (snapshot : Snapshot String) (bench : Bench V) : Report V :=
  .snapshot snapshot (snapshot.isCurrent bench.stampOf)

/-- The description of a source: of a combination, and of a single source that counts. -/
def describeSource (name : String) (bench : Bench V) : Option String :=
  match bench.source name with
  | .single leaf =>
    if bench.counters.contains leaf then some (Source.describe bench.stampOf (.single leaf))
    else none
  | .combined parts => some (Source.describe bench.stampOf (.combined parts))

/-- The report of a consulted cell. -/
def reportOf : Answer V (Except String V × List (Report V × List Bool)) → Report V
  | .cached value => .outcome (.ok value) none
  | .produced (result, during) => .outcome result (some during)

mutual

/-- The report of a step and the bench after it. -/
def run : Step V → Bench V → Report V × Bench V
  | .advance name, bench =>
    let stamp := bench.stampOf name + 1
    (.stamp stamp, { bench with stampOf := assign bench.stampOf name stamp })
  | .set name stamp, bench => (.done, { bench with stampOf := assign bench.stampOf name stamp })
  | .stamp name, bench => (.stamp ((bench.source name).stamp bench.stampOf), bench)
  | .consult name result during, bench =>
    let (answer, bench) := (place name).consult (fun outcome => outcome.1.toOption)
      (fun bench =>
        let (reports, bench) := runAll during bench
        ((result, reports), bench))
      bench
    (reportOf answer, bench)
  | .peek name, bench => (.peeked ((bench.cellOf name).peek bench.stampOf), bench)
  | .invalidate name, bench => (.done, (place name).put (bench.cellOf name).invalidate bench)
  | .capture name sources, bench =>
    let snapshot := Snapshot.capture bench.stampOf (sources.map bench.source)
    (inspected snapshot bench, { bench with snapshotOf := assign bench.snapshotOf name snapshot })
  | .inspect name, bench => (inspected (bench.snapshotOf name) bench, bench)
  | .describeCell name, bench => (.description (some (bench.cellOf name).describe), bench)
  | .describeSource name, bench => (.description (describeSource name bench), bench)

/-- The reports of the steps of a script, each with the cells that were fresh after the step, and
the bench after the script. -/
def runAll : List (Step V) → Bench V → List (Report V × List Bool) × Bench V
  | [], bench => ([], bench)
  | step :: steps, bench =>
    let (report, bench) := run step bench
    let fresh := bench.freshness
    let (reports, bench) := runAll steps bench
    ((report, fresh) :: reports, bench)

end

end Bench

end SchemaEngine
