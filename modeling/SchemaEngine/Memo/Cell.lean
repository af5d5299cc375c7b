import SchemaEngine.Memo.Source
import SchemaEngine.Text.Quoted

/-!
# Memo cells

A memo cell holds at most one value, together with the stamps that its dependencies had just before
the computation of that value began. The value is served while all these stamps are current. Value
and stamps are always replaced together, and a computation that fails replaces nothing.

A cell lives in some place of a larger state, and the computation of its value may change that state
in any way: it may move stamps, and use this cell and others. `Place.consult` is therefore a
function on the whole state.

## Main definitions

* `Cell`: a cell, with `Cell.peek`, `Cell.isFresh`, `Cell.store` and `Cell.invalidate`.
* `Place`: where a cell lives in a state.
* `Place.consult`: the value of a cell, computed if need be.
-/

set_option autoImplicit false

namespace SchemaEngine

/-- A value and the stamps that were recorded before it was computed. -/
structure Memo (D V : Type) where
  value : V
  stamps : Snapshot D

/-- A cell for one value that depends on sources of stamps. -/
structure Cell (D V : Type) where
  /-- The name of the cell in messages. -/
  label : String
  /-- The sources that the value depends on. -/
  dependencies : List (Source D)
  /-- The value held, if there is one. -/
  slot : Option (Memo D V) := none

namespace Cell

variable {D V : Type}

/-- The value held, if it is fresh. -/
def peek (read : D → Stamp) (cell : Cell D V) : Option V :=
  match cell.slot with
  | some memo => if memo.stamps.isCurrent read then some memo.value else none
  | none => none

/-- Whether the cell holds a fresh value. -/
def isFresh (read : D → Stamp) (cell : Cell D V) : Bool :=
  match cell.slot with
  | some memo => memo.stamps.isCurrent read
  | none => false

/-- The present stamps of the dependencies. -/
def capture (read : D → Stamp) (cell : Cell D V) : Snapshot D :=
  .capture read cell.dependencies

/-- Puts a value and its stamps into the cell. -/
def store (cell : Cell D V) (value : V) (stamps : Snapshot D) : Cell D V :=
  { cell with slot := some ⟨value, stamps⟩ }

/-- Drops the value held. -/
def invalidate (cell : Cell D V) : Cell D V :=
  { cell with slot := none }

/-- The cell in words; the value itself is not told. -/
def describe (cell : Cell D V) : String :=
  Shown.record "MemoCell" [
    ("label", Quoted.text cell.label),
    ("dependencies", toString cell.dependencies.length),
    ("stamps", Shown.option (cell.slot.map fun memo => memo.stamps.describe))]

end Cell

/-- Where a cell lives in a state `σ`, and how stamps are read there. -/
structure Place (σ D V : Type) where
  /-- The cell. -/
  cell : σ → Cell D V
  /-- The state with another cell in the place. -/
  put : Cell D V → σ → σ
  /-- The present stamp of a single source. -/
  read : σ → D → Stamp
  /-- Takes note that the named cell was recomputed under stamps. -/
  note : String → Snapshot D → σ → σ

/-- What a consulted cell answers. -/
inductive Answer (V β : Type) where
  /-- The value held was fresh. -/
  | cached (value : V)
  /-- The producer ran, with this outcome. -/
  | produced (outcome : β)

namespace Place

variable {σ D V β : Type}

/-- Serves the value of a cell if it is fresh. Otherwise records the stamps of the dependencies,
runs the producer, and stores its value, if it has one, with the recorded stamps. -/
def consult (place : Place σ D V) (value : β → Option V) (produce : σ → β × σ) (s : σ) :
    Answer V β × σ :=
  match (place.cell s).peek (place.read s) with
  | some v => (.cached v, s)
  | none =>
    let stamps := (place.cell s).capture (place.read s)
    let (outcome, t) := produce s
    match value outcome with
    | none => (.produced outcome, t)
    | some v =>
      let t := place.note (place.cell t).label stamps t
      (.produced outcome, place.put ((place.cell t).store v stamps) t)

/-- The value of a cell whose producer cannot fail. -/
def get (place : Place σ D V) (produce : σ → V × σ) (s : σ) : V × σ :=
  match place.consult some produce s with
  | (.cached v, t) => (v, t)
  | (.produced v, t) => (v, t)

end Place

end SchemaEngine
