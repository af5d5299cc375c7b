import SchemaEngine.Text.Shown

/-!
# Sources of stamps

A stamp is a number that moves whenever something derived from its source could change. Sources are
combined by adding their stamps; a snapshot records stamps at one moment, and is current as long as
no source has moved away from its recorded stamp. The stamps of the single sources are read through
a function, so that the same sources can be read in every state of a system.

## Main definitions

* `Source`: a single source of stamps, or several combined into one.
* `Source.stamp`: the stamp of a source.
* `Snapshot.capture`, `Snapshot.isCurrent`: recording stamps, and comparing them later.
-/

set_option autoImplicit false

namespace SchemaEngine

/-- A version number; sums of stamps wrap. -/
abbrev Stamp := UInt64

/-- A source of stamps over the single sources `D`. -/
inductive Source (D : Type) where
  | single (leaf : D)
  | combined (parts : List (Source D))

namespace Source

variable {D : Type}

mutual

/-- The stamp of a source: of a combination, the sum of the stamps of its parts. -/
def stamp (read : D → Stamp) : Source D → Stamp
  | .single leaf => read leaf
  | .combined parts => stampSum read parts

/-- The sum of the stamps of sources. -/
def stampSum (read : D → Stamp) : List (Source D) → Stamp
  | [] => 0
  | source :: sources => stamp read source + stampSum read sources

end

/-- The number of sources that a source combines, and its stamp, in words. -/
def describe (read : D → Stamp) : Source D → String
  | .single leaf => Shown.record "Generation" [("counter", toString (read leaf))]
  | .combined parts =>
    Shown.record "CombinedSource"
      [("sources", toString parts.length), ("stamp", toString (stampSum read parts))]

end Source

/-- The stamps that sources had at one moment. -/
structure Snapshot (D : Type) where
  /-- The sources, each with its recorded stamp. -/
  entries : List (Source D × Stamp)

namespace Snapshot

variable {D : Type}

/-- The present stamps of sources. -/
def capture (read : D → Stamp) (sources : List (Source D)) : Snapshot D :=
  ⟨sources.map fun source => (source, source.stamp read)⟩

/-- Whether every recorded stamp is the present one of its source. -/
def isCurrent (read : D → Stamp) (snapshot : Snapshot D) : Bool :=
  snapshot.entries.all fun entry => entry.1.stamp read == entry.2

/-- The recorded stamps, in the order of the sources. -/
def stamps (snapshot : Snapshot D) : List Stamp :=
  snapshot.entries.map (·.2)

/-- The recorded stamps in words. -/
def describe (snapshot : Snapshot D) : String :=
  Shown.sequence (snapshot.stamps.map toString)

end Snapshot

end SchemaEngine
