import SchemaEngine.Journal.Entry
import SchemaEngine.Memo.Source

/-!
# The site of the engine

What all parts of the engine and its collaborators have in common: the generation of the file
structure, the journal, and the world of the collaborators, of which nothing is known here.

## Main definitions

* `Site`: the common state.
* `Site.note`: an entry into the journal.
* `Site.advance`: a step of the file structure.
-/

set_option autoImplicit false

namespace SchemaEngine

/-- The state that the engine shares with its collaborators; `H` is the world of the latter. -/
structure Site (H : Type) where
  /-- The generation of the file structure. -/
  generation : Stamp := 0
  /-- The entries of the journal, the last one first. -/
  journal : List Entry := []
  /-- The world of the collaborators. -/
  host : H

namespace Site

variable {H : Type}

/-- Adds an entry to the journal. -/
def note (entry : Entry) (site : Site H) : Site H :=
  { site with journal := entry :: site.journal }

/-- Moves the file structure to its next generation. -/
def advance (site : Site H) : Site H :=
  { site with generation := site.generation + 1 }

end Site

end SchemaEngine
