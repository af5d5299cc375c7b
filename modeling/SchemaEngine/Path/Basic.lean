import SchemaEngine.Order.Sorted
import SchemaEngine.Text.Quoted

/-!
# Paths

A path is a byte string, kept as it was written. What it names is its list of components: repeated
slashes, inner and trailing dots and a trailing slash do not count, a leading dot does, and two dots
are a component of their own that is not resolved. Paths are compared, and prefixes taken, by
component, so that different spellings of one path are the same path.

## Main definitions

* `Path.components`: the components of a path.
* `Path.same`, `Path.order`: equality and order by component.
* `Path.startsWith`: prefix by component.
* `Path.fileName`, `Path.extension`: the last component and what follows its last dot.
* `Path.join`: a path relative to another one.
* `Path.parent`, `Path.upward`: the path without its last component, and all paths above.
* `Path.display`, `Path.quoted`: the two texts of a path.
-/

set_option autoImplicit false

namespace SchemaEngine

/-- A path, as it was written. -/
structure Path where
  /-- The bytes of the path. -/
  bytes : List UInt8
  deriving Repr, DecidableEq

/-- A component of a path. -/
inductive Component where
  /-- The slash that an absolute path begins with. -/
  | root
  /-- A leading dot. -/
  | current
  /-- Two dots. -/
  | parent
  /-- The name of an entry. -/
  | normal (name : List UInt8)
  deriving Repr, DecidableEq

namespace Component

/-- The place of a component among the others: root, current, parent, then names. -/
def rank : Component → Nat
  | root => 0
  | current => 1
  | parent => 2
  | normal _ => 3

/-- Components in order; names by their bytes. -/
def order : Component → Component → Ordering
  | normal x, normal y => Sorted.lexicographic compare x y
  | x, y => compare x.rank y.rank

end Component

namespace Path

/-- The path that a text spells. -/
def ofString (text : String) : Path :=
  ⟨Utf8.encodeString text⟩

/-- The byte of the slash. -/
def slash : UInt8 := 47

/-- The byte of the dot. -/
def dot : UInt8 := 46

/-- The parts of a byte string between slashes. -/
def splitSlash : List UInt8 → List (List UInt8)
  | [] => [[]]
  | b :: bs =>
    if b = slash then [] :: splitSlash bs
    else
      match splitSlash bs with
      | [] => [[b]]
      | part :: parts => (b :: part) :: parts

/-- The component that a part stands for where neither nothing nor a dot counts. -/
def innerComponent (part : List UInt8) : Option Component :=
  if part = [] || part = [dot] then none
  else if part = [dot, dot] then some .parent
  else some (.normal part)

/-- Whether a path begins at the root. -/
def isAbsolute (p : Path) : Bool :=
  p.bytes.head? == some slash

/-- The components of a path. -/
def components (p : Path) : List Component :=
  let parts := splitSlash p.bytes
  if p.isAbsolute then .root :: parts.filterMap innerComponent
  else if parts.head? = some [dot] then .current :: parts.filterMap innerComponent
  else parts.filterMap innerComponent

/-- Whether two paths have the same components. -/
def same (p q : Path) : Bool :=
  p.components == q.components

/-- The order of paths by component; a path comes before the paths below it. -/
def order (p q : Path) : Ordering :=
  Sorted.lexicographic Component.order p.components q.components

/-- Whether `base` is an initial part of `p`, by component. -/
def startsWith (p base : Path) : Bool :=
  base.components.isPrefixOf p.components

/-- The part that spells a component behind the first slash. -/
def spelling : Component → List UInt8
  | .root => []
  | .current => [dot]
  | .parent => [dot, dot]
  | .normal name => name

/-- The path that components spell. -/
def ofComponents (components : List Component) : Path :=
  match components with
  | [.root] => ⟨[slash]⟩
  | _ => ⟨[slash].intercalate (components.map spelling)⟩

/-- The path without its last component; nothing for the root and for the empty path. -/
def parent (p : Path) : Option Path :=
  match p.components with
  | [] => none
  | [.root] => none
  | components => some (ofComponents components.dropLast)

/-- The path and the paths above it, the nearest first. The root and the empty path are left out. -/
def upward (p : Path) : List Path :=
  if p.parent.isNone then []
  else
    p :: ((List.range p.components.length).reverse.map fun count =>
      ofComponents (p.components.take count)).filter fun above => above.parent.isSome

/-- The name in the last component, if that is a name. -/
def fileName (p : Path) : Option (List UInt8) :=
  match p.components.getLast? with
  | some (.normal name) => some name
  | _ => none

/-- What follows the last dot of a name, unless there is no dot or only a leading one. -/
def nameExtension (name : List UInt8) : Option (List UInt8) :=
  let reversed := name.reverse
  let after := reversed.takeWhile (· ≠ dot)
  match reversed.dropWhile (· ≠ dot) with
  | [] => none
  | [_] => none
  | _ :: _ :: _ => some after.reverse

/-- The extension of the file name. -/
def extension (p : Path) : Option (List UInt8) :=
  p.fileName.bind nameExtension

/-- The path `p`, read from `base` unless it is absolute. -/
def join (base p : Path) : Path :=
  if p.isAbsolute then p
  else
    match base.bytes.getLast? with
    | none => p
    | some b =>
      if b = slash then ⟨base.bytes ++ p.bytes⟩ else ⟨base.bytes ++ slash :: p.bytes⟩

/-- The text of the path, with the replacement character for bytes that are no text. -/
def display (p : Path) : String :=
  Utf8.decodeLossy p.bytes

/-- The path between quotes. -/
def quoted (p : Path) : String :=
  Quoted.bytes p.bytes

end Path

end SchemaEngine
