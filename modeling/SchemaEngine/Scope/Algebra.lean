import SchemaEngine.Scope.Basic

/-!
# Making scopes

The constructors and operations that keep scopes in canonical form: no empty set of files or roots,
unions flat, without empty members and with at least two of them, restrictions never nested directly
and never to no file type at all. Scopes made here from equal parts are equal, in whatever order the
parts came.

## Main definitions

* `Scope.ofFiles`, `Scope.ofRoots`: listed files, and everything below listed directories.
* `Scope.merge`: the union of two scopes.
* `Scope.restrict`: the restriction to file types.
-/

set_option autoImplicit false

namespace SchemaEngine.Scope

/-- The scope of the listed files. -/
def ofFiles (paths : List Path) : Scope :=
  match Sorted.ofList Path.order paths with
  | [] => .empty
  | p :: ps => .files (p :: ps)

/-- The scope of one file. -/
def ofFile (path : Path) : Scope :=
  ofFiles [path]

/-- The scope of everything below the listed directories. -/
def ofRoots (directories : List Path) : Scope :=
  match Sorted.ofList Path.order directories with
  | [] => .empty
  | p :: ps => .roots (p :: ps)

/-- The members that a scope brings into a union. -/
def members : Scope → List Scope
  | empty => []
  | union ss => ss
  | s => [s]

/-- The union of members: none is the empty scope, and one is that member itself. -/
def ofMembers : List Scope → Scope
  | [] => .empty
  | [s] => s
  | s :: t :: ss => .union (s :: t :: ss)

/-- The union of two scopes. -/
def merge (s t : Scope) : Scope :=
  ofMembers (Sorted.union order (Sorted.union order [] s.members) t.members)

/-- A set of file types as it is compared: in lower case, sorted. -/
def normalizeTypes (types : List String) : List String :=
  Sorted.ofList compare (types.map lowercase)

/-- The files of a scope that have one of the given types. Restricting a restricted scope keeps the
types that both restrictions admit. -/
def restrict (s : Scope) (types : List String) : Scope :=
  let admitted := normalizeTypes types
  match s with
  | empty => .empty
  | fileTypes base existing =>
    match existing.filter admitted.contains with
    | [] => .empty
    | e :: es => .fileTypes base (e :: es)
  | base =>
    match admitted with
    | [] => .empty
    | e :: es => .fileTypes base (e :: es)

end SchemaEngine.Scope
