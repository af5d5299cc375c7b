import SchemaEngine.Path.FileRef
import SchemaEngine.Text.Shown

/-!
# Scopes

A scope is a predicate over file paths, kept as a value so that two scopes can be compared. Sets
inside a scope are sorted lists without repetition.

## Main definitions

* `Scope`: nothing, listed files, everything below listed directories, a union, or a restriction to
  file types.
* `Scope.order`: the order of scopes, by kind and then field by field.
* `Scope.same`: equality of scopes, paths by component.
* `Scope.contains`: whether a path is in the scope.
* `Scope.describe`: the scope in words.
-/

set_option autoImplicit false

namespace SchemaEngine

/-- A predicate over file paths. -/
inductive Scope where
  /-- Contains nothing. -/
  | empty
  /-- Exactly these files. -/
  | files (paths : List Path)
  /-- Every file below one of these directories. -/
  | roots (directories : List Path)
  /-- Every file that a member contains. -/
  | union (members : List Scope)
  /-- The files of `base` whose extension is listed. -/
  | fileTypes (base : Scope) (extensions : List String)
  deriving Repr

namespace Scope

/-- The place of a kind of scope among the others. -/
def rank : Scope → Nat
  | empty => 0
  | files _ => 1
  | roots _ => 2
  | union _ => 3
  | fileTypes _ _ => 4

mutual

/-- The order of scopes: by kind, then by the fields, sets as sorted sequences. -/
def order : Scope → Scope → Ordering
  | .files ps, .files qs => Sorted.lexicographic Path.order ps qs
  | .roots ps, .roots qs => Sorted.lexicographic Path.order ps qs
  | .union ss, .union ts => orderMembers ss ts
  | .fileTypes s es, .fileTypes t fs => (order s t).then (Sorted.lexicographic compare es fs)
  | s, t => compare s.rank t.rank

/-- The dictionary order of the members of two unions. -/
def orderMembers : List Scope → List Scope → Ordering
  | [], [] => .eq
  | [], _ :: _ => .lt
  | _ :: _, [] => .gt
  | s :: ss, t :: ts => (order s t).then (orderMembers ss ts)

end

/-- Whether two lists agree place by place. -/
def sameAll {α : Type} (same : α → α → Bool) : List α → List α → Bool
  | [], [] => true
  | x :: xs, y :: ys => same x y && sameAll same xs ys
  | _, _ => false

mutual

/-- Whether two scopes are equal, with paths equal by component. -/
def same : Scope → Scope → Bool
  | .empty, .empty => true
  | .files ps, .files qs => sameAll Path.same ps qs
  | .roots ps, .roots qs => sameAll Path.same ps qs
  | .union ss, .union ts => sameMembers ss ts
  | .fileTypes s es, .fileTypes t fs => same s t && es == fs
  | _, _ => false

/-- Whether the members of two unions are equal place by place. -/
def sameMembers : List Scope → List Scope → Bool
  | [], [] => true
  | s :: ss, t :: ts => same s t && sameMembers ss ts
  | _, _ => false

end

/-- Whether the scope is the empty one. -/
def isEmpty : Scope → Bool
  | empty => true
  | _ => false

/-- A text with the letters A to Z in lower case. -/
def lowercase (text : String) : String :=
  String.ofList (text.toList.map Char.toLower)

/-- The extension of a path in lower case, if it has one that is text. -/
def fileType (p : Path) : Option String :=
  (p.extension.bind Utf8.decode).map lowercase

mutual

/-- Whether a path is in the scope. -/
def contains : Scope → Path → Bool
  | .empty, _ => false
  | .files paths, p => paths.any fun q => q.same p
  | .roots directories, p => directories.any fun root => p.startsWith root
  | .union members, p => containsAny members p
  | .fileTypes base extensions, p =>
    (match fileType p with
      | some e => extensions.contains e
      | none => false) && contains base p

/-- Whether a path is in one of the scopes. -/
def containsAny : List Scope → Path → Bool
  | [], _ => false
  | s :: ss, p => contains s p || containsAny ss p

end

mutual

/-- The scope in words. -/
def describe : Scope → String
  | .empty => "Empty"
  | .files paths => Shown.tuple "Files" [Shown.set (paths.map Path.quoted)]
  | .roots directories => Shown.tuple "Roots" [Shown.set (directories.map Path.quoted)]
  | .union members => Shown.tuple "Union" [Shown.set (describeMembers members)]
  | .fileTypes base extensions =>
    Shown.record "FileTypes"
      [("base", describe base), ("extensions", Shown.set (extensions.map Quoted.text))]

/-- The members of a union in words. -/
def describeMembers : List Scope → List String
  | [] => []
  | s :: ss => describe s :: describeMembers ss

end

end Scope

end SchemaEngine
