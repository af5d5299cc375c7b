/-!
# Descriptions of values

The form in which values describe themselves for a reader: records by name and fields, sequences in
square brackets, sets in braces.

## Main definitions

* `Shown.record`, `Shown.tuple`: a named value with its fields.
* `Shown.sequence`, `Shown.set`: the members of a collection.
* `Shown.option`, `Shown.truth`: a value that may be absent, and a truth value.
-/

set_option autoImplicit false

namespace SchemaEngine.Shown

/-- A truth value in words. -/
def truth (b : Bool) : String :=
  if b then "true" else "false"

/-- A record: its name and its named fields. -/
def record (name : String) (fields : List (String × String)) : String :=
  name ++ " \x7b " ++ ", ".intercalate (fields.map fun field => field.1 ++ ": " ++ field.2) ++
    " \x7d"

/-- A named value with fields that have no names. -/
def tuple (name : String) (fields : List String) : String :=
  name ++ "(" ++ ", ".intercalate fields ++ ")"

/-- The members of a sequence. -/
def sequence (members : List String) : String :=
  "[" ++ ", ".intercalate members ++ "]"

/-- The members of a set. -/
def set (members : List String) : String :=
  "\x7b" ++ ", ".intercalate members ++ "\x7d"

/-- A value that may be absent. -/
def option (value : Option String) : String :=
  match value with
  | none => "None"
  | some v => tuple "Some" [v]

end SchemaEngine.Shown
