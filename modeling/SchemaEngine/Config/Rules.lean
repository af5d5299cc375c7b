import SchemaEngine.Config.Settings

/-!
# What a settings document may hold

A settings document is an object with known keys only, and each key has a rule for its value. The
check goes through the entries in key order and stops at the first breach; a key that is not known
is a breach when it is reached.

## Main definitions

* `Rules.Rule`: what a value must be.
* `Rules.fields`: the known keys and their rules.
* `Rules.Breach`, `Rules.Violation`: what is wrong with a value, and where it stands.
* `Rules.check`: the first violation of a document.
-/

set_option autoImplicit false

namespace SchemaEngine.Rules

/-- A form that a text must have as a whole. -/
inductive Pattern where
  /-- One or more characters, none of them a slash or a backslash. -/
  | entryName
  /-- One or more letters, digits, underscores and hyphens of ASCII. -/
  | fileType
  deriving Repr, DecidableEq

/-- The pattern as it is written in documents. -/
def Pattern.source : Pattern → String
  | .entryName => "^[^/\\\\]+$"
  | .fileType => "^[A-Za-z0-9_-]+$"

/-- Whether a character may stand in a text of the form. -/
def Pattern.admits : Pattern → Char → Bool
  | .entryName, c => c != '/' && c != '\\'
  | .fileType, c => c.isAlphanum || c == '_' || c == '-'

/-- Whether a text has the form. -/
def Pattern.holds (p : Pattern) (text : String) : Bool :=
  !text.toList.isEmpty && text.toList.all p.admits

/-- What a value must be. -/
inductive Rule where
  /-- An array of texts that are not empty, with what holds of each text and of the array. -/
  | texts (pattern : Option Pattern) (someItem : Bool) (distinct : Bool)
  /-- A whole number that is not below `least`. -/
  | count (least : Int)
  /-- One of the listed texts. -/
  | choice (options : List String)
  deriving Repr, DecidableEq

/-- The levels of messages, the most important one first. -/
def levels : List String :=
  ["error", "warn", "info", "debug", "trace"]

/-- The known keys and their rules. -/
def fields : List (String × Rule) := [
  ("configFileNames", .texts (some .entryName) false true),
  ("fileTypes", .texts (some .fileType) true true),
  ("flushDebounceMs", .count 0),
  ("schemaCacheCapacity", .count 1),
  ("scopeCacheCapacity", .count 1),
  ("logLevel", .choice levels),
  ("metaRoots", .texts none false false)]

/-- What is wrong with a value. -/
inductive Breach where
  | wrongType (value : Json) (expected : String)
  | notAnOption (value : Json) (options : List String)
  | belowMinimum (value : Json) (least : Int)
  | emptyText (value : Json)
  | noItem (value : Json)
  | wrongForm (value : Json) (pattern : Pattern)
  | repeatedItem (value : Json)
  | unknownKey (key : String)
  deriving Repr

/-- A step from a value to one of its parts. -/
inductive Segment where
  | key (name : String)
  | index (position : Nat)
  deriving Repr, DecidableEq

/-- A breach and the way to the value that has it. -/
structure Violation where
  path : List Segment
  breach : Breach
  deriving Repr

/-- Some options in words: the first two and the number of the others. -/
def describeOptions (options : List String) : String :=
  let quoted := options.map fun option => Json.write (.string option)
  match quoted with
  | [] => ""
  | [a] => a
  | [a, b] => a ++ " or " ++ b
  | [a, b, c] => a ++ ", " ++ b ++ " or " ++ c
  | a :: b :: rest => a ++ ", " ++ b ++ " or " ++ toString rest.length ++ " other candidates"

/-- The breach in words. -/
def Breach.message : Breach → String
  | .wrongType value expected => value.write ++ " is not of type \"" ++ expected ++ "\""
  | .notAnOption value options => value.write ++ " is not one of " ++ describeOptions options
  | .belowMinimum value least => value.write ++ " is less than the minimum of " ++ toString least
  | .emptyText value => value.write ++ " is shorter than 1 character"
  | .noItem value => value.write ++ " has less than 1 item"
  | .wrongForm value pattern => value.write ++ " does not match \"" ++ pattern.source ++ "\""
  | .repeatedItem value => value.write ++ " has non-unique elements"
  | .unknownKey key => "Additional properties are not allowed ('" ++ key ++ "' was unexpected)"

/-- A segment as it stands in a pointer. -/
def Segment.pointer : Segment → String
  | .key name =>
    "/" ++ String.ofList (name.toList.flatMap fun c =>
      if c = '~' then ['~', '0'] else if c = '/' then ['~', '1'] else [c])
  | .index position => "/" ++ toString position

/-- The violation in words, with a pointer to the value. -/
def Violation.message (v : Violation) : String :=
  v.breach.message ++ " at " ++ String.join (v.path.map Segment.pointer)

/-- Whether an item of a list is the same as a later one. -/
def hasRepeated (same : Json → Json → Bool) : List Json → Bool
  | [] => false
  | x :: xs => xs.any (same x) || hasRepeated same xs

/-- The greatest number of items that are compared pair by pair. -/
def fewItems : Nat := 15

/-- Whether no item of an array occurs twice. Few items are compared by value; many are told apart
by digests of their form, in which an integer differs from the floating-point number of its
value. -/
def areDistinct (items : List Json) : Bool :=
  if items.length ≤ fewItems then !hasRepeated Json.equivalent items
  else !hasRepeated (· == ·) items

/-- What is wrong with a text that must not be empty and may need a form. -/
def textBreach (pattern : Option Pattern) (value : Json) : Option Breach :=
  match value with
  | .string text =>
    if text.isEmpty then some (.emptyText value)
    else
      match pattern with
      | some p => if p.holds text then none else some (.wrongForm value p)
      | none => none
  | _ => some (.wrongType value "string")

/-- The first item that is not right, counted from `position`. -/
def itemViolation (pattern : Option Pattern) : Nat → List Json → Option Violation
  | _, [] => none
  | position, item :: items =>
    match textBreach pattern item with
    | some breach => some ⟨[.index position], breach⟩
    | none => itemViolation pattern (position + 1) items

/-- The first violation of a rule in a value. -/
def Rule.violation (rule : Rule) (value : Json) : Option Violation :=
  match rule with
  | .texts pattern someItem distinct =>
    match value with
    | .array items =>
      if someItem && items.isEmpty then some ⟨[], .noItem value⟩
      else if distinct && !areDistinct items then some ⟨[], .repeatedItem value⟩
      else itemViolation pattern 0 items
    | _ => some ⟨[], .wrongType value "array"⟩
  | .count least =>
    match value with
    | .number x =>
      if !x.isIntegral then some ⟨[], .wrongType value "integer"⟩
      else if x.orderInt least = .lt then some ⟨[], .belowMinimum value least⟩
      else none
    | _ => some ⟨[], .wrongType value "integer"⟩
  | .choice options =>
    match value with
    | .string text =>
      if options.contains text then none else some ⟨[], .notAnOption value options⟩
    | _ => some ⟨[], .wrongType value "string"⟩

/-- The rule for a key. -/
def rule? (key : String) : Option Rule :=
  (fields.find? fun field => field.1 == key).map (·.2)

/-- The violation in one entry. -/
def entryViolation (entry : String × Json) : Option Violation :=
  match rule? entry.1 with
  | none => some ⟨[], .unknownKey entry.1⟩
  | some rule => (rule.violation entry.2).map fun v => ⟨.key entry.1 :: v.path, v.breach⟩

/-- The first violation of a document, or nothing if there is none. -/
def check (document : Json) : Option Violation :=
  match document with
  | .object entries => entries.findSome? entryViolation
  | _ => some ⟨[], .wrongType document "object"⟩

end SchemaEngine.Rules
