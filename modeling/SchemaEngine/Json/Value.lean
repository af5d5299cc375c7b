import SchemaEngine.Number.Decimal
import SchemaEngine.Order.Sorted

/-!
# JSON values

A number is an integer of at most 64 bits or a binary floating-point number. The entries of an
object are sorted by key, and no key occurs twice.

## Main definitions

* `Json`, `Json.Number`: values and numbers.
* `Json.Number.order`, `Json.equivalent`: numbers by value, and equality of values under it.
* `Json.setEntry`, `Json.entry?`: writing and reading an entry of an object.
-/

set_option autoImplicit false

namespace SchemaEngine

/-- A number: an integer between -2^63 and 2^64 - 1, or a floating-point number. -/
inductive Json.Number where
  | integer (value : Int)
  | real (value : Binary64)
  deriving Repr, DecidableEq

/-- A JSON value. -/
inductive Json where
  | null
  | bool (value : Bool)
  | number (value : Json.Number)
  | string (text : String)
  | array (items : List Json)
  | object (entries : List (String × Json))
  deriving Repr, Inhabited

namespace Json

/-- The order of a number and an integer by value. -/
def Number.orderInt (x : Number) (n : Int) : Ordering :=
  match x with
  | .integer m => compare m n
  | .real x => x.orderInt n

/-- The order of numbers by value, without rounding. -/
def Number.order (x : Number) : Number → Ordering
  | .integer n => x.orderInt n
  | .real y =>
    match x with
    | .integer m => (y.orderInt m).swap
    | .real x => x.order y

/-- Whether a number is whole. -/
def Number.isIntegral : Number → Bool
  | .integer _ => true
  | .real x => x.isIntegral

mutual

/-- Equality of values, with numbers compared in a given way. -/
def alike (same : Number → Number → Bool) : Json → Json → Bool
  | .null, .null => true
  | .bool a, .bool b => a == b
  | .number x, .number y => same x y
  | .string s, .string t => s == t
  | .array xs, .array ys => alikeItems same xs ys
  | .object es, .object fs => alikeEntries same es fs
  | _, _ => false

/-- Equality of the items of two arrays, place by place. -/
def alikeItems (same : Number → Number → Bool) : List Json → List Json → Bool
  | [], [] => true
  | x :: xs, y :: ys => alike same x y && alikeItems same xs ys
  | _, _ => false

/-- Equality of the entries of two objects, key by key. -/
def alikeEntries (same : Number → Number → Bool) :
    List (String × Json) → List (String × Json) → Bool
  | [], [] => true
  | (k, x) :: es, (l, y) :: fs => k == l && alike same x y && alikeEntries same es fs
  | _, _ => false

end

/-- Equality of values: numbers are equal by value, in whichever form they stand. -/
def equivalent (x y : Json) : Bool :=
  alike (fun a b => (a.order b).isEq) x y

/-- Equality of values with numbers in the same form. -/
instance : BEq Json :=
  ⟨alike (· == ·)⟩

/-- Sets an entry; the value of a key that is present gives way. -/
def setEntry (key : String) (value : Json) (entries : List (String × Json)) :
    List (String × Json) :=
  Sorted.replace (fun a b => compare a.1 b.1) (key, value) entries

/-- The entries of an object, sorted; of equal keys the last one stays. -/
def ofEntries (entries : List (String × Json)) : Json :=
  .object (entries.foldl (fun es e => setEntry e.1 e.2 es) [])

/-- The value of an entry. -/
def entry? (key : String) : Json → Option Json
  | .object entries => (entries.find? fun e => e.1 == key).map (·.2)
  | _ => none

/-- A natural number as a value. -/
def ofNat (n : Nat) : Json :=
  .number (.integer n)

end Json

end SchemaEngine
