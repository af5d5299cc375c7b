import SchemaEngine.Json.Value

/-!
# Writing JSON

The compact text of a value: no blanks, entries in key order, an escape for the quote, the
backslash and the control characters.

## Main definitions

* `Json.write`: the text of a value.
* `Json.writeString`: the text of a string.
-/

set_option autoImplicit false

namespace SchemaEngine.Json

/-- The four hexadecimal digits of a number below 2^16, in lower case. -/
def hexDigits (n : Nat) : List Char :=
  let digits := Nat.toDigits 16 n
  List.replicate (4 - digits.length) '0' ++ digits

/-- A character as it stands in a string. -/
def writeChar (c : Char) : List Char :=
  if c = '"' then ['\\', '"']
  else if c = '\\' then ['\\', '\\']
  else if c = '\n' then ['\\', 'n']
  else if c = '\r' then ['\\', 'r']
  else if c = '\t' then ['\\', 't']
  else if c = '\x08' then ['\\', 'b']
  else if c = '\x0c' then ['\\', 'f']
  else if c.toNat < 0x20 then '\\' :: 'u' :: hexDigits c.toNat
  else [c]

/-- The text of a string. -/
def writeString (text : String) : List Char :=
  '"' :: text.toList.flatMap writeChar ++ ['"']

/-- The text of an integer. -/
def writeInt (n : Int) : List Char :=
  if n < 0 then '-' :: Nat.toDigits 10 n.natAbs else Nat.toDigits 10 n.natAbs

/-- The text of a number. -/
def writeNumber : Number → List Char
  | .integer n => writeInt n
  | .real x => (Decimal.format x).toList

mutual

/-- The text of a value, as characters. -/
def writeChars : Json → List Char
  | .null => "null".toList
  | .bool b => if b then "true".toList else "false".toList
  | .number x => writeNumber x
  | .string s => writeString s
  | .array items => '[' :: writeItems items
  | .object entries => '\x7b' :: writeEntries entries

/-- The items of an array and the bracket after them. -/
def writeItems : List Json → List Char
  | [] => [']']
  | [x] => writeChars x ++ [']']
  | x :: y :: rest => writeChars x ++ ',' :: writeItems (y :: rest)

/-- The entries of an object and the brace after them. -/
def writeEntries : List (String × Json) → List Char
  | [] => ['\x7d']
  | [(k, v)] => writeString k ++ ':' :: writeChars v ++ ['\x7d']
  | (k, v) :: e :: rest => writeString k ++ ':' :: writeChars v ++ ',' :: writeEntries (e :: rest)

end

/-- The compact text of a value. -/
def write (value : Json) : String :=
  String.ofList (writeChars value)

end SchemaEngine.Json
