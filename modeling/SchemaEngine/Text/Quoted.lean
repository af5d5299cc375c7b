import SchemaEngine.Text.Escaped
import SchemaEngine.Text.Utf8

/-!
# Quoted text and bytes

The form in which descriptions show text: between double quotes, with an escape for the quote, the
backslash and every character that does not show. Bytes that are not UTF-8 appear as two hexadecimal
digits each.

## Main definitions

* `Quoted.text`: a quoted string.
* `Quoted.bytes`: quoted bytes.
-/

set_option autoImplicit false

namespace SchemaEngine.Quoted

/-- The hexadecimal digits of a number, without leading zeros, in lower case. -/
def hexLower (n : Nat) : List Char :=
  Nat.toDigits 16 n

/-- The character as it stands between quotes. -/
def character (c : Char) : List Char :=
  match c with
  | '\x00' => ['\\', '0']
  | '\t' => ['\\', 't']
  | '\r' => ['\\', 'r']
  | '\n' => ['\\', 'n']
  | '"' => ['\\', '"']
  | '\\' => ['\\', '\\']
  | c =>
    if Escaped.isEscaped c then ['\\', 'u', '\x7b'] ++ hexLower c.toNat ++ ['\x7d'] else [c]

/-- A byte that belongs to no character, as it stands between quotes. -/
def brokenByte (b : UInt8) : List Char :=
  ['\\', 'x'] ++ ((Nat.toDigits 16 (b.toNat / 16)) ++ (Nat.toDigits 16 (b.toNat % 16))).map
    Char.toUpper

/-- A string between quotes. -/
def text (s : String) : String :=
  "\"" ++ String.ofList (s.toList.flatMap character) ++ "\""

/-- A byte string between quotes. -/
def bytes (bs : List UInt8) : String :=
  "\"" ++ String.ofList ((Utf8.pieces bs).flatMap fun
    | .char c => character c
    | .broken part => part.flatMap brokenByte) ++ "\""

end SchemaEngine.Quoted
