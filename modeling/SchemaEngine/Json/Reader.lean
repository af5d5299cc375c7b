import SchemaEngine.Json.Value

/-!
# Reading JSON

A reader that stops at the first fault and says where. A fault stands at a byte of the text: at the
end of what was read, or just past the byte that does not fit. Arrays and objects nest at most 127
deep.

A number without fraction and exponent is an integer if 64 bits hold it, and a floating-point number
if not; minus zero is one too. Of the entries of an object with one key, the last one counts.

## Main definitions

* `Json.Cause`, `Json.Fault`: what is wrong, and where.
* `Json.Fault.message`: the fault in words, with line and column; columns count bytes.
* `Json.read`: the value that a text holds.
-/

set_option autoImplicit false

namespace SchemaEngine.Json

/-- What is wrong with a text. -/
inductive Cause where
  | endOfArray
  | endOfObject
  | endOfString
  | endOfValue
  | colonExpected
  | arrayCommaExpected
  | objectCommaExpected
  | wordExpected
  | valueExpected
  | escapeUnknown
  | numberMalformed
  | numberTooLarge
  | controlCharacter
  | keyNotString
  | surrogateUnpaired
  | surrogateUnfinished
  | commaTrailing
  | textTrailing
  | nestingTooDeep
  deriving Repr, DecidableEq

/-- The cause in words. -/
def Cause.message : Cause → String
  | .endOfArray => "EOF while parsing a list"
  | .endOfObject => "EOF while parsing an object"
  | .endOfString => "EOF while parsing a string"
  | .endOfValue => "EOF while parsing a value"
  | .colonExpected => "expected `:`"
  | .arrayCommaExpected => "expected `,` or `]`"
  | .objectCommaExpected => "expected `,` or `\x7d`"
  | .wordExpected => "expected ident"
  | .valueExpected => "expected value"
  | .escapeUnknown => "invalid escape"
  | .numberMalformed => "invalid number"
  | .numberTooLarge => "number out of range"
  | .controlCharacter => "control character (\\u0000-\\u001F) found while parsing a string"
  | .keyNotString => "key must be a string"
  | .surrogateUnpaired => "lone leading surrogate in hex escape"
  | .surrogateUnfinished => "unexpected end of hex escape"
  | .commaTrailing => "trailing comma"
  | .textTrailing => "trailing characters"
  | .nestingTooDeep => "recursion limit exceeded"

/-- A fault: its cause, and how many bytes of the text are left behind the place where it stands. -/
structure Fault where
  cause : Cause
  left : Nat
  deriving Repr, DecidableEq

/-- The number of bytes of a text. -/
def byteCount (text : List Char) : Nat :=
  text.foldl (fun count c => count + c.utf8Size) 0

/-- A fault at the end of what was read. -/
def faultAt (cause : Cause) (rest : List Char) : Fault :=
  ⟨cause, byteCount rest⟩

/-- A fault just past the first byte that was not read, if there is one. -/
def faultPast (cause : Cause) (rest : List Char) : Fault :=
  ⟨cause, byteCount rest - 1⟩

/-- What reading a part of the text gives: a fault, or a value and the rest of the text. -/
abbrev Outcome (α : Type) : Type :=
  Except Fault (α × List Char)

/-- Whether a character is blank. -/
def isBlank (c : Char) : Bool :=
  c = ' ' || c = '\n' || c = '\t' || c = '\r'

/-- The text from its first character that is not blank. -/
def skipBlank (text : List Char) : List Char :=
  text.dropWhile isBlank

/-! ### Words -/

/-- Reads the rest of a word whose first letter has been read. -/
def readWord (value : Json) : List Char → List Char → Outcome Json
  | [], text => .ok (value, text)
  | _ :: _, [] => .error (faultAt .endOfValue [])
  | w :: ws, c :: text =>
    if c = w then readWord value ws text else .error (faultPast .wordExpected (c :: text))

/-! ### Numbers -/

/-- The greatest integer that counts as one. -/
def greatestInteger : Nat := Nat.pow 2 64 - 1

/-- The value of a decimal digit. -/
def digitValue (c : Char) : Nat :=
  c.toNat - '0'.toNat

/-- Adds digits to a significand until there are no more or the next one would carry it past
`greatestInteger`. Gives the significand, the number of digits added and the rest. -/
def addDigits (significand : Nat) : List Char → Nat × Nat × List Char
  | [] => (significand, 0, [])
  | c :: text =>
    if c.isDigit && significand * 10 + digitValue c ≤ greatestInteger then
      let (s, count, rest) := addDigits (significand * 10 + digitValue c) text
      (s, count + 1, rest)
    else (significand, 0, c :: text)

/-- The digits that a text begins with. -/
def leadingDigits (text : List Char) : List Char :=
  text.takeWhile Char.isDigit

/-- The text after the digits that it begins with. -/
def afterDigits (text : List Char) : List Char :=
  text.dropWhile Char.isDigit

/-- The floating-point number of the given parts, whose text ends where `rest` begins. -/
def realOf (negative : Bool) (significand : Nat) (power : Int) (rest : List Char) :
    Outcome Number :=
  match Decimal.read negative significand power with
  | some x => .ok (.real x, rest)
  | none => .error (faultAt .numberTooLarge rest)

/-- The greatest exponent that is read as a number. -/
def greatestExponent : Nat := Nat.pow 2 31 - 1

/-- Adds digits to an exponent: the exponent and the rest, or the rest after the digit that carries
it past `greatestExponent`. -/
def exponentDigits (exponent : Nat) : List Char → Except (List Char) (Nat × List Char)
  | [] => .ok (exponent, [])
  | c :: text =>
    if c.isDigit then
      if exponent * 10 + digitValue c ≤ greatestExponent then
        exponentDigits (exponent * 10 + digitValue c) text
      else .error text
    else .ok (exponent, c :: text)

/-- The sign of an exponent, and the text after it. -/
def exponentSign : List Char → Bool × List Char
  | '+' :: text => (false, text)
  | '-' :: text => (true, text)
  | text => (false, text)

/-- Reads an exponent after its letter. -/
def readExponent (negative : Bool) (significand : Nat) (power : Int) (text : List Char) :
    Outcome Number :=
  let (below, digits) := exponentSign text
  match digits with
  | [] => .error (faultAt .endOfValue [])
  | c :: rest =>
    if c.isDigit then
      match exponentDigits (digitValue c) rest with
      | .ok (exponent, rest') =>
        realOf negative significand (if below then power - exponent else power + exponent) rest'
      | .error rest' =>
        if significand ≠ 0 && !below then .error (faultAt .numberTooLarge rest')
        else .ok (.real ⟨negative, .zero⟩, afterDigits rest')
    else .error (faultPast .numberMalformed digits)

/-- Whether a text begins with the letter of an exponent. -/
def beginsExponent : List Char → Bool
  | 'e' :: _ => true
  | 'E' :: _ => true
  | _ => false

/-- Reads an exponent, if the text has one. -/
def readTail (negative : Bool) (significand : Nat) (power : Int) (text : List Char) :
    Outcome Number :=
  if beginsExponent text then readExponent negative significand power text.tail
  else realOf negative significand power text

/-- Reads a fraction after its point. Digits that the significand cannot take are dropped. -/
def readFraction (negative : Bool) (significand : Nat) (power : Int) (text : List Char) :
    Outcome Number :=
  let (s, count, rest) := addDigits significand text
  if (leadingDigits rest).isEmpty then
    if count = 0 then
      match rest with
      | [] => .error (faultAt .endOfValue [])
      | _ :: _ => .error (faultPast .numberMalformed rest)
    else readTail negative s (power - count) rest
  else readTail negative s (power - count) (afterDigits rest)

/-- The number that an integer without fraction and exponent is. -/
def integerOf (negative : Bool) (significand : Nat) : Number :=
  if negative then
    if significand = 0 || Nat.pow 2 63 < significand then
      .real ⟨true, (Binary64.Magnitude.ofNat significand).getD .zero⟩
    else .integer (-(significand : Int))
  else .integer significand

/-- Reads what may follow the digits of an integer. -/
def readRest (negative : Bool) (significand : Nat) (text : List Char) : Outcome Number :=
  match text with
  | '.' :: rest => readFraction negative significand 0 rest
  | text =>
    if beginsExponent text then readExponent negative significand 0 text.tail
    else .ok (integerOf negative significand, text)

/-- Reads what follows the digits that an integer can take, of which there are more. -/
def readLong (negative : Bool) (significand : Nat) (text : List Char) : Outcome Number :=
  let power : Int := (leadingDigits text).length
  match afterDigits text with
  | '.' :: rest => readFraction negative significand power rest
  | rest => readTail negative significand power rest

/-- Reads a number after its sign. -/
def readNumber (negative : Bool) (text : List Char) : Outcome Number :=
  match text with
  | [] => .error (faultAt .endOfValue [])
  | c :: rest =>
    if c = '0' then
      if (leadingDigits rest).isEmpty then readRest negative 0 rest
      else .error (faultPast .numberMalformed rest)
    else if c.isDigit then
      let (significand, _, rest') := addDigits (digitValue c) rest
      if (leadingDigits rest').isEmpty then readRest negative significand rest'
      else readLong negative significand rest'
    else .error (faultPast .numberMalformed text)

/-! ### Strings -/

/-- The value of a hexadecimal digit. -/
def hexValue (c : Char) : Option Nat :=
  if c.isDigit then some (c.toNat - '0'.toNat)
  else if 'a' ≤ c && c ≤ 'f' then some (c.toNat - 'a'.toNat + 10)
  else if 'A' ≤ c && c ≤ 'F' then some (c.toNat - 'A'.toNat + 10)
  else none

/-- Reads the four digits of an escape. Without four bytes left the string has ended; otherwise four
bytes are taken whatever they are. -/
def readHex (text : List Char) : Except Fault (Nat × List Char) :=
  if byteCount (text.take 4) < 4 then .error (faultAt .endOfString [])
  else
    match text with
    | a :: b :: c :: d :: rest =>
      match hexValue a, hexValue b, hexValue c, hexValue d with
      | some w, some x, some y, some z => .ok (((w * 16 + x) * 16 + y) * 16 + z, rest)
      | _, _, _, _ => .error ⟨.escapeUnknown, byteCount text - 4⟩
    | _ => .error ⟨.escapeUnknown, byteCount text - 4⟩

/-- Reads one character that must follow a leading surrogate. -/
def expectSurrogate (expected : Char) (text : List Char) : Except Fault (List Char) :=
  match text with
  | [] => .error (faultAt .endOfString [])
  | c :: rest => if c = expected then .ok rest else .error (faultPast .surrogateUnfinished text)

/-- Reads the digits of an escape, and the second escape that a leading surrogate needs. -/
def readUnicode (text : List Char) : Except Fault (Char × List Char) :=
  match readHex text with
  | .error fault => .error fault
  | .ok (n, rest) =>
    if 0xDC00 ≤ n && n ≤ 0xDFFF then .error (faultAt .surrogateUnpaired rest)
    else if n < 0xD800 || 0xDBFF < n then .ok (Char.ofNat n, rest)
    else
      match expectSurrogate '\\' rest with
      | .error fault => .error fault
      | .ok rest =>
        match expectSurrogate 'u' rest with
        | .error fault => .error fault
        | .ok rest =>
          match readHex rest with
          | .error fault => .error fault
          | .ok (m, rest) =>
            if m < 0xDC00 || 0xDFFF < m then .error (faultAt .surrogateUnpaired rest)
            else .ok (Char.ofNat ((n - 0xD800) * 1024 + (m - 0xDC00) + 0x10000), rest)

/-- Reads an escape after its backslash. -/
def readEscape (text : List Char) : Except Fault (Char × List Char) :=
  match text with
  | [] => .error (faultAt .endOfString [])
  | c :: rest =>
    match c with
    | '"' => .ok ('"', rest)
    | '\\' => .ok ('\\', rest)
    | '/' => .ok ('/', rest)
    | 'b' => .ok ('\x08', rest)
    | 'f' => .ok ('\x0c', rest)
    | 'n' => .ok ('\n', rest)
    | 'r' => .ok ('\r', rest)
    | 't' => .ok ('\t', rest)
    | 'u' => readUnicode rest
    | _ => .error (faultPast .escapeUnknown text)

/-- Reads the characters of a string up to the quote that ends it. The first `skip` characters
belong to an escape that has been read. -/
def readChars (skip : Nat) : List Char → Outcome (List Char)
  | [] => .error (faultAt .endOfString [])
  | c :: text =>
    match skip with
    | n + 1 => readChars n text
    | 0 =>
      if c = '"' then .ok ([], text)
      else if c = '\\' then
        match readEscape text with
        | .error fault => .error fault
        | .ok (d, rest) =>
          match readChars (text.length - rest.length) text with
          | .error fault => .error fault
          | .ok (ds, rest) => .ok (d :: ds, rest)
      else if c.toNat < 0x20 then .error (faultPast .controlCharacter (c :: text))
      else
        match readChars 0 text with
        | .error fault => .error fault
        | .ok (cs, rest) => .ok (c :: cs, rest)

/-- Reads a string after the quote that begins it. -/
def readString (text : List Char) : Outcome String :=
  match readChars 0 text with
  | .error fault => .error fault
  | .ok (cs, rest) => .ok (String.ofList cs, rest)

/-! ### Arrays, objects and values -/

/-- Reads the items of an array up to its bracket, where an item must come next. There are at most
`bound` of them. -/
def readItems (item : List Char → Outcome Json) : Nat → List Char → Outcome (List Json)
  | 0, text => .error (faultAt .endOfArray text)
  | bound + 1, text =>
    match item text with
    | .error fault => .error fault
    | .ok (value, rest) =>
      match skipBlank rest with
      | [] => .error (faultPast .endOfArray [])
      | ']' :: rest => .ok ([value], rest)
      | ',' :: rest =>
        match skipBlank rest with
        | [] => .error (faultPast .endOfValue [])
        | ']' :: rest => .error (faultPast .commaTrailing (']' :: rest))
        | rest =>
          match readItems item bound rest with
          | .error fault => .error fault
          | .ok (values, rest) => .ok (value :: values, rest)
      | rest => .error (faultPast .arrayCommaExpected rest)

/-- Reads an array after its bracket. -/
def readArray (item : List Char → Outcome Json) (text : List Char) : Outcome Json :=
  match skipBlank text with
  | [] => .error (faultPast .endOfArray [])
  | ']' :: rest => .ok (.array [], rest)
  | rest =>
    match readItems item rest.length rest with
    | .error fault => .error fault
    | .ok (values, rest) => .ok (.array values, rest)

/-- Reads a key and its value, where the quote of a key has been read. -/
def readEntry (item : List Char → Outcome Json) (text : List Char) : Outcome (String × Json) :=
  match readString text with
  | .error fault => .error fault
  | .ok (key, rest) =>
    match skipBlank rest with
    | [] => .error (faultPast .endOfObject [])
    | ':' :: rest =>
      match item rest with
      | .error fault => .error fault
      | .ok (value, rest) => .ok ((key, value), rest)
    | rest => .error (faultPast .colonExpected rest)

/-- Reads the entries of an object up to its brace, where the quote of a key has been read. There
are at most `bound` of them. -/
def readEntries (item : List Char → Outcome Json) :
    Nat → List Char → Outcome (List (String × Json))
  | 0, text => .error (faultAt .endOfObject text)
  | bound + 1, text =>
    match readEntry item text with
    | .error fault => .error fault
    | .ok (entry, rest) =>
      match skipBlank rest with
      | [] => .error (faultPast .endOfObject [])
      | '\x7d' :: rest => .ok ([entry], rest)
      | ',' :: rest =>
        match skipBlank rest with
        | [] => .error (faultPast .endOfValue [])
        | '"' :: rest =>
          match readEntries item bound rest with
          | .error fault => .error fault
          | .ok (entries, rest) => .ok (entry :: entries, rest)
        | '\x7d' :: rest => .error (faultPast .commaTrailing ('\x7d' :: rest))
        | rest => .error (faultPast .keyNotString rest)
      | rest => .error (faultPast .objectCommaExpected rest)

/-- Reads an object after its brace. -/
def readObject (item : List Char → Outcome Json) (text : List Char) : Outcome Json :=
  match skipBlank text with
  | [] => .error (faultPast .endOfObject [])
  | '\x7d' :: rest => .ok (.object [], rest)
  | '"' :: rest =>
    match readEntries item (rest.length + 1) rest with
    | .error fault => .error fault
    | .ok (entries, rest) => .ok (.ofEntries entries, rest)
  | rest => .error (faultPast .keyNotString rest)

/-- Reads a number as a value. -/
def readNumberValue (negative : Bool) (text : List Char) : Outcome Json :=
  match readNumber negative text with
  | .error fault => .error fault
  | .ok (x, rest) => .ok (.number x, rest)

/-- Reads a value with blanks before it, of arrays and objects nested less than `depth` deep. -/
def readValue : Nat → List Char → Outcome Json
  | depth, text =>
    match skipBlank text with
    | [] => .error (faultPast .endOfValue [])
    | 'n' :: rest => readWord .null "ull".toList rest
    | 't' :: rest => readWord (.bool true) "rue".toList rest
    | 'f' :: rest => readWord (.bool false) "alse".toList rest
    | '"' :: rest =>
      match readString rest with
      | .error fault => .error fault
      | .ok (s, rest) => .ok (.string s, rest)
    | '[' :: rest =>
      match depth with
      | 0 => .error (faultPast .nestingTooDeep ('[' :: rest))
      | 1 => .error (faultPast .nestingTooDeep ('[' :: rest))
      | d + 2 => readArray (readValue (d + 1)) rest
    | '\x7b' :: rest =>
      match depth with
      | 0 => .error (faultPast .nestingTooDeep ('\x7b' :: rest))
      | 1 => .error (faultPast .nestingTooDeep ('\x7b' :: rest))
      | d + 2 => readObject (readValue (d + 1)) rest
    | '-' :: rest => readNumberValue true rest
    | c :: rest =>
      if c.isDigit then readNumberValue false (c :: rest)
      else .error (faultPast .valueExpected (c :: rest))

/-- How deep arrays and objects may nest, and one more. -/
def nestingLimit : Nat := 128

/-- Reads a value that fills the text. -/
def readAll (text : List Char) : Except Fault Json :=
  match readValue nestingLimit text with
  | .error fault => .error fault
  | .ok (value, rest) =>
    match skipBlank rest with
    | [] => .ok value
    | c :: rest => .error (faultPast .textTrailing (c :: rest))

/-! ### Faults in words -/

/-- The line of the byte at an index, counted from one, and the number of bytes of that line before
it. -/
def position (bytes : List UInt8) (index : Nat) : Nat × Nat :=
  (bytes.take index).foldl (fun p b => if b = 10 then (p.1 + 1, 0) else (p.1, p.2 + 1)) (1, 0)

/-- A fault of a text in words. -/
def Fault.message (fault : Fault) (text : String) : String :=
  let bytes := text.toUTF8.toList
  let place := position bytes (bytes.length - fault.left)
  fault.cause.message ++ " at line " ++ toString place.1 ++ " column " ++ toString place.2

/-- The value that a text holds. -/
def read (text : String) : Except Fault Json :=
  readAll text.toList

end SchemaEngine.Json
