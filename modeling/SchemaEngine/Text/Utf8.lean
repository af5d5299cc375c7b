/-!
# UTF-8

Text as bytes and back. Names of files are byte strings that need not be text, so reading comes in
two forms: `decode`, which answers nothing for bytes that are not UTF-8, and `decodeLossy`, which
puts the replacement character for each broken sequence.

A broken sequence is the longest initial part of a character's encoding that is present, or one
byte that starts no character.

## Main definitions

* `Utf8.encode`: the bytes of a text.
* `Utf8.pieces`: the characters and broken sequences that a byte string falls into.
* `Utf8.decode`, `Utf8.decodeLossy`: the two readings.
-/

set_option autoImplicit false

namespace SchemaEngine.Utf8

/-- The bytes of a text. -/
def encode (text : List Char) : List UInt8 :=
  text.flatMap String.utf8EncodeChar

/-- The bytes of a string. -/
def encodeString (text : String) : List UInt8 :=
  encode text.toList

/-- A part of a byte string: an encoded character, or bytes that encode none. -/
inductive Piece where
  | char (c : Char)
  | broken (bytes : List UInt8)
  deriving Repr, DecidableEq

/-- Whether a byte may continue a character. -/
def isTail (b : UInt8) : Bool :=
  0x80 ≤ b && b ≤ 0xBF

/-- Whether the first two bytes may open a character of three bytes. -/
def opensThree (a b : UInt8) : Bool :=
  (a == 0xE0 && 0xA0 ≤ b && b ≤ 0xBF) || (0xE1 ≤ a && a ≤ 0xEC && isTail b) ||
    (a == 0xED && 0x80 ≤ b && b ≤ 0x9F) || (0xEE ≤ a && a ≤ 0xEF && isTail b)

/-- Whether the first two bytes may open a character of four bytes. -/
def opensFour (a b : UInt8) : Bool :=
  (a == 0xF0 && 0x90 ≤ b && b ≤ 0xBF) || (0xF1 ≤ a && a ≤ 0xF3 && isTail b) ||
    (a == 0xF4 && 0x80 ≤ b && b ≤ 0x8F)

/-- The low `bits` of a continuing byte. -/
def tailBits (b : UInt8) : Nat :=
  b.toNat % 64

/-- The characters and the broken sequences of a byte string, from left to right. -/
def pieces : List UInt8 → List Piece
  | [] => []
  | a :: rest =>
    if a < 0x80 then .char (Char.ofNat a.toNat) :: pieces rest
    else if 0xC2 ≤ a && a ≤ 0xDF then
      match rest with
      | b :: rest' =>
        if isTail b then .char (Char.ofNat (a.toNat % 32 * 64 + tailBits b)) :: pieces rest'
        else .broken [a] :: pieces (b :: rest')
      | [] => [.broken [a]]
    else if 0xE0 ≤ a && a ≤ 0xEF then
      match rest with
      | b :: rest' =>
        if opensThree a b then
          match rest' with
          | c :: rest'' =>
            if isTail c then
              .char (Char.ofNat ((a.toNat % 16 * 64 + tailBits b) * 64 + tailBits c)) ::
                pieces rest''
            else .broken [a, b] :: pieces (c :: rest'')
          | [] => [.broken [a, b]]
        else .broken [a] :: pieces (b :: rest')
      | [] => [.broken [a]]
    else if 0xF0 ≤ a && a ≤ 0xF4 then
      match rest with
      | b :: rest' =>
        if opensFour a b then
          match rest' with
          | c :: rest'' =>
            if isTail c then
              match rest'' with
              | d :: rest''' =>
                if isTail d then
                  .char (Char.ofNat
                    (((a.toNat % 8 * 64 + tailBits b) * 64 + tailBits c) * 64 + tailBits d)) ::
                      pieces rest'''
                else .broken [a, b, c] :: pieces (d :: rest''')
              | [] => [.broken [a, b, c]]
            else .broken [a, b] :: pieces (c :: rest'')
          | [] => [.broken [a, b]]
        else .broken [a] :: pieces (b :: rest')
      | [] => [.broken [a]]
    else .broken [a] :: pieces rest

/-- The text of pieces that are all characters. -/
def wholeText : List Piece → Option (List Char)
  | [] => some []
  | .char c :: rest => (wholeText rest).map (c :: ·)
  | .broken _ :: _ => none

/-- The text that a byte string encodes, if it is UTF-8. -/
def decode (bytes : List UInt8) : Option String :=
  (wholeText (pieces bytes)).map String.ofList

/-- The text of a byte string, with the replacement character for each broken sequence. -/
def decodeLossy (bytes : List UInt8) : String :=
  String.ofList <| (pieces bytes).map fun
    | .char c => c
    | .broken _ => '\uFFFD'

end SchemaEngine.Utf8
