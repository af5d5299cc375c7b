import Mathlib.Tactic.SplitIfs
import SchemaEngine.Text.Utf8

/-!
# Encoded text is read back

The bytes of a character are one piece, which is that character, whatever follows them. So the bytes
of a text are a text again, and the same one.

## Main results

* `Utf8.pieces_encodeChar_append`: the bytes of a character are one piece.
* `Utf8.decode_encodeString`: the bytes of a text are read as that text.
-/

set_option autoImplicit false

namespace SchemaEngine.Utf8

/-! ### One character

The bits of a character are spread over its bytes, and the first byte says over how many. Of three
or four bytes the second one is bounded, so that no character has a second encoding. -/

variable {a b c d : UInt8} {v w x y z : Nat} {rest : List UInt8}

theorem isTail_of_toNat (hb : b.toNat = x + 0x80) (hx : x < 64) : isTail b = true := by
  simp only [isTail, Bool.and_eq_true, decide_eq_true_eq, UInt8.le_iff_toNat_le, hb,
    UInt8.reduceToNat]
  omega

theorem tailBits_of_toNat (hb : b.toNat = x + 0x80) (hx : x < 64) : tailBits b = x := by
  rw [tailBits, hb]
  omega

theorem pieces_one (ha : a.toNat = v) (hv : v < 0x80) :
    pieces (a :: rest) = .char (.ofNat v) :: pieces rest := by
  have hfirst : a < 0x80 := by
    rwa [UInt8.lt_iff_toNat_lt, ha]
  rw [pieces.eq_def]
  simp only [hfirst, ha, if_true]

theorem pieces_two (ha : a.toNat = w + 0xC0) (hb : b.toNat = x + 0x80)
    (hw : 2 ≤ w ∧ w < 32) (hx : x < 64) :
    pieces (a :: b :: rest) = .char (.ofNat (w * 64 + x)) :: pieces rest := by
  have hfirst : ¬ a < 0x80 ∧ (0xC2 ≤ a && a ≤ 0xDF) = true := by
    simp only [Bool.and_eq_true, decide_eq_true_eq, UInt8.lt_iff_toNat_lt, UInt8.le_iff_toNat_le,
      ha, UInt8.reduceToNat]
    omega
  have hbits : a.toNat % 32 = w := by omega
  rw [pieces.eq_def]
  simp only [hfirst, hbits, isTail_of_toNat hb hx, tailBits_of_toNat hb hx, if_true, if_false]

theorem pieces_three (ha : a.toNat = w + 0xE0) (hb : b.toNat = x + 0x80) (hc : c.toNat = y + 0x80)
    (hw : w < 16) (hx : x < 64) (hy : y < 64) (hlow : w = 0 → 32 ≤ x) (hhigh : w = 13 → x < 32) :
    pieces (a :: b :: c :: rest) = .char (.ofNat ((w * 64 + x) * 64 + y)) :: pieces rest := by
  have hfirst : ¬ a < 0x80 ∧ ¬ (0xC2 ≤ a && a ≤ 0xDF) = true ∧
      (0xE0 ≤ a && a ≤ 0xEF) = true := by
    simp only [Bool.and_eq_true, decide_eq_true_eq, UInt8.lt_iff_toNat_lt, UInt8.le_iff_toNat_le,
      ha, UInt8.reduceToNat]
    omega
  have hsecond : opensThree a b = true := by
    simp only [opensThree, isTail, Bool.or_eq_true, Bool.and_eq_true, beq_iff_eq,
      decide_eq_true_eq, UInt8.le_iff_toNat_le, ← UInt8.toNat_inj, ha, hb, UInt8.reduceToNat]
    omega
  have hbits : a.toNat % 16 = w := by omega
  rw [pieces.eq_def]
  simp only [hfirst, hsecond, hbits, isTail_of_toNat hc hy, tailBits_of_toNat hb hx,
    tailBits_of_toNat hc hy, if_true, if_false, Bool.false_eq_true]

theorem pieces_four (ha : a.toNat = w + 0xF0) (hb : b.toNat = x + 0x80) (hc : c.toNat = y + 0x80)
    (hd : d.toNat = z + 0x80) (hw : w ≤ 4) (hx : x < 64) (hy : y < 64) (hz : z < 64)
    (hlow : w = 0 → 16 ≤ x) (hhigh : w = 4 → x < 16) :
    pieces (a :: b :: c :: d :: rest) =
      .char (.ofNat (((w * 64 + x) * 64 + y) * 64 + z)) :: pieces rest := by
  have hfirst : ¬ a < 0x80 ∧ ¬ (0xC2 ≤ a && a ≤ 0xDF) = true ∧ ¬ (0xE0 ≤ a && a ≤ 0xEF) = true ∧
      (0xF0 ≤ a && a ≤ 0xF4) = true := by
    simp only [Bool.and_eq_true, decide_eq_true_eq, UInt8.lt_iff_toNat_lt, UInt8.le_iff_toNat_le,
      ha, UInt8.reduceToNat]
    omega
  have hsecond : opensFour a b = true := by
    simp only [opensFour, isTail, Bool.or_eq_true, Bool.and_eq_true, beq_iff_eq,
      decide_eq_true_eq, UInt8.le_iff_toNat_le, ← UInt8.toNat_inj, ha, hb, UInt8.reduceToNat]
    omega
  have hbits : a.toNat % 8 = w := by omega
  rw [pieces.eq_def]
  simp only [hfirst, hsecond, hbits, isTail_of_toNat hc hy, isTail_of_toNat hd hz,
    tailBits_of_toNat hb hx, tailBits_of_toNat hc hy, tailBits_of_toNat hd hz, if_true, if_false,
    Bool.false_eq_true]

theorem toNat_ofNat_of_lt (hv : v < 256) : (UInt8.ofNat v).toNat = v := by
  rw [UInt8.toNat_ofNat']
  exact Nat.mod_eq_of_lt hv

/-- The bytes of a character are one piece, whatever follows. -/
theorem pieces_encodeChar_append (char : Char) (rest : List UInt8) :
    pieces (String.utf8EncodeChar char ++ rest) = .char char :: pieces rest := by
  have hvalid : char.val.toNat < 0xD800 ∨ 0xDFFF < char.val.toNat ∧ char.val.toNat < 0x110000 :=
    char.valid
  have hchar {n : Nat} (h : n = char.val.toNat) :
      Piece.char (.ofNat n) :: pieces rest = .char char :: pieces rest := by
    rw [h]
    exact congrArg (Piece.char · :: pieces rest) (Char.ofNat_toNat char)
  simp only [String.utf8EncodeChar]
  split_ifs
  · exact (pieces_one (toNat_ofNat_of_lt (by omega)) (by omega)).trans (hchar rfl)
  · exact (pieces_two (toNat_ofNat_of_lt (by omega)) (toNat_ofNat_of_lt (by omega)) (by omega)
      (by omega)).trans (hchar (by omega))
  · exact (pieces_three (toNat_ofNat_of_lt (by omega)) (toNat_ofNat_of_lt (by omega))
      (toNat_ofNat_of_lt (by omega)) (by omega) (by omega) (by omega) (by omega)
      (by omega)).trans (hchar (by omega))
  · exact (pieces_four (toNat_ofNat_of_lt (by omega)) (toNat_ofNat_of_lt (by omega))
      (toNat_ofNat_of_lt (by omega)) (toNat_ofNat_of_lt (by omega)) (by omega) (by omega) (by omega)
      (by omega) (by omega) (by omega)).trans (hchar (by omega))

/-- The bytes of a text are all characters, and these make the text. -/
theorem wholeText_pieces_encode (text : List Char) :
    wholeText (pieces (encode text)) = some text := by
  induction text with
  | nil => rfl
  | cons char text ih =>
    rw [encode, List.flatMap_cons, ← encode, pieces_encodeChar_append, wholeText, ih,
      Option.map_some]

/-- The bytes of a text are read as that text. -/
theorem decode_encodeString (text : String) : decode (encodeString text) = some text := by
  rw [decode, encodeString, wholeText_pieces_encode, Option.map_some, String.ofList_toList]

end SchemaEngine.Utf8
