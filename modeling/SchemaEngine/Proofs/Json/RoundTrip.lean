import Mathlib.Data.List.Basic
import SchemaEngine.Json.Writer
import SchemaEngine.Proofs.Json.Reading

/-!
# Reading what was written

A value without floating-point numbers is written as a text that is read as the same value, whatever
characters its strings hold, as long as it does not nest too deep. The entries of an object may be
written in any order; they are read as the sorted ones.

## Main definitions

* `Json.Writable`: the values that are read again, by how deep they nest.

## Main results

* `Json.readChars_write`, `Json.readNumber_digits`: strings and integers.
* `Json.readItems_write`, `Json.readEntries_write`: arrays and objects.
* `Json.read_write`: values.
* `Json.read_write_object`: objects with their entries in any order.
-/

set_option autoImplicit false

namespace SchemaEngine.Json

open Std

/-! ### Strings -/

/-- Characters of an escape that has been read are skipped. -/
theorem readChars_skip (skipped text : List Char) :
    readChars skipped.length (skipped ++ text) = readChars 0 text := by
  induction skipped with
  | nil => rfl
  | cons c skipped ih =>
    rw [List.length_cons, List.cons_append, readChars]
    exact ih

/-- The character before what was read of a string. -/
def Outcome.after (c : Char) : Outcome (List Char) → Outcome (List Char)
  | .error fault => .error fault
  | .ok (cs, rest) => .ok (c :: cs, rest)

/-- An escape is read as its character. -/
theorem readChars_escape {c : Char} {escape text : List Char}
    (h : readEscape (escape ++ text) = .ok (c, text)) :
    readChars 0 ('\\' :: (escape ++ text)) = (readChars 0 text).after c := by
  have hskip : (escape ++ text).length - text.length = escape.length := by
    rw [List.length_append, Nat.add_sub_cancel]
  have hquote : ¬ '\\' = '"' := by decide
  rw [readChars, if_neg hquote, if_pos rfl, h]
  dsimp only
  rw [hskip, readChars_skip]
  cases readChars 0 text <;> rfl

theorem hexDigits_control : ∀ n < 0x20,
    hexDigits n = ['0', '0', Nat.digitChar (n / 16), Nat.digitChar (n % 16)] := by
  decide

theorem hexValue_digitChar : ∀ n < 16,
    hexValue (Nat.digitChar n) = some n ∧ (Nat.digitChar n).utf8Size = 1 := by
  decide

/-- The digits of a control character are read as its number. -/
theorem readHex_hexDigits {n : Nat} (h : n < 0x20) (text : List Char) :
    readHex (hexDigits n ++ text) = .ok (n, text) := by
  obtain ⟨hhigh, hhighSize⟩ := hexValue_digitChar (n / 16) (by omega)
  obtain ⟨hlow, hlowSize⟩ := hexValue_digitChar (n % 16) (by omega)
  have hzero : hexValue '0' = some 0 := by decide
  have hcount : ¬ byteCount ['0', '0', Nat.digitChar (n / 16), Nat.digitChar (n % 16)] < 4 := by
    simp only [byteCount, List.foldl_cons, List.foldl_nil, hhighSize, hlowSize]
    decide
  simp only [readHex, hexDigits_control n h, List.cons_append, List.nil_append, List.take_succ_cons,
    List.take_zero, if_neg hcount, hzero, hhigh, hlow]
  congr 2
  omega

/-- A control character is read from its number. -/
theorem readUnicode_control {c : Char} (h : c.toNat < 0x20) (text : List Char) :
    readUnicode (hexDigits c.toNat ++ text) = .ok (c, text) := by
  have htrail : ¬ (0xDC00 ≤ c.toNat && c.toNat ≤ 0xDFFF) = true := by
    simp
    omega
  have hplain : (c.toNat < 0xD800 || 0xDBFF < c.toNat) = true := by
    simp
    omega
  rw [readUnicode, readHex_hexDigits h]
  dsimp only
  rw [if_neg htrail, if_pos hplain, Char.ofNat_toNat]

/-- A character is read as it was written. -/
theorem readChars_writeChar (c : Char) (text : List Char) :
    readChars 0 (writeChar c ++ text) = (readChars 0 text).after c := by
  unfold writeChar
  -- The escapes of a single letter come first.
  iterate 7
    split
    · subst c
      exact readChars_escape rfl
  split
  · rename_i hcontrol
    exact readChars_escape (readUnicode_control hcontrol text)
  · rename_i hquote hbackslash _ _ _ _ _ hcontrol
    rw [List.singleton_append, readChars, if_neg hquote, if_neg hbackslash, if_neg hcontrol]
    cases readChars 0 text <;> rfl

/-- The characters of a string are read as they were written. -/
theorem readChars_write (cs rest : List Char) :
    readChars 0 (cs.flatMap writeChar ++ '"' :: rest) = .ok (cs, rest) := by
  induction cs with
  | nil => rfl
  | cons c cs ih =>
    rw [List.flatMap_cons, List.append_assoc, readChars_writeChar, ih]
    rfl

theorem readString_write (text : String) (rest : List Char) :
    readString (text.toList.flatMap writeChar ++ '"' :: rest) = .ok (text, rest) := by
  rw [readString, readChars_write]
  dsimp only
  rw [String.ofList_toList]

/-! ### Integers -/

/-- What follows a value in a text: nothing, a comma, or a closing bracket. -/
def Follows (rest : List Char) : Prop :=
  rest = [] ∨ ∃ c ∈ [',', ']', '\x7d'], ∃ more, rest = c :: more

theorem Follows.leadingDigits {rest : List Char} (h : Follows rest) : leadingDigits rest = [] := by
  rcases h with rfl | ⟨c, hc, more, rfl⟩
  · rfl
  · simp only [List.mem_cons, List.not_mem_nil, or_false] at hc
    rcases hc with rfl | rfl | rfl <;> rfl

/-- An integer ends where its digits end. -/
theorem Follows.readRest {rest : List Char} (h : Follows rest) (negative : Bool)
    (significand : Nat) :
    readRest negative significand rest = .ok (integerOf negative significand, rest) := by
  rcases h with rfl | ⟨c, hc, more, rfl⟩
  · rfl
  · simp only [List.mem_cons, List.not_mem_nil, or_false] at hc
    rcases hc with rfl | rfl | rfl <;> rfl

theorem Follows.addDigits {rest : List Char} (h : Follows rest) (significand : Nat) :
    addDigits significand rest = (significand, 0, rest) := by
  rcases h with rfl | ⟨c, hc, more, rfl⟩
  · rfl
  · simp only [List.mem_cons, List.not_mem_nil, or_false] at hc
    rcases hc with rfl | rfl | rfl <;> rfl

theorem le_ofDigitChars (digits : List Char) (significand : Nat) :
    significand ≤ Nat.ofDigitChars 10 digits significand := by
  induction digits generalizing significand with
  | nil => exact Nat.le_refl _
  | cons c digits ih =>
    exact Nat.le_trans (by omega) (ih (10 * significand + (c.toNat - '0'.toNat)))

/-- Digits are added up to the number that they write, if it is an integer of 64 bits. -/
theorem addDigits_digits {digits rest : List Char} (hdigits : ∀ c ∈ digits, c.isDigit = true)
    (hrest : Follows rest) {significand : Nat}
    (hbound : Nat.ofDigitChars 10 digits significand ≤ greatestInteger) :
    addDigits significand (digits ++ rest) =
      (Nat.ofDigitChars 10 digits significand, digits.length, rest) := by
  induction digits generalizing significand with
  | nil => exact hrest.addDigits significand
  | cons c digits ih =>
    obtain ⟨hc, hmore⟩ := List.forall_mem_cons.mp hdigits
    have hnext : significand * 10 + digitValue c = 10 * significand + (c.toNat - '0'.toNat) := by
      rw [digitValue, Nat.mul_comm]
    have hfits : significand * 10 + digitValue c ≤ greatestInteger := by
      rw [hnext]
      exact Nat.le_trans (le_ofDigitChars digits _) hbound
    rw [List.cons_append, Json.addDigits, hc, Bool.true_and, if_pos (decide_eq_true hfits), hnext,
      ih hmore hbound]
    rfl

/-- The first digit of a number that is not zero is not zero. -/
theorem toDigits_eq_cons {n : Nat} (h : n ≠ 0) :
    ∃ c digits, Nat.toDigits 10 n = c :: digits ∧ c ≠ '0' := by
  induction n using Nat.strongRecOn with
  | ind n ih =>
    rw [Nat.toDigits_eq_if (by decide)]
    split
    case isTrue hsmall =>
      have hdigit : ∀ d < 10, d ≠ 0 → Nat.digitChar d ≠ '0' := by decide
      exact ⟨_, [], rfl, hdigit n hsmall h⟩
    case isFalse hlarge =>
      obtain ⟨c, digits, hdigits, hc⟩ := ih (n / 10) (by omega) (by omega)
      exact ⟨c, digits ++ [(n % 10).digitChar], by rw [hdigits]; rfl, hc⟩

/-- The digits of an integer are read as the integer. -/
theorem readNumber_digits {n : Nat} (h : n ≤ greatestInteger) (negative : Bool)
    {rest : List Char} (hrest : Follows rest) :
    readNumber negative (Nat.toDigits 10 n ++ rest) = .ok (integerOf negative n, rest) := by
  by_cases hzero : n = 0
  · subst hzero
    have hdigits : (leadingDigits rest).isEmpty = true := by rw [hrest.leadingDigits]; rfl
    have hread : readNumber negative ('0' :: rest) = readRest negative 0 rest := by
      rw [readNumber, if_pos rfl, if_pos hdigits]
    exact hread.trans (hrest.readRest negative 0)
  · obtain ⟨c, digits, hwritten, hc⟩ := toDigits_eq_cons hzero
    have hdigits : ∀ d ∈ c :: digits, d.isDigit = true := fun d hd =>
      Nat.isDigit_of_mem_toDigits (by decide) (by decide) (hwritten ▸ hd)
    obtain ⟨hfirst, hothers⟩ := List.forall_mem_cons.mp hdigits
    have hvalue : Nat.ofDigitChars 10 digits (digitValue c) = n := by
      have hall := Nat.ofDigitChars_toDigits (b := 10) (n := n) (by decide) (by decide)
      rw [hwritten] at hall
      simpa [Nat.ofDigitChars, digitValue] using hall
    have hadded := addDigits_digits hothers hrest (hvalue.symm ▸ h)
    have hempty : (leadingDigits rest).isEmpty = true := by rw [hrest.leadingDigits]; rfl
    rw [hwritten, List.cons_append, readNumber, if_neg hc, if_pos hfirst, hadded, hvalue]
    dsimp only
    rw [if_pos hempty, hrest.readRest]

/-! ### Arrays and objects -/

/-- How a text begins that a value may begin with: there is no blank, and no bracket that closes an
array. -/
def Starts (text : List Char) : Prop :=
  ∃ c more, text = c :: more ∧ isBlank c = false ∧ c ≠ ']'

theorem Starts.append {text : List Char} (h : Starts text) (rest : List Char) :
    Starts (text ++ rest) := by
  obtain ⟨c, more, rfl, hblank, hbracket⟩ := h
  exact ⟨c, more ++ rest, rfl, hblank, hbracket⟩

theorem skipBlank_cons {c : Char} (h : isBlank c = false) (text : List Char) :
    skipBlank (c :: text) = c :: text := by
  rw [skipBlank, List.dropWhile_cons, if_neg (by simp [h])]

/-- A value is read as it was written, whatever follows it. -/
structure ReadBy (item : List Char → Outcome Json) (value : Json) : Prop where
  starts : Starts (writeChars value)
  read : ∀ rest, Follows rest → item (writeChars value ++ rest) = .ok (value, rest)

section Items

variable {item : List Char → Outcome Json}

theorem follows_comma (rest : List Char) : Follows (',' :: rest) :=
  .inr ⟨',', by simp, rest, rfl⟩

theorem starts_writeItems {value : Json} (h : Starts (writeChars value)) (items : List Json) :
    Starts (writeItems (value :: items)) := by
  cases items with
  | nil => exact h.append _
  | cons => exact h.append _

theorem length_le_writeItems (items : List Json) : items.length ≤ (writeItems items).length := by
  induction items with
  | nil => simp [writeItems]
  | cons value items ih =>
    cases items with
    | nil => simp [writeItems]
    | cons => simp only [writeItems, List.length_append, List.length_cons] at ih ⊢; omega

theorem readItems_last {text rest : List Char} {value : Json} (bound : Nat)
    (h : item text = .ok (value, ']' :: rest)) :
    readItems item (bound + 1) text = .ok ([value], rest) := by
  rw [readItems, h]
  rfl

theorem readItems_more {text more rest : List Char} {value : Json} {values : List Json}
    {bound : Nat} (h : item text = .ok (value, ',' :: more)) (hstart : Starts more)
    (hmore : readItems item bound more = .ok (values, rest)) :
    readItems item (bound + 1) text = .ok (value :: values, rest) := by
  obtain ⟨c, more, rfl, hblank, hbracket⟩ := hstart
  have hcomma : isBlank ',' = false := rfl
  simp only [readItems, h, skipBlank_cons hcomma, skipBlank_cons hblank]
  split
  · cases ‹c :: more = []›
  · exact absurd (List.cons.inj ‹c :: more = ']' :: _›).1 hbracket
  · rw [hmore]

/-- The items of an array are read as they were written. -/
theorem readItems_write {value : Json} {items : List Json}
    (hitems : ∀ x ∈ value :: items, ReadBy item x) {bound : Nat}
    (hbound : items.length ≤ bound) (rest : List Char) :
    readItems item (bound + 1) (writeItems (value :: items) ++ rest) =
      .ok (value :: items, rest) := by
  obtain ⟨hvalue, hothers⟩ := List.forall_mem_cons.mp hitems
  induction items generalizing value bound with
  | nil =>
    rw [writeItems, List.append_assoc]
    exact readItems_last bound (hvalue.read _ (.inr ⟨']', by simp, rest, rfl⟩))
  | cons next items ih =>
    obtain ⟨hnext, hmore⟩ := List.forall_mem_cons.mp hothers
    obtain ⟨bound, rfl⟩ : ∃ b, bound = b + 1 := ⟨bound - 1, by simp at hbound; omega⟩
    rw [writeItems, List.append_assoc]
    exact readItems_more (hvalue.read _ (follows_comma _))
      ((starts_writeItems hnext.starts items).append rest)
      (ih hothers (Nat.le_of_succ_le_succ hbound) hnext hmore)

theorem readArray_of_readItems {text rest : List Char} {values : List Json} (hstart : Starts text)
    (h : readItems item text.length text = .ok (values, rest)) :
    readArray item text = .ok (.array values, rest) := by
  obtain ⟨c, more, rfl, hblank, hbracket⟩ := hstart
  simp only [readArray, skipBlank_cons hblank]
  split
  · cases ‹c :: more = []›
  · exact absurd (List.cons.inj ‹c :: more = ']' :: _›).1 hbracket
  · rw [h]

/-- An array is read as it was written. -/
theorem readArray_write {items : List Json} (hitems : ∀ x ∈ items, ReadBy item x)
    (rest : List Char) :
    readArray item (writeItems items ++ rest) = .ok (.array items, rest) := by
  cases items with
  | nil => rfl
  | cons value items =>
    have hvalue := hitems value List.mem_cons_self
    refine readArray_of_readItems ((starts_writeItems hvalue.starts items).append rest) ?_
    have hlength := length_le_writeItems (value :: items)
    rw [List.length_cons] at hlength
    obtain ⟨bound, hbound⟩ : ∃ b, (writeItems (value :: items) ++ rest).length = b + 1 := by
      rw [List.length_append]
      exact ⟨_, (Nat.sub_add_cancel (by omega)).symm⟩
    rw [hbound]
    rw [List.length_append] at hbound
    exact readItems_write hitems (by omega) rest

/-- The text of an entry after the quote that begins its key. -/
def entryText (entry : String × Json) (rest : List Char) : List Char :=
  entry.1.toList.flatMap writeChar ++ '"' :: ':' :: (writeChars entry.2 ++ rest)

/-- What follows the first entry in the text of an object. -/
def otherEntries (entries : List (String × Json)) (rest : List Char) : List Char :=
  match entries with
  | [] => '\x7d' :: rest
  | entry :: entries => ',' :: (writeEntries (entry :: entries) ++ rest)

theorem follows_otherEntries (entries : List (String × Json)) (rest : List Char) :
    Follows (otherEntries entries rest) := by
  cases entries with
  | nil => exact .inr ⟨'\x7d', by simp, rest, rfl⟩
  | cons => exact follows_comma _

theorem writeEntries_cons (entry : String × Json) (entries : List (String × Json))
    (rest : List Char) : writeEntries (entry :: entries) ++ rest =
      '"' :: entryText entry (otherEntries entries rest) := by
  cases entries <;> simp [writeEntries, writeString, entryText, otherEntries]

theorem otherEntries_cons (entry : String × Json) (entries : List (String × Json))
    (rest : List Char) : otherEntries (entry :: entries) rest =
      ',' :: '"' :: entryText entry (otherEntries entries rest) :=
  congrArg (',' :: ·) (writeEntries_cons entry entries rest)

theorem length_le_otherEntries (entries : List (String × Json)) (rest : List Char) :
    entries.length ≤ (otherEntries entries rest).length := by
  induction entries with
  | nil => exact Nat.zero_le _
  | cons entry entries ih =>
    simp only [otherEntries_cons, entryText, List.length_cons, List.length_append]
    omega

/-- An entry is read as it was written. -/
theorem readEntry_write {entry : String × Json} (h : ReadBy item entry.2) {rest : List Char}
    (hrest : Follows rest) : readEntry item (entryText entry rest) = .ok (entry, rest) := by
  have hcolon : isBlank ':' = false := rfl
  simp only [readEntry, entryText, readString_write, skipBlank_cons hcolon, h.read rest hrest]

theorem readEntries_last {text rest : List Char} {entry : String × Json} (bound : Nat)
    (h : readEntry item text = .ok (entry, '\x7d' :: rest)) :
    readEntries item (bound + 1) text = .ok ([entry], rest) := by
  rw [readEntries, h]
  rfl

theorem readEntries_more {text more rest : List Char} {entry : String × Json}
    {entries : List (String × Json)} {bound : Nat}
    (h : readEntry item text = .ok (entry, ',' :: '"' :: more))
    (hmore : readEntries item bound more = .ok (entries, rest)) :
    readEntries item (bound + 1) text = .ok (entry :: entries, rest) := by
  have hcomma : isBlank ',' = false := rfl
  have hquote : isBlank '"' = false := rfl
  simp only [readEntries, h, skipBlank_cons hcomma, skipBlank_cons hquote, hmore]

/-- The entries of an object are read as they were written. -/
theorem readEntries_write {entry : String × Json} {entries : List (String × Json)}
    (hentries : ∀ e ∈ entry :: entries, ReadBy item e.2) {bound : Nat}
    (hbound : entries.length ≤ bound) (rest : List Char) :
    readEntries item (bound + 1) (entryText entry (otherEntries entries rest)) =
      .ok (entry :: entries, rest) := by
  obtain ⟨hentry, hothers⟩ := List.forall_mem_cons.mp hentries
  have hread := readEntry_write hentry (follows_otherEntries entries rest)
  induction entries generalizing entry bound with
  | nil => exact readEntries_last bound hread
  | cons next entries ih =>
    obtain ⟨hnext, hmore⟩ := List.forall_mem_cons.mp hothers
    obtain ⟨bound, rfl⟩ : ∃ b, bound = b + 1 := ⟨bound - 1, by simp at hbound; omega⟩
    have hseparated := hread.trans
      (congrArg (fun text => Except.ok (entry, text)) (otherEntries_cons next entries rest))
    refine readEntries_more hseparated ?_
    exact ih hothers (Nat.le_of_succ_le_succ hbound) hnext hmore
      (readEntry_write hnext (follows_otherEntries entries rest))

/-- An object is read as the sorted one of the entries that were written. -/
theorem readObject_write {entries : List (String × Json)}
    (hentries : ∀ e ∈ entries, ReadBy item e.2) (rest : List Char) :
    readObject item (writeEntries entries ++ rest) = .ok (.ofEntries entries, rest) := by
  cases entries with
  | nil => rfl
  | cons entry entries =>
    have hquote : isBlank '"' = false := rfl
    have hlength : entries.length ≤ (entryText entry (otherEntries entries rest)).length := by
      have := length_le_otherEntries entries rest
      simp only [entryText, List.length_append, List.length_cons]
      omega
    simp only [readObject, writeEntries_cons, skipBlank_cons hquote,
      readEntries_write hentries hlength rest]

end Items

/-! ### Values -/

/-- The values that are read again, where arrays and objects nest at most `depth` deep: there are no
floating-point numbers, integers fit into 64 bits, and keys increase. -/
inductive Writable : Nat → Json → Prop where
  | null (depth : Nat) : Writable depth .null
  | bool (depth : Nat) (value : Bool) : Writable depth (.bool value)
  | integer (depth : Nat) (n : Int) : -2 ^ 63 ≤ n → n < 2 ^ 64 →
      Writable depth (.number (.integer n))
  | string (depth : Nat) (text : String) : Writable depth (.string text)
  | array (depth : Nat) (items : List Json) : (∀ item ∈ items, Writable depth item) →
      Writable (depth + 1) (.array items)
  | object (depth : Nat) (entries : List (String × Json)) :
      Sorted.Increasing keyOrder entries → (∀ entry ∈ entries, Writable depth entry.2) →
        Writable (depth + 1) (.object entries)

/-- What is read again is one of the values that are read. -/
theorem Writable.wellFormed {depth : Nat} {value : Json} (h : Writable depth value) :
    value.WellFormed := by
  induction h with
  | null => exact .null
  | bool _ value => exact .bool value
  | integer _ n hleast hbound => exact .number _ ⟨hleast, hbound⟩
  | string _ text => exact .string text
  | array _ items _ ih => exact .array items ih
  | object _ entries hincreasing _ ih => exact .object entries hincreasing ih

theorem toDigits_head (n : Nat) :
    ∃ c digits, Nat.toDigits 10 n = c :: digits ∧ c.isDigit = true := by
  cases hdigits : Nat.toDigits 10 n with
  | nil => exact absurd hdigits Nat.toDigits_ne_nil
  | cons c digits =>
    have hmem : c ∈ Nat.toDigits 10 n := hdigits ▸ List.mem_cons_self
    exact ⟨c, digits, rfl, Nat.isDigit_of_mem_toDigits (by decide) (by decide) hmem⟩

theorem isBlank_of_isDigit {c : Char} (h : c.isDigit = true) : isBlank c = false := by
  refine Bool.eq_false_iff.mpr fun hblank => ?_
  simp only [isBlank, Bool.or_eq_true, decide_eq_true_eq, or_assoc] at hblank
  rcases hblank with rfl | rfl | rfl | rfl <;> exact absurd h (by decide)

theorem starts_writeInt (n : Int) : Starts (writeInt n) := by
  unfold writeInt
  split
  · exact ⟨'-', _, rfl, rfl, by decide⟩
  · obtain ⟨c, digits, hdigits, hc⟩ := toDigits_head n.natAbs
    refine ⟨c, digits, hdigits, isBlank_of_isDigit hc, ?_⟩
    rintro rfl
    exact absurd hc (by decide)

theorem Writable.starts {depth : Nat} {value : Json} (h : Writable depth value) :
    Starts (writeChars value) := by
  cases h with
  | null => exact ⟨'n', _, rfl, rfl, by decide⟩
  | bool _ value => cases value <;> exact ⟨_, _, rfl, rfl, by decide⟩
  | integer _ n => exact starts_writeInt n
  | string => exact ⟨'"', _, rfl, rfl, by decide⟩
  | array => exact ⟨'[', _, rfl, rfl, by decide⟩
  | object => exact ⟨'\x7b', _, rfl, rfl, by decide⟩

/-- A value that begins with a digit is a number. -/
theorem readValue_digit {c : Char} (h : c.isDigit = true) (depth : Nat) (text : List Char) :
    readValue depth (c :: text) = readNumberValue false (c :: text) := by
  unfold readValue
  rw [skipBlank_cons (isBlank_of_isDigit h)]
  split
  case h_9 heq =>
    obtain ⟨rfl, rfl⟩ := List.cons.inj heq
    rw [if_pos h]
  case h_1 heq => cases heq
  all_goals
    rename_i heq
    obtain ⟨rfl, -⟩ := List.cons.inj heq
    exact absurd h (by decide)

/-- An integer is read as it was written. -/
theorem readValue_writeInt {n : Int} (hleast : -2 ^ 63 ≤ n) (hbound : n < 2 ^ 64) (depth : Nat)
    {rest : List Char} (hrest : Follows rest) :
    readValue (depth + 1) (writeInt n ++ rest) = .ok (.number (.integer n), rest) := by
  have hgreatest : greatestInteger = 2 ^ 64 - 1 := rfl
  have hfits : n.natAbs ≤ greatestInteger := by omega
  unfold writeInt
  split
  case isTrue hnegative =>
    have hsmall : ¬ (n.natAbs = 0 || Nat.pow 2 63 < n.natAbs) = true := by
      simp
      omega
    have hvalue : -(n.natAbs : Int) = n := by omega
    have hread := readNumber_digits hfits true hrest
    rw [integerOf, if_pos rfl, if_neg hsmall, hvalue] at hread
    change readNumberValue true (Nat.toDigits 10 n.natAbs ++ rest) = _
    rw [readNumberValue, hread]
  case isFalse hnatural =>
    have hvalue : (n.natAbs : Int) = n := by omega
    obtain ⟨c, digits, hdigits, hc⟩ := toDigits_head n.natAbs
    have hread := readNumber_digits hfits false hrest
    rw [integerOf, if_neg Bool.false_ne_true, hvalue, hdigits] at hread
    rw [hdigits, List.cons_append, readValue_digit hc, readNumberValue, ← List.cons_append, hread]

/-- Entries whose keys increase are those of the object that is made of them. -/
theorem ofEntries_of_perm {entries sorted : List (String × Json)} (hperm : entries.Perm sorted)
    (hsorted : Sorted.Increasing keyOrder sorted) : ofEntries entries = .object sorted := by
  have hentries : Sorted.ofList keyOrder entries = sorted := Sorted.ofList_of_perm hperm hsorted
  exact congrArg Json.object hentries

theorem readValue_string {value : String} {text rest : List Char}
    (h : readString text = .ok (value, rest)) (depth : Nat) :
    readValue depth ('"' :: text) = .ok (.string value, rest) := by
  unfold readValue
  rw [skipBlank_cons rfl]
  simp only [h]

theorem readValue_object {depth : Nat} {entries : List (String × Json)}
    (hentries : ∀ e ∈ entries, ReadBy (readValue (depth + 1)) e.2) (rest : List Char) :
    readValue (depth + 2) (writeChars (.object entries) ++ rest) =
      .ok (.ofEntries entries, rest) :=
  readObject_write hentries rest

/-- A value is read as it was written, whatever follows it. -/
theorem Writable.read {depth : Nat} {value : Json} (h : Writable depth value) :
    ReadBy (readValue (depth + 1)) value := by
  refine ⟨h.starts, ?_⟩
  induction h with
  | null => exact fun rest _ => rfl
  | bool _ value => exact fun rest _ => by cases value <;> rfl
  | integer _ n hleast hbound => exact fun rest => readValue_writeInt hleast hbound _
  | string _ text =>
    intro rest _
    have hwritten : writeChars (.string text) ++ rest =
        '"' :: (text.toList.flatMap writeChar ++ '"' :: rest) := by
      simp [writeChars, writeString]
    rw [hwritten]
    exact readValue_string (readString_write text rest) _
  | array _ items hitems ih =>
    intro rest _
    exact readArray_write (fun x hx => ⟨(hitems x hx).starts, ih x hx⟩) rest
  | object _ entries hincreasing hentries ih =>
    intro rest _
    rw [readValue_object (fun e he => ⟨(hentries e he).starts, ih e he⟩) rest,
      ofEntries_of_perm (.refl _) hincreasing]

/-- A text is read as what the value in it is read as, if nothing is left. -/
theorem read_write_of_readValue {written value : Json}
    (h : readValue nestingLimit (writeChars written ++ []) = .ok (value, [])) :
    Json.read (write written) = .ok value := by
  rw [List.append_nil] at h
  rw [Json.read, write, String.toList_ofList, readAll, h]
  rfl

/-- A value that does not nest too deep is read again as it was written. -/
theorem read_write {value : Json} (h : Writable (nestingLimit - 1) value) :
    Json.read (write value) = .ok value :=
  read_write_of_readValue (h.read.read [] (.inl rfl))

/-- An object is read again with its entries sorted, in whatever order they were written. -/
theorem read_write_object {entries sorted : List (String × Json)} (hperm : entries.Perm sorted)
    (hsorted : Sorted.Increasing keyOrder sorted)
    (hvalues : ∀ entry ∈ sorted, Writable (nestingLimit - 2) entry.2) :
    Json.read (write (.object entries)) = .ok (.object sorted) := by
  have hentries : ∀ entry ∈ entries, ReadBy (readValue (nestingLimit - 2 + 1)) entry.2 :=
    fun entry hentry => (hvalues entry (hperm.mem_iff.mp hentry)).read
  have hread := readValue_object hentries []
  rw [ofEntries_of_perm hperm hsorted] at hread
  exact read_write_of_readValue hread

end SchemaEngine.Json
