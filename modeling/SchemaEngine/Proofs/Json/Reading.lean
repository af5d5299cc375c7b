import Mathlib.Algebra.Group.Int.Defs
import Mathlib.Algebra.Group.Nat.Defs
import SchemaEngine.Json.Reader
import SchemaEngine.Proofs.Order.Keyed
import SchemaEngine.Proofs.Order.Sorted

/-!
# What reading JSON gives

Whatever a text is read as, its integers fit into 64 bits, and the keys of its objects increase, so
that no key occurs twice.

## Main definitions

* `Json.WellFormed`: the values that texts are read as.

## Main results

* `Json.wellFormed_of_read`: what a text is read as is well-formed.
* `Json.nodup_keys`: no key of such an object occurs twice.
-/

set_option autoImplicit false

namespace SchemaEngine

open Std

namespace Json

/-! ### Values -/

/-- The order of entries by key. -/
def keyOrder (a b : String × Json) : Ordering :=
  compare a.1 b.1

instance : TransCmp keyOrder :=
  transCmp_comap compare Prod.fst

/-- Whether a number is one that a text can hold: an integer of 64 bits, or a floating-point number
of any size. -/
def Number.Fits : Number → Prop
  | .integer n => -2 ^ 63 ≤ n ∧ n < 2 ^ 64
  | .real _ => True

/-- The values that texts are read as: integers fit into 64 bits, and keys increase. -/
inductive WellFormed : Json → Prop where
  | null : WellFormed .null
  | bool (value : Bool) : WellFormed (.bool value)
  | number (value : Number) : value.Fits → WellFormed (.number value)
  | string (text : String) : WellFormed (.string text)
  | array (items : List Json) : (∀ item ∈ items, item.WellFormed) → WellFormed (.array items)
  | object (entries : List (String × Json)) : Sorted.Increasing keyOrder entries →
      (∀ entry ∈ entries, entry.2.WellFormed) → WellFormed (.object entries)

theorem entry?_object (key : String) (entries : List (String × Json)) :
    entry? key (.object entries) = Keyed.at? key entries :=
  rfl

/-- Keys that increase do not occur twice. -/
theorem nodup_keys {entries : List (String × Json)} (h : Sorted.Increasing keyOrder entries) :
    (entries.map (·.1)).Nodup := by
  refine List.pairwise_map.mpr (h.imp fun {a b} hlt heq => ?_)
  rw [keyOrder, heq, compare_self] at hlt
  cases hlt

theorem WellFormed.of_entry? {document value : Json} (h : document.WellFormed) {key : String}
    (hvalue : value ∈ document.entry? key) : value.WellFormed := by
  cases h with
  | object entries hincreasing hvalues =>
    exact hvalues _ ((Keyed.at?_eq_some_iff (nodup_keys hincreasing)).mp hvalue)
  | _ => cases hvalue

/-- An object that is made of well-formed values is well-formed. -/
theorem wellFormed_ofEntries {entries : List (String × Json)}
    (h : ∀ entry ∈ entries, entry.2.WellFormed) : (ofEntries entries).WellFormed := by
  suffices hfold : ∀ set : List (String × Json), Sorted.Increasing keyOrder set →
      (∀ entry ∈ set, entry.2.WellFormed) →
        WellFormed (.object (entries.foldl (fun es e => setEntry e.1 e.2 es) set)) from
    hfold [] .nil (fun _ hentry => by cases hentry)
  induction entries with
  | nil => exact fun set hset hvalues => .object set hset hvalues
  | cons entry entries ih =>
    intro set hset hvalues
    obtain ⟨hentry, hentries⟩ := List.forall_mem_cons.mp h
    refine ih hentries _ (Sorted.increasing_replace hset) fun other hother => ?_
    rcases Sorted.eq_or_mem_of_mem_replace hother with rfl | hold
    · exact hentry
    · exact hvalues other hold

/-! ### What a reader gives -/

/-- What is read has a property, if anything is. -/
inductive Outcome.Gives {α : Type} (P : α → Prop) : Outcome α → Prop where
  | error (fault : Fault) : Gives P (.error fault)
  | ok {value : α} (rest : List Char) : P value → Gives P (.ok (value, rest))

theorem Outcome.Gives.value {α : Type} {P : α → Prop} {outcome : Outcome α} {value : α}
    {rest : List Char} (h : outcome.Gives P) (hread : outcome = .ok (value, rest)) : P value := by
  subst hread
  cases h with
  | ok _ hvalue => exact hvalue

/-! ### Numbers -/

theorem digitValue_le {c : Char} (h : c.isDigit = true) : digitValue c ≤ 9 := by
  simp only [Char.isDigit, Bool.and_eq_true, decide_eq_true_eq] at h
  exact Nat.sub_le_sub_right (UInt32.le_iff_toNat_le.mp h.2) '0'.toNat

/-- A significand that digits are added to stays an integer of 64 bits. -/
theorem addDigits_le {significand : Nat} (h : significand ≤ greatestInteger) (text : List Char) :
    (addDigits significand text).1 ≤ greatestInteger := by
  induction text generalizing significand with
  | nil => exact h
  | cons c text ih =>
    rw [addDigits]
    split
    · rename_i hc
      exact ih (of_decide_eq_true (Bool.and_eq_true_iff.mp hc).2)
    · exact h

theorem integerOf_fits (negative : Bool) {significand : Nat} (h : significand ≤ greatestInteger) :
    (integerOf negative significand).Fits := by
  have hbound : significand < 2 ^ 64 := by
    have hsucc : greatestInteger + 1 = 2 ^ 64 := by decide
    omega
  unfold integerOf
  split
  · split
    · trivial
    · rename_i hsmall
      simp only [Bool.or_eq_true, decide_eq_true_eq, not_or, Nat.pow_eq] at hsmall
      simp only [Number.Fits]
      omega
  · simp only [Number.Fits]
    omega

theorem realOf_gives (negative : Bool) (significand : Nat) (power : Int) (rest : List Char) :
    (realOf negative significand power rest).Gives Number.Fits := by
  unfold realOf
  split
  · exact .ok _ trivial
  · exact .error _

theorem readExponent_gives (negative : Bool) (significand : Nat) (power : Int)
    (text : List Char) : (readExponent negative significand power text).Gives Number.Fits := by
  unfold readExponent
  dsimp only
  split
  · exact .error _
  · split
    · split
      · exact realOf_gives ..
      · split
        · exact .error _
        · exact .ok _ trivial
    · exact .error _

theorem readTail_gives (negative : Bool) (significand : Nat) (power : Int) (text : List Char) :
    (readTail negative significand power text).Gives Number.Fits := by
  unfold readTail
  split
  · exact readExponent_gives ..
  · exact realOf_gives ..

theorem readFraction_gives (negative : Bool) (significand : Nat) (power : Int)
    (text : List Char) : (readFraction negative significand power text).Gives Number.Fits := by
  unfold readFraction
  dsimp only
  split
  · split
    · split <;> exact .error _
    · exact readTail_gives ..
  · exact readTail_gives ..

theorem readRest_gives (negative : Bool) {significand : Nat} (h : significand ≤ greatestInteger)
    (text : List Char) : (readRest negative significand text).Gives Number.Fits := by
  unfold readRest
  split
  · exact readFraction_gives ..
  · split
    · exact readExponent_gives ..
    · exact .ok _ (integerOf_fits negative h)

theorem readLong_gives (negative : Bool) (significand : Nat) (text : List Char) :
    (readLong negative significand text).Gives Number.Fits := by
  unfold readLong
  dsimp only
  split
  · exact readFraction_gives ..
  · exact readTail_gives ..

theorem readNumber_gives (negative : Bool) (text : List Char) :
    (readNumber negative text).Gives Number.Fits := by
  unfold readNumber
  split
  · exact .error _
  · rename_i c rest
    split
    · split
      · exact readRest_gives negative (Nat.zero_le _) _
      · exact .error _
    · split
      · rename_i hdigit
        dsimp only
        have hfirst : digitValue c ≤ greatestInteger :=
          Nat.le_trans (digitValue_le hdigit) (by decide)
        split
        · exact readRest_gives negative (addDigits_le hfirst _) _
        · exact readLong_gives ..
      · exact .error _

/-! ### Arrays, objects and values -/

section Items

variable {item : List Char → Outcome Json}

theorem readItems_gives (hitem : ∀ text, (item text).Gives WellFormed) (bound : Nat)
    (text : List Char) :
    (readItems item bound text).Gives fun values => ∀ value ∈ values, value.WellFormed := by
  induction bound generalizing text with
  | zero => exact .error _
  | succ bound ih =>
    rw [readItems]
    split
    · exact .error _
    · rename_i value rest hread
      have hvalue := (hitem text).value hread
      split
      · exact .error _
      · exact .ok _ (by simpa using hvalue)
      · split
        · exact .error _
        · exact .error _
        · split
          · exact .error _
          · rename_i hmore
            exact .ok _ (List.forall_mem_cons.mpr ⟨hvalue, (ih _).value hmore⟩)
      · exact .error _

theorem readEntry_gives (hitem : ∀ text, (item text).Gives WellFormed) (text : List Char) :
    (readEntry item text).Gives fun entry => entry.2.WellFormed := by
  unfold readEntry
  split
  · exact .error _
  · split
    · exact .error _
    · split
      · exact .error _
      · rename_i hread
        exact .ok _ ((hitem _).value hread)
    · exact .error _

theorem readEntries_gives (hitem : ∀ text, (item text).Gives WellFormed) (bound : Nat)
    (text : List Char) :
    (readEntries item bound text).Gives fun entries => ∀ entry ∈ entries, entry.2.WellFormed := by
  induction bound generalizing text with
  | zero => exact .error _
  | succ bound ih =>
    rw [readEntries]
    split
    · exact .error _
    · rename_i entry rest hread
      have hentry := (readEntry_gives hitem text).value hread
      split
      · exact .error _
      · exact .ok _ (by simpa using hentry)
      · split
        · exact .error _
        · split
          · exact .error _
          · rename_i hmore
            exact .ok _ (List.forall_mem_cons.mpr ⟨hentry, (ih _).value hmore⟩)
        · exact .error _
        · exact .error _
      · exact .error _

theorem readArray_gives (hitem : ∀ text, (item text).Gives WellFormed) (text : List Char) :
    (readArray item text).Gives WellFormed := by
  unfold readArray
  split
  · exact .error _
  · exact .ok _ (.array [] fun _ h => by cases h)
  · split
    · exact .error _
    · rename_i hread
      exact .ok _ (.array _ ((readItems_gives hitem _ _).value hread))

theorem readObject_gives (hitem : ∀ text, (item text).Gives WellFormed) (text : List Char) :
    (readObject item text).Gives WellFormed := by
  unfold readObject
  split
  · exact .error _
  · exact .ok _ (.object [] .nil fun _ h => by cases h)
  · split
    · exact .error _
    · rename_i hread
      exact .ok _ (wellFormed_ofEntries ((readEntries_gives hitem _ _).value hread))
  · exact .error _

end Items

theorem readWord_gives {P : Json → Prop} {value : Json} (h : P value) (word text : List Char) :
    (readWord value word text).Gives P := by
  induction word generalizing text with
  | nil => exact .ok _ h
  | cons w ws ih =>
    cases text with
    | nil => exact .error _
    | cons c text =>
      rw [readWord]
      split
      · exact ih text
      · exact .error _

theorem readNumberValue_gives (negative : Bool) (text : List Char) :
    (readNumberValue negative text).Gives WellFormed := by
  unfold readNumberValue
  split
  · exact .error _
  · rename_i hread
    exact .ok _ (.number _ ((readNumber_gives _ _).value hread))

/-- Whatever is read at any depth is well-formed. -/
theorem readValue_gives (depth : Nat) (text : List Char) :
    (readValue depth text).Gives WellFormed := by
  induction depth using Nat.strongRecOn generalizing text with
  | ind depth ih =>
    unfold readValue
    split
    · exact .error _
    · exact readWord_gives .null _ _
    · exact readWord_gives (.bool true) _ _
    · exact readWord_gives (.bool false) _ _
    · split
      · exact .error _
      · exact .ok _ (.string _)
    · split
      · exact .error _
      · exact .error _
      · exact readArray_gives (ih _ (Nat.lt_succ_self _)) _
    · split
      · exact .error _
      · exact .error _
      · exact readObject_gives (ih _ (Nat.lt_succ_self _)) _
    · exact readNumberValue_gives _ _
    · split
      · exact readNumberValue_gives _ _
      · exact .error _

/-- What a text is read as is well-formed. -/
theorem wellFormed_of_read {text : String} {value : Json} (h : read text = .ok value) :
    value.WellFormed := by
  unfold read readAll at h
  split at h
  · cases h
  · rename_i hread
    split at h <;> cases h
    exact (readValue_gives _ _).value hread

end Json

end SchemaEngine
