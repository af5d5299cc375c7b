import Mathlib.Algebra.BigOperators.Group.List.Basic
import Mathlib.Algebra.GroupWithZero.Nat
import SchemaEngine.Proofs.Memo.Moments

/-!
# What the sum of stamps tells

The stamp of a combination is a sum that wraps. Taken apart down to the single sources, it is the
sum of their stamps modulo 2⁶⁴, however they are nested and in whatever order they stand, and a
source that occurs several times counts as often. Sums are compared for equality only. As long as no
stamp decreases and all of them together advance by less than 2⁶⁴, no advance is lost in the
wrapping, so the sum stands still exactly if every single source does.

## Main definitions

* `Source.leaves`: the single sources that a source is made of.
* `Source.advance`: how far these advance together.
* `NeverDecrease`: a run in which no stamp decreases.

## Main results

* `Source.stamp_eq_ofNat_total`: the stamp of a source is the wrapped sum of the stamps of its
  leaves.
* `Source.stamp_eq_iff`: less than 2⁶⁴ apart, stamps are the same exactly if no leaf has moved.
* `combined_moves_with_leaves`: both, and what follows for snapshots, for every source.
-/

set_option autoImplicit false

namespace SchemaEngine

namespace Source

variable {D : Type}

mutual

/-- The single sources that a source is made of, each as often as it occurs. -/
def leaves : Source D → List D
  | .single leaf => [leaf]
  | .combined parts => leavesOf parts

/-- The single sources that several sources are made of. -/
def leavesOf : List (Source D) → List D
  | [] => []
  | source :: sources => leaves source ++ leavesOf sources

end

/-- The sum of the stamps of single sources, which does not wrap. -/
def total (read : D → Stamp) (leaves : List D) : Nat :=
  (leaves.map fun d => (read d).toNat).sum

/-- How far single sources advance together from one reading to a later one. -/
def advance (earlier later : D → Stamp) (leaves : List D) : Nat :=
  (leaves.map fun d => (later d).toNat - (earlier d).toNat).sum

variable {read earlier later : D → Stamp}

theorem total_append (read : D → Stamp) (leaves leaves' : List D) :
    total read (leaves ++ leaves') = total read leaves + total read leaves' := by
  rw [total, List.map_append, List.sum_append, ← total, ← total]

theorem total_perm {leaves leaves' : List D} (h : leaves.Perm leaves') :
    total read leaves = total read leaves' :=
  (h.map _).sum_eq

mutual

/-- The stamp of a source is the wrapped sum of the stamps of its leaves. -/
theorem stamp_eq_ofNat_total (read : D → Stamp) :
    ∀ source : Source D, source.stamp read = UInt64.ofNat (total read source.leaves)
  | .single leaf => by simp [stamp, leaves, total]
  | .combined parts => by rw [stamp, leaves, stampSum_eq_ofNat_total read parts]

theorem stampSum_eq_ofNat_total (read : D → Stamp) :
    ∀ sources : List (Source D),
      stampSum read sources = UInt64.ofNat (total read (leavesOf sources))
  | [] => rfl
  | source :: sources => by
    rw [stampSum, leavesOf, total_append, UInt64.ofNat_add, stamp_eq_ofNat_total read source,
      stampSum_eq_ofNat_total read sources]

end

theorem toNat_stamp (read : D → Stamp) (source : Source D) :
    (source.stamp read).toNat = total read source.leaves % 2 ^ 64 := by
  rw [stamp_eq_ofNat_total, UInt64.toNat_ofNat']

/-- The sum advances by as much as the single sources do, if none of them goes back. -/
theorem total_eq_add_advance {leaves : List D} (h : ∀ d ∈ leaves, earlier d ≤ later d) :
    total later leaves = total earlier leaves + advance earlier later leaves := by
  rw [total, total, advance, ← List.sum_map_add]
  refine congrArg List.sum (List.map_congr_left fun d hd => ?_)
  have hle := UInt64.le_iff_toNat_le.mp (h d hd)
  omega

/-- Nothing advances exactly if every stamp stays, if none of them goes back. -/
theorem advance_eq_zero_iff {leaves : List D} (h : ∀ d ∈ leaves, earlier d ≤ later d) :
    advance earlier later leaves = 0 ↔ ∀ d ∈ leaves, later d = earlier d := by
  simp only [advance, List.sum_eq_zero_iff_forall_eq_nat, List.forall_mem_map]
  refine forall₂_congr fun d hd => ?_
  have hle := UInt64.le_iff_toNat_le.mp (h d hd)
  rw [← UInt64.toNat_inj]
  omega

/-- Less than 2⁶⁴ apart, the stamps of a source are the same exactly if no leaf has moved. -/
theorem stamp_eq_iff {source : Source D} (h : ∀ d ∈ source.leaves, earlier d ≤ later d)
    (hbound : advance earlier later source.leaves < 2 ^ 64) :
    source.stamp later = source.stamp earlier ↔ ∀ d ∈ source.leaves, later d = earlier d := by
  have htotal := total_eq_add_advance h
  rw [← advance_eq_zero_iff h, ← UInt64.toNat_inj, toNat_stamp, toNat_stamp]
  omega

end Source

/-- A snapshot of one source is current where the source has its stamp of then. -/
theorem Snapshot.isCurrent_capture_singleton {D : Type} {source : Source D}
    {earlier later : D → Stamp} :
    (capture earlier [source]).isCurrent later = true ↔
      source.stamp later = source.stamp earlier := by
  simp [isCurrent, capture]

/-- In no moment of a run is one of the stamps less than before. -/
def NeverDecrease {M D : Type} (read : M → D → Stamp) (leaves : List D) (moments : List M) : Prop :=
  moments.Pairwise fun later earlier => ∀ d ∈ leaves, read earlier d ≤ read later d

open Source in
/-- The stamp of a source, of combinations in combinations for example, is the sum of the stamps of
its leaves modulo 2⁶⁴, and is the same for every source with the same leaves. Between two moments of
a run in which no leaf decreases, and between which all leaves together advance by less than 2⁶⁴, it
is the same exactly if every leaf is where it was, also where the sum wraps. A snapshot of the
source is current exactly if a snapshot of its leaves, taken at the same moment, is. -/
theorem combined_moves_with_leaves {D : Type} (source : Source D) :
    (∀ read : D → Stamp,
      (source.stamp read).toNat = (source.leaves.map fun d => (read d).toNat).sum % 2 ^ 64) ∧
    (∀ other : Source D, other.leaves.Perm source.leaves →
      ∀ read : D → Stamp, other.stamp read = source.stamp read) ∧
    ∀ (M : Type) (read : M → D → Stamp) (moments : List M),
      NeverDecrease read source.leaves moments →
      ∀ later earlier, [later, earlier].Sublist moments →
        advance (read earlier) (read later) source.leaves < 2 ^ 64 →
        (source.stamp (read later) = source.stamp (read earlier) ↔
            ∀ d ∈ source.leaves, read later d = read earlier d) ∧
          ((Snapshot.capture (read earlier) [source]).isCurrent (read later) = true ↔
            (Snapshot.capture (read earlier) (source.leaves.map .single)).isCurrent (read later) =
              true) := by
  refine ⟨fun read => toNat_stamp read source, fun other hperm read => ?_, ?_⟩
  · rw [stamp_eq_ofNat_total, stamp_eq_ofNat_total, total_perm hperm]
  · intro M read moments hdecrease later earlier hsub hbound
    have hle : ∀ d ∈ source.leaves, read earlier d ≤ read later d := by
      have hpair := hdecrease.sublist hsub
      simpa using hpair
    have hstamp := stamp_eq_iff hle hbound
    refine ⟨hstamp, ?_⟩
    rw [Snapshot.isCurrent_capture_singleton, Snapshot.isCurrent_capture, hstamp, Agree]

section Example

/-- A clock, and beside it a combination of the same clock and a second one. -/
def clockTwice : Source String :=
  .combined [.single "clock", .combined [.single "clock", .single "calendar"]]

/-- The second clock stands just below the end of the stamps; the first one moves by one. -/
def clocks (tick : Bool) : String → Stamp
  | "calendar" => 18446744073709551615
  | _ => if tick then 1 else 0

/-- The sum wraps between the two moments, and the snapshot is stale all the same. -/
theorem combined_moves_with_leaves_wrapping :
    (clockTwice.stamp (clocks false)).toNat = 2 ^ 64 - 1 ∧
      (clockTwice.stamp (clocks true)).toNat = 1 ∧
      Source.advance (clocks false) (clocks true) clockTwice.leaves = 2 ∧
      (Snapshot.capture (clocks false) [clockTwice]).isCurrent (clocks true) = false := by
  obtain ⟨hsum, -, hrun⟩ := combined_moves_with_leaves clockTwice
  have hnever : NeverDecrease clocks clockTwice.leaves [true, false] := by
    unfold NeverDecrease
    decide
  have hleaf : ¬ ∀ d ∈ clockTwice.leaves, clocks true d = clocks false d := by decide
  obtain ⟨hstamp, -⟩ := hrun Bool clocks [true, false] hnever true false (.refl _) (by decide)
  refine ⟨(hsum _).trans (by decide), (hsum _).trans (by decide), by decide, ?_⟩
  rw [Bool.eq_false_iff, ne_eq, Snapshot.isCurrent_capture_singleton, hstamp]
  exact hleaf

end Example

end SchemaEngine
