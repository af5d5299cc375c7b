/-!
# Entries by key

A finite map is kept as a list of entries, of which the first one with a key counts. Replacing,
adding and dropping entries do to the value at each key what they should.

## Main definitions

* `Keyed.at?`: the value at a key.

## Main results

* `Keyed.at?_eq_some_iff`: the value at a key that occurs once.
* `Keyed.at?_replace`, `Keyed.at?_append`, `Keyed.at?_filter`: the value at a key after a change.
-/

set_option autoImplicit false

namespace SchemaEngine.Keyed

variable {κ α : Type} [BEq κ]

/-- The value at a key. -/
def at? (key : κ) (entries : List (κ × α)) : Option α :=
  (entries.find? fun entry => entry.1 == key).map (·.2)

theorem any_eq_isSome (key : κ) (entries : List (κ × α)) :
    (entries.any fun entry => entry.1 == key) = (at? key entries).isSome := by
  rw [at?, Option.isSome_map, List.isSome_find?]

variable [LawfulBEq κ]

theorem at?_eq_none_iff {key : κ} {entries : List (κ × α)} :
    at? key entries = none ↔ key ∉ entries.map (·.1) := by
  simp only [at?, Option.map_eq_none_iff, List.find?_eq_none, beq_iff_eq, List.mem_map, not_exists,
    not_and]

variable [DecidableEq κ]

theorem at?_cons (key other : κ) (value : α) (entries : List (κ × α)) :
    at? other ((key, value) :: entries) =
      if other = key then some value else at? other entries := by
  rw [at?, List.find?_cons]
  by_cases h : other = key
  · simp [h]
  · rw [if_neg h, beq_false_of_ne (Ne.symm h), at?]

/-- Where no key occurs twice, every entry is the one that counts for its key. -/
theorem at?_eq_some_iff {entries : List (κ × α)} (h : (entries.map (·.1)).Nodup) {key : κ}
    {value : α} : at? key entries = some value ↔ (key, value) ∈ entries := by
  induction entries with
  | nil => simp [at?]
  | cons entry entries ih =>
    obtain ⟨first, held⟩ := entry
    obtain ⟨hfirst, hrest⟩ := List.nodup_cons.mp h
    rw [at?_cons, List.mem_cons, ← ih hrest]
    split
    case isTrue heq =>
      subst heq
      have hother : at? key entries ≠ some value := fun hvalue =>
        hfirst (List.mem_map_of_mem (f := (·.1)) ((ih hrest).mp hvalue))
      simp [hother, eq_comm]
    case isFalse hne => simp [hne]

theorem at?_append (other : κ) (entries further : List (κ × α)) :
    at? other (entries ++ further) = (at? other entries).or (at? other further) := by
  induction entries with
  | nil => rfl
  | cons entry entries ih =>
    rw [List.cons_append, at?_cons, at?_cons, ih]
    split <;> rfl

theorem at?_replace (key other : κ) (value : α) (entries : List (κ × α)) :
    at? other (entries.map fun entry => if entry.1 == key then (key, value) else entry) =
      if other = key then (at? other entries).map fun _ => value else at? other entries := by
  induction entries with
  | nil => simp [at?]
  | cons entry entries ih =>
    obtain ⟨first, kept⟩ := entry
    by_cases hfirst : first = key
    · subst hfirst
      simp only [List.map_cons, beq_self_eq_true, if_true, at?_cons, ih]
      split <;> rfl
    · simp only [List.map_cons, beq_iff_eq, hfirst, if_false, at?_cons] at ih ⊢
      by_cases hother : other = first
      · simp [hother, hfirst]
      · simp [hother, ih]

theorem at?_filter (key other : κ) (entries : List (κ × α)) :
    at? other (entries.filter fun entry => entry.1 != key) =
      if other = key then none else at? other entries := by
  induction entries with
  | nil => simp [at?]
  | cons entry entries ih =>
    obtain ⟨first, kept⟩ := entry
    by_cases hfirst : first = key
    · subst hfirst
      simp only [List.filter_cons, bne_self_eq_false, Bool.false_eq_true, if_false, ih, at?_cons]
      split <;> rfl
    · rw [List.filter_cons, if_pos (bne_iff_ne.mpr hfirst), at?_cons, at?_cons, ih]
      by_cases hother : other = first
      · simp [hother, hfirst]
      · simp [hother]

end SchemaEngine.Keyed
