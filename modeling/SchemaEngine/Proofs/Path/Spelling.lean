import Mathlib.Logic.Relation
import SchemaEngine.Proofs.Scope.Sameness

/-!
# How one path is spelled

Two byte strings are the same path if they have the same components. In bytes this says that they
differ in places that do not count: where a slash is repeated, where a dot stands between two
slashes or at the end behind one, and in a slash at the end. A single such place can be tidied
without a change of the components, and a path with no such place left is spelled by its components.
So the paths that are the same are those that lead to one tidy path, and no others.

## Main definitions

* `Path.Tidies`: a path with one place that does not count, and the path without it.
* `Path.behind`: parts of a path, each behind a slash.
* `Path.counts`: whether a part stands for a component.

## Main results

* `Path.Tidies.components_eq`: tidying keeps the components.
* `Path.tidies_ofComponents`: every path is tidied to the spelling of its components.
* `Path.same_iff_eqvGen`: paths are the same if they differ in places that do not count.
-/

set_option autoImplicit false

namespace SchemaEngine.Path

open Relation

/-- A path with a place that does not count, and the path without it. -/
inductive Tidies : Path → Path → Prop where
  | repeatedSlash (x y : List UInt8) : Tidies ⟨x ++ slash :: slash :: y⟩ ⟨x ++ slash :: y⟩
  | innerDot (x y : List UInt8) : Tidies ⟨x ++ slash :: dot :: slash :: y⟩ ⟨x ++ slash :: y⟩
  | trailingDot (x : List UInt8) : Tidies ⟨x ++ [slash, dot]⟩ ⟨x ++ [slash]⟩
  | trailingSlash {x : List UInt8} (h : x ≠ []) : Tidies ⟨x ++ [slash]⟩ ⟨x⟩

/-! ### Parts -/

theorem splitSlash_ne_nil (bytes : List UInt8) : splitSlash bytes ≠ [] := by
  cases bytes with
  | nil => exact List.cons_ne_nil _ _
  | cons b bytes =>
    rw [splitSlash]
    split
    · exact List.cons_ne_nil _ _
    · split <;> exact List.cons_ne_nil _ _

theorem splitSlash_slash (bytes : List UInt8) :
    splitSlash (slash :: bytes) = [] :: splitSlash bytes := by
  rw [splitSlash, if_pos rfl]

/-- A byte in front of a path belongs to the first part of it. -/
theorem splitSlash_cons {b : UInt8} {bytes part : List UInt8} {parts : List (List UInt8)}
    (hb : b ≠ slash) (h : splitSlash bytes = part :: parts) :
    splitSlash (b :: bytes) = (b :: part) :: parts := by
  rw [splitSlash, if_neg hb, h]

/-- A slash separates the parts in front of it from those behind it. -/
theorem splitSlash_append (x y : List UInt8) :
    splitSlash (x ++ slash :: y) = splitSlash x ++ splitSlash y := by
  induction x with
  | nil => exact splitSlash_slash y
  | cons b x ih =>
    by_cases hb : b = slash
    case pos => rw [hb, List.cons_append, splitSlash_slash, ih, splitSlash_slash, List.cons_append]
    case neg =>
      obtain ⟨part, parts, hx⟩ := List.exists_cons_of_ne_nil (splitSlash_ne_nil x)
      have hwhole : splitSlash (x ++ slash :: y) = part :: (parts ++ splitSlash y) := by
        rw [ih, hx, List.cons_append]
      rw [List.cons_append, splitSlash_cons hb hwhole, splitSlash_cons hb hx, List.cons_append]

/-- Parts of a path, each behind a slash. -/
def behind (parts : List (List UInt8)) : List UInt8 :=
  parts.flatMap fun part => slash :: part

/-- A path is its first part and the others behind slashes. -/
theorem bytes_eq_of_splitSlash {bytes part : List UInt8} {parts : List (List UInt8)}
    (h : splitSlash bytes = part :: parts) : bytes = part ++ behind parts := by
  induction bytes generalizing part parts with
  | nil =>
    obtain ⟨rfl, rfl⟩ := List.cons.inj h
    rfl
  | cons b bytes ih =>
    obtain ⟨first, rest, hrest⟩ := List.exists_cons_of_ne_nil (splitSlash_ne_nil bytes)
    have hbytes := ih hrest
    by_cases hb : b = slash
    case pos =>
      rw [hb, splitSlash_slash, hrest] at h
      obtain ⟨rfl, rfl⟩ := List.cons.inj h
      rw [hb, hbytes]
      rfl
    case neg =>
      rw [splitSlash_cons hb hrest] at h
      obtain ⟨rfl, rfl⟩ := List.cons.inj h
      rw [List.cons_append, ← hbytes]

theorem intercalate_eq (first : List UInt8) (parts : List (List UInt8)) :
    [slash].intercalate (first :: parts) = first ++ behind parts := by
  induction parts generalizing first with
  | nil => simp [List.intercalate, behind]
  | cons part parts ih =>
    rw [List.intercalate_cons_cons, ih]
    simp [behind]

/-! ### Tidying keeps the components -/

/-- What stands behind a slash is known by its parts only. -/
theorem components_eq_of_parts (x : List UInt8) {y z : List UInt8}
    (h : (splitSlash y).filterMap innerComponent = (splitSlash z).filterMap innerComponent) :
    components ⟨x ++ slash :: y⟩ = components ⟨x ++ slash :: z⟩ := by
  have habsolute : isAbsolute ⟨x ++ slash :: y⟩ = isAbsolute ⟨x ++ slash :: z⟩ := by
    cases x <;> rfl
  have hfirst : (splitSlash x ++ splitSlash y).head? = (splitSlash x ++ splitSlash z).head? := by
    rw [List.head?_append_of_ne_nil _ (splitSlash_ne_nil x),
      List.head?_append_of_ne_nil _ (splitSlash_ne_nil x)]
  rw [components, components, habsolute]
  simp only [splitSlash_append, hfirst, List.filterMap_append, h]

theorem components_trailingSlash {x : List UInt8} (h : x ≠ []) :
    components ⟨x ++ [slash]⟩ = components ⟨x⟩ := by
  have habsolute : isAbsolute ⟨x ++ [slash]⟩ = isAbsolute ⟨x⟩ := by
    rw [isAbsolute, isAbsolute, List.head?_append_of_ne_nil _ h]
  have hlast : (splitSlash []).filterMap innerComponent = [] := rfl
  rw [components, components, habsolute]
  simp only [splitSlash_append, List.head?_append_of_ne_nil _ (splitSlash_ne_nil x),
    List.filterMap_append, hlast, List.append_nil]

theorem Tidies.components_eq {p q : Path} (h : Tidies p q) : p.components = q.components := by
  have hnothing (parts : List (List UInt8)) :
      ([] :: parts).filterMap innerComponent = parts.filterMap innerComponent := rfl
  have hdot (parts : List (List UInt8)) :
      ([dot] :: parts).filterMap innerComponent = parts.filterMap innerComponent := rfl
  have hsplit (y : List UInt8) : splitSlash (dot :: slash :: y) = [dot] :: splitSlash y :=
    splitSlash_append [dot] y
  cases h with
  | repeatedSlash x y => exact components_eq_of_parts x (by rw [splitSlash_slash, hnothing])
  | innerDot x y => exact components_eq_of_parts x (by rw [hsplit, hdot])
  | trailingDot x => exact components_eq_of_parts x rfl
  | trailingSlash h => exact components_trailingSlash h

/-! ### The tidy spelling -/

/-- Whether a part stands for a component wherever it stands. -/
def counts (part : List UInt8) : Bool :=
  (innerComponent part).isSome

theorem innerComponent_eq_none_iff {part : List UInt8} :
    innerComponent part = none ↔ part = [] ∨ part = [dot] := by
  rw [innerComponent]
  split
  case isTrue h => simpa using h
  case isFalse h =>
    have hcounts : ¬ (part = [] ∨ part = [dot]) := by simpa using h
    refine iff_of_false ?_ hcounts
    split <;> nofun

theorem spelling_of_innerComponent {part : List UInt8} {component : Component}
    (h : innerComponent part = some component) : spelling component = part := by
  rw [innerComponent] at h
  split at h
  case isTrue => cases h
  case isFalse =>
    split at h
    case isTrue hparent => rw [hparent, ← Option.some.inj h, spelling]
    case isFalse => rw [← Option.some.inj h, spelling]

theorem filter_counts_of_some {part : List UInt8} {component : Component}
    (h : innerComponent part = some component) (parts : List (List UInt8)) :
    (part :: parts).filter counts = part :: parts.filter counts :=
  List.filter_cons_of_pos (by rw [counts, h, Option.isSome_some])

theorem filter_counts_of_none {part : List UInt8} (h : innerComponent part = none)
    (parts : List (List UInt8)) : (part :: parts).filter counts = parts.filter counts :=
  List.filter_cons_of_neg (by rw [counts, h, Option.isSome_none]; exact Bool.false_ne_true)

/-- The parts that count are what the components spell. -/
theorem map_spelling_filterMap (parts : List (List UInt8)) :
    (parts.filterMap innerComponent).map spelling = parts.filter counts := by
  induction parts with
  | nil => rfl
  | cons part parts ih =>
    cases h : innerComponent part with
    | none => rw [List.filterMap_cons_none h, ih, filter_counts_of_none h]
    | some component =>
      rw [List.filterMap_cons_some h, List.map_cons, spelling_of_innerComponent h, ih,
        filter_counts_of_some h]

/-- Behind a first part all that does not count can be tidied away. -/
theorem tidies_behind {x : List UInt8} (hx : x ≠ []) (parts : List (List UInt8)) :
    ReflTransGen Tidies ⟨x ++ behind parts⟩ ⟨x ++ behind (parts.filter counts)⟩ := by
  induction parts generalizing x with
  | nil => exact .refl
  | cons part parts ih =>
    cases h : innerComponent part with
    | some component =>
      have hbehind (others : List (List UInt8)) :
          x ++ behind (part :: others) = (x ++ slash :: part) ++ behind others := by
        simp [behind]
      rw [filter_counts_of_some h, hbehind, hbehind]
      exact ih (by simp)
    | none =>
      rw [filter_counts_of_none h]
      -- the part goes, with the slash in front of it
      refine .trans ?_ (ih hx)
      cases parts with
      | nil =>
        rcases innerComponent_eq_none_iff.mp h with rfl | rfl
        · exact .single (by simpa [behind] using Tidies.trailingSlash hx)
        · exact .tail (.single (by simpa [behind] using Tidies.trailingDot x))
            (by simpa [behind] using Tidies.trailingSlash hx)
      | cons next parts =>
        rcases innerComponent_eq_none_iff.mp h with rfl | rfl
        · exact .single (by simpa [behind] using Tidies.repeatedSlash x _)
        · exact .single (by simpa [behind] using Tidies.innerDot x _)

/-- Behind the root all that does not count can be tidied away, and the slash stays if nothing is
left. -/
theorem tidies_absolute {part : List UInt8} (parts : List (List UInt8)) :
    ReflTransGen Tidies ⟨behind (part :: parts)⟩
      ⟨if (part :: parts).filter counts = [] then [slash]
        else behind ((part :: parts).filter counts)⟩ := by
  induction parts generalizing part with
  | nil =>
    cases h : innerComponent part with
    | some component =>
      rw [filter_counts_of_some h, if_neg (List.cons_ne_nil _ _)]
      exact .refl
    | none =>
      rw [filter_counts_of_none h, if_pos List.filter_nil]
      rcases innerComponent_eq_none_iff.mp h with rfl | rfl
      · exact .refl
      · exact .single (Tidies.trailingDot [])
  | cons next parts ih =>
    cases h : innerComponent part with
    | some component =>
      rw [filter_counts_of_some h, if_neg (List.cons_ne_nil _ _)]
      exact tidies_behind (List.cons_ne_nil slash part) (next :: parts)
    | none =>
      rw [filter_counts_of_none h]
      refine .head ?_ ih
      rcases innerComponent_eq_none_iff.mp h with rfl | rfl
      · exact Tidies.repeatedSlash [] _
      · exact Tidies.innerDot [] _

/-! ### What the components spell -/

theorem ofComponents_root (components : List Component) :
    ofComponents (.root :: components) =
      ⟨if components.map spelling = [] then [slash] else behind (components.map spelling)⟩ := by
  cases components with
  | nil => rfl
  | cons component components =>
    rw [List.map_cons, if_neg (List.cons_ne_nil _ _), ofComponents, List.map_cons, intercalate_eq]
    · rfl
    · exact fun h => List.cons_ne_nil _ _ (List.cons.inj h).2

theorem ofComponents_cons {component : Component} (h : component ≠ .root)
    (components : List Component) :
    ofComponents (component :: components) =
      ⟨spelling component ++ behind (components.map spelling)⟩ := by
  rw [ofComponents, List.map_cons, intercalate_eq]
  exact fun hroot => h (List.cons.inj hroot).1

theorem components_slash (bytes : List UInt8) :
    components ⟨slash :: bytes⟩ = .root :: (splitSlash bytes).filterMap innerComponent := by
  have habsolute : isAbsolute ⟨slash :: bytes⟩ = true := rfl
  have hnothing : innerComponent [] = none := rfl
  rw [components, if_pos habsolute, splitSlash_slash, List.filterMap_cons_none hnothing]

/-- The first component of a path that does not begin with a slash is spelled by its first part,
which may be a dot. -/
theorem exists_components_cons {b : UInt8} {bytes part : List UInt8} {parts : List (List UInt8)}
    (hb : b ≠ slash) (h : splitSlash bytes = part :: parts) :
    ∃ component, component ≠ .root ∧ spelling component = b :: part ∧
      components ⟨b :: bytes⟩ = component :: parts.filterMap innerComponent := by
  have habsolute : ¬ isAbsolute ⟨b :: bytes⟩ = true := by simpa [isAbsolute] using hb
  have hparts := splitSlash_cons hb h
  rw [components, if_neg habsolute, hparts, List.head?_cons]
  cases hfirst : innerComponent (b :: part) with
  | none =>
    have hdot : b :: part = [dot] :=
      (innerComponent_eq_none_iff.mp hfirst).resolve_left (List.cons_ne_nil _ _)
    rw [if_pos (congrArg some hdot), List.filterMap_cons_none hfirst]
    exact ⟨.current, nofun, hdot.symm, rfl⟩
  | some component =>
    have hspelling := spelling_of_innerComponent hfirst
    have hdot : ¬ some (b :: part) = some [dot] := fun hdot => by
      rw [Option.some.inj hdot] at hfirst
      cases hfirst
    rw [if_neg hdot, List.filterMap_cons_some hfirst]
    refine ⟨component, fun hroot => ?_, hspelling, rfl⟩
    rw [hroot] at hspelling
    cases hspelling

/-- Every path can be tidied to the spelling of its components. -/
theorem tidies_ofComponents (p : Path) : ReflTransGen Tidies p (ofComponents p.components) := by
  obtain ⟨bytes⟩ := p
  cases bytes with
  | nil => exact .refl
  | cons b bytes =>
    obtain ⟨part, parts, hsplit⟩ := List.exists_cons_of_ne_nil (splitSlash_ne_nil bytes)
    have hbytes := bytes_eq_of_splitSlash hsplit
    by_cases hb : b = slash
    case pos =>
      have hbehind : slash :: bytes = behind (part :: parts) := by rw [hbytes]; rfl
      rw [hb, components_slash, ofComponents_root, map_spelling_filterMap, hsplit, hbehind]
      exact tidies_absolute parts
    case neg =>
      obtain ⟨component, hroot, hspelling, hcomponents⟩ := exists_components_cons hb hsplit
      have hbehind : b :: bytes = (b :: part) ++ behind parts := by rw [hbytes]; rfl
      rw [hcomponents, ofComponents_cons hroot, hspelling, map_spelling_filterMap, hbehind]
      exact tidies_behind (List.cons_ne_nil b part) parts

/-- Paths are the same if they differ in places that do not count, and in nothing else. -/
theorem same_iff_eqvGen {p q : Path} : p.same q = true ↔ EqvGen Tidies p q := by
  have htidy (p : Path) : EqvGen Tidies p (ofComponents p.components) :=
    EqvGen.reflTransGen_le_eqvGen (r := Tidies) _ _ (tidies_ofComponents p)
  constructor
  · intro h
    rw [same_iff] at h
    exact .trans _ _ _ (htidy p) (h ▸ .symm _ _ (htidy q))
  · intro h
    induction h with
    | rel p q h => exact same_iff.mpr h.components_eq
    | refl p => exact same_refl p
    | symm _ _ _ ih => exact same_symm ih
    | trans _ _ _ _ _ ih ih' => exact same_trans ih ih'

/-! ### What is known of a path -/

variable {p q base base' : Path}

theorem startsWith_congr (h : p.same q = true) (hbase : base.same base' = true) :
    p.startsWith base = q.startsWith base' := by
  rw [startsWith, startsWith, same_iff.mp h, same_iff.mp hbase]

theorem fileName_congr (h : p.same q = true) : p.fileName = q.fileName := by
  rw [fileName, fileName, same_iff.mp h]

theorem extension_congr (h : p.same q = true) : p.extension = q.extension := by
  rw [extension, extension, fileName_congr h]

end SchemaEngine.Path
