import SchemaEngine.Proofs.Order.Sorted
import SchemaEngine.Schema.Assembly

/-!
# Registries by their changes

A registry comes about by changes: a definition is added, or the schema definition is set. Of the
definitions of one name the last one counts, and so does the last schema definition, whatever was
changed in between. What a registry holds beyond that is nothing but the order of the names, so two
registries that define the same names alike are alike.

## Main definitions

* `Registry.Change`, `Registry.made`: a change, and the registry after several.
* `Registry.lastAdded?`, `Registry.lastDefined?`: what counts of the changes.
* `Registry.Ordered`: the definitions increase by name.

## Main results

* `TypeDefinition.find?_replace`, `TypeDefinition.find?_insert`: the definition of a name after
  another one was added.
* `TypeDefinition.forall₂_of_find?`: sorted definitions are alike if the names are defined alike.
* `Registry.get?_made`, `Registry.schemaDefinition_made`: the last change counts.
* `Registry.exists_made_iff`: the registries that come about are those whose names increase.
-/

set_option autoImplicit false

namespace SchemaEngine

open Std

/-! ### Options that are alike -/

section Options

variable {α : Type} {R : α → α → Prop} {x y z w : Option α}

theorem isSome_eq_of_rel (h : Option.Rel R x y) : x.isSome = y.isSome := by
  cases h <;> rfl

theorem rel_or (hxy : Option.Rel R x y) (hzw : Option.Rel R z w) :
    Option.Rel R (x.or z) (y.or w) := by
  cases hxy with
  | some h => exact .some h
  | none => exact hzw

theorem rel_self (h : ∀ a, R a a) (x : Option α) : Option.Rel R x x := by
  cases x with
  | none => exact .none
  | some a => exact .some (h a)

end Options

/-! ### Definitions by name -/

namespace TypeDefinition

variable {s t : TypeDefinition} {types types' : List TypeDefinition} {name : String}

instance : TransCmp order :=
  transCmp_comap (compare : String → String → Ordering) TypeDefinition.name

theorem order_eq_iff : s.order t = .eq ↔ s.name = t.name :=
  LawfulEqOrd.compare_eq_iff_eq

theorem find?_cons (t : TypeDefinition) (types : List TypeDefinition) (name : String) :
    find? (t :: types) name = if t.name = name then some t else find? types name := by
  rw [find?, List.find?_cons]
  by_cases h : t.name = name
  · simp [h]
  · rw [beq_false_of_ne h, if_neg h, find?]

theorem mem_of_find? (h : find? types name = some t) : t ∈ types ∧ t.name = name :=
  ⟨List.mem_of_find?_eq_some h, by simpa using List.find?_some h⟩

/-- Whether there is a definition of a name. -/
theorem contains_eq_isSome (t : TypeDefinition) (types : List TypeDefinition) :
    Sorted.contains order t types = (find? types t.name).isSome := by
  rw [Bool.eq_iff_iff, Sorted.contains_iff, find?, List.find?_isSome]
  refine exists_congr fun other => and_congr_right fun _ => ?_
  rw [order_eq_iff, beq_iff_eq, eq_comm]

/-- A definition that is added counts, and the others count as before. -/
theorem find?_replace (t : TypeDefinition) (types : List TypeDefinition) (name : String) :
    find? (Sorted.replace order t types) name =
      if t.name = name then some t else find? types name := by
  induction types with
  | nil => exact find?_cons t [] name
  | cons first types ih =>
    rw [Sorted.replace]
    split
    case h_1 => exact find?_cons t _ name
    case h_2 hsame =>
      rw [find?_cons, find?_cons, order_eq_iff.mp hsame]
      split <;> rfl
    case h_3 hlater =>
      rw [find?_cons, find?_cons, ih]
      by_cases hfirst : first.name = name
      · have hother : t.name ≠ name := fun hname => by
          rw [order_eq_iff.mpr (hname.trans hfirst.symm)] at hlater
          cases hlater
        simp [hfirst, hother]
      · simp [hfirst]

/-- In a sorted list the first definition has a name of its own. -/
theorem find?_tail_eq_none (h : Sorted.Increasing order (t :: types)) :
    find? types t.name = none := by
  rw [find?, List.find?_eq_none]
  intro other hother hname
  have hlater := (List.pairwise_cons.mp h).1 other hother
  rw [order_eq_iff.mpr (beq_iff_eq.mp hname).symm] at hlater
  cases hlater

/-- A definition that is added only if there is none of its name. -/
theorem find?_insert (h : Sorted.Increasing order types) (t : TypeDefinition) (name : String) :
    find? (Sorted.insert order t types) name =
      (find? types name).or (if t.name = name then some t else none) := by
  induction types with
  | nil => exact find?_cons t [] name
  | cons first types ih =>
    rw [Sorted.insert]
    split
    case h_1 hbefore =>
      rw [find?_cons]
      split
      case isTrue hname =>
        have hall : Sorted.Increasing order (t :: first :: types) := by
          have hinsert : Sorted.Increasing order (Sorted.insert order t (first :: types)) :=
            Sorted.increasing_insert h
          rwa [Sorted.insert, hbefore] at hinsert
        subst hname
        rw [find?_tail_eq_none hall, Option.none_or]
      case isFalse => rw [Option.or_none]
    case h_2 hsame =>
      rw [find?_cons, order_eq_iff.mp hsame]
      split <;> simp
    case h_3 =>
      rw [find?_cons, find?_cons, ih (List.pairwise_cons.mp h).2]
      split <;> simp

/-- In a sorted list every definition is that of its name. -/
theorem find?_eq_some_iff (h : Sorted.Increasing order types) :
    find? types name = some t ↔ t ∈ types ∧ t.name = name := by
  refine ⟨mem_of_find?, ?_⟩
  rintro ⟨hmem, hname⟩
  induction types with
  | nil => cases hmem
  | cons first types ih =>
    rw [find?_cons]
    cases hmem with
    | head => rw [if_pos hname]
    | tail _ hmem =>
      have htail := ih (List.pairwise_cons.mp h).2 hmem
      have hother : first.name ≠ name := fun hfirst => by
        rw [← hfirst, find?_tail_eq_none h] at htail
        cases htail
      rw [if_neg hother, htail]

/-- Sorted definitions are alike, one by one, if all names are defined alike. -/
theorem forall₂_of_find? {R : TypeDefinition → TypeDefinition → Prop}
    (hxs : Sorted.Increasing order types) (hys : Sorted.Increasing order types')
    (h : ∀ name, Option.Rel R (find? types name) (find? types' name)) :
    List.Forall₂ R types types' := by
  induction types generalizing types' with
  | nil =>
    cases types' with
    | nil => exact .nil
    | cons t types' =>
      have hname := h t.name
      rw [find?_cons, if_pos rfl] at hname
      cases hname
  | cons s types ih =>
    cases types' with
    | nil =>
      have hname := h s.name
      rw [find?_cons, if_pos rfl] at hname
      cases hname
    | cons t types' =>
      have hcontains : ∀ u, Sorted.contains order u (s :: types) =
          Sorted.contains order u (t :: types') := by
        intro u
        rw [contains_eq_isSome, contains_eq_isSome, isSome_eq_of_rel (h u.name)]
      have hnames : s.name = t.name := order_eq_iff.mp (hxs.head_eq hys hcontains)
      have hfirst := h s.name
      rw [find?_cons, find?_cons, if_pos rfl, if_pos hnames.symm] at hfirst
      refine .cons (by cases hfirst; assumption) (ih (List.pairwise_cons.mp hxs).2
        (List.pairwise_cons.mp hys).2 fun name => ?_)
      by_cases hname : s.name = name
      · subst hname
        rw [find?_tail_eq_none hxs, hnames, find?_tail_eq_none hys]
        exact .none
      · have hrest := h name
        rwa [find?_cons, find?_cons, if_neg hname, if_neg (hnames ▸ hname)] at hrest

end TypeDefinition

/-! ### Changes -/

namespace Registry

/-- A change of a registry. -/
inductive Change where
  /-- A definition is added. -/
  | add (definition : TypeDefinition)
  /-- The schema definition is set. -/
  | define (definition : SchemaDefinition)
  deriving DecidableEq

namespace Change

/-- The definition of a name that a change adds. -/
def added? (name : String) : Change → Option TypeDefinition
  | add definition => if definition.name = name then some definition else none
  | define _ => none

/-- The schema definition that a change sets. -/
def defined? : Change → Option SchemaDefinition
  | add _ => none
  | define definition => some definition

end Change

/-- The definition of a name that was added last. -/
def lastAdded? (changes : List Change) (name : String) : Option TypeDefinition :=
  changes.reverse.findSome? (·.added? name)

/-- The schema definition that was set last. -/
def lastDefined? (changes : List Change) : Option SchemaDefinition :=
  changes.reverse.findSome? (·.defined?)

variable {registry : Registry} {name : String}

/-- Changes a registry. -/
def perform (registry : Registry) : Change → Registry
  | .add definition => registry.add definition
  | .define definition => registry.define definition

/-- The registry after some changes. -/
def made (changes : List Change) : Registry :=
  changes.foldl perform {}

/-- The definitions of a registry strictly increase by name. -/
def Ordered (registry : Registry) : Prop :=
  Sorted.Increasing TypeDefinition.order registry.types

theorem get?_perform (change : Change) :
    (registry.perform change).get? name = (change.added? name).or (registry.get? name) := by
  cases change with
  | add definition =>
    have hfind := TypeDefinition.find?_replace definition registry.types name
    simp only [get?, perform, add, Change.added?, hfind]
    split <;> rfl
  | define definition => rfl

theorem schemaDefinition_perform (change : Change) :
    (registry.perform change).schemaDefinition =
      change.defined?.or registry.schemaDefinition := by
  cases change <;> rfl

theorem Ordered.perform (h : registry.Ordered) (change : Change) :
    (registry.perform change).Ordered := by
  cases change with
  | add definition => exact Sorted.increasing_replace h
  | define definition => exact h

/-- After some changes a name has the definition that was added last, or else the one that it had
before. -/
theorem get?_foldl (changes : List Change) : ∀ registry : Registry,
    (changes.foldl Registry.perform registry).get? name =
      (lastAdded? changes name).or (registry.get? name) := by
  induction changes with
  | nil => exact fun registry => rfl
  | cons change changes ih =>
    intro registry
    rw [List.foldl_cons, ih, get?_perform, lastAdded?, lastAdded?, List.reverse_cons,
      List.findSome?_append, ← Option.or_assoc]
    simp

theorem schemaDefinition_foldl (changes : List Change) : ∀ registry : Registry,
    (changes.foldl Registry.perform registry).schemaDefinition =
      (lastDefined? changes).or registry.schemaDefinition := by
  induction changes with
  | nil => exact fun registry => rfl
  | cons change changes ih =>
    intro registry
    rw [List.foldl_cons, ih, schemaDefinition_perform, lastDefined?, lastDefined?,
      List.reverse_cons, List.findSome?_append, ← Option.or_assoc]
    simp

theorem Ordered.foldl (changes : List Change) : ∀ registry : Registry, registry.Ordered →
    (changes.foldl Registry.perform registry).Ordered := by
  induction changes with
  | nil => exact fun _ h => h
  | cons change changes ih => exact fun registry h => ih _ (h.perform change)

/-- A name is defined by the definition that was added last. -/
theorem get?_made (changes : List Change) (name : String) :
    (made changes).get? name = lastAdded? changes name := by
  rw [made, get?_foldl]
  exact Option.or_none

/-- The schema definition is the one that was set last. -/
theorem schemaDefinition_made (changes : List Change) :
    (made changes).schemaDefinition = lastDefined? changes := by
  rw [made, schemaDefinition_foldl]
  exact Option.or_none

theorem ordered_made (changes : List Change) : (made changes).Ordered :=
  Ordered.foldl changes {} .nil

/-- The registries that come about by changes are those whose definitions increase by name. -/
theorem exists_made_iff : (∃ changes, made changes = registry) ↔ registry.Ordered := by
  refine ⟨fun ⟨changes, h⟩ => h ▸ ordered_made changes, fun h => ?_⟩
  let defined := registry.schemaDefinition.toList.map Change.define
  have hadded : ∀ (types : List TypeDefinition) (start : Registry),
      (types.map Change.add).foldl Registry.perform start =
        { start with
          types := types.foldl (fun set t => Sorted.replace TypeDefinition.order t set)
            start.types } := by
    intro types
    induction types with
    | nil => exact fun _ => rfl
    | cons t types ih => exact fun start => ih (start.add t)
  have hsorted : Sorted.ofList TypeDefinition.order registry.types = registry.types :=
    Sorted.ofList_of_perm (.refl _) h
  refine ⟨registry.types.map .add ++ defined, ?_⟩
  rw [made, List.foldl_append, hadded]
  change defined.foldl Registry.perform ⟨Sorted.ofList _ registry.types, none⟩ = registry
  rw [hsorted]
  obtain ⟨types, _ | definition⟩ := registry <;> rfl

end Registry

end SchemaEngine
