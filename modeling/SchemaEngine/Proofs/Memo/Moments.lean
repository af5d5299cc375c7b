import SchemaEngine.Memo.Cell

/-!
# What a cell holds, from moment to moment

The stamps of a cell are recorded at one moment, and its value is computed over several later ones.
If no stamp ever returns to an earlier value, a value whose stamps are still current was computed
while none of them moved.

Moments are listed with the latest one first, and stamps are read from a moment.

## Main definitions

* `NeverReturns`: no stamp takes a value again that it left.
* `Agree`: some stamps are the same at two moments.
* `Memo.Kept`, `Cell.Kept`: a value that is held is right for the moment at which its stamps were
  recorded, or one of these stamps has moved since.

## Main results

* `Memo.Kept.right_of_isCurrent`: a value with current stamps is right.
* `Memo.kept_of_produced`: what is kept of a value that was just computed.
* `Place.get_of_fresh`, `Place.get_of_stale`: the two ways to get the value of a cell.
-/

set_option autoImplicit false

namespace SchemaEngine

variable {M D V σ : Type} {read : M → D → Stamp} {leaves : List D} {moments : List M}

/-- No stamp takes a value again that it left. -/
def NeverReturns (read : M → D → Stamp) (moments : List M) : Prop :=
  ∀ later middle earlier, [later, middle, earlier].Sublist moments →
    ∀ d, read later d = read earlier d → read middle d = read earlier d

theorem NeverReturns.of_sublist (h : NeverReturns read moments) {fewer : List M}
    (hfewer : fewer.Sublist moments) : NeverReturns read fewer :=
  fun later middle earlier hsub => h later middle earlier (hsub.trans hfewer)

/-- Stamps that do not move do not return. -/
theorem NeverReturns.of_still (start : M) (h : ∀ moment ∈ moments, read moment = read start) :
    NeverReturns read moments := by
  intro later middle earlier hsub d _
  rw [h middle (hsub.subset (by simp)), h earlier (hsub.subset (by simp))]

/-- Stamps that never decrease never return. -/
theorem NeverReturns.of_pairwise
    (h : moments.Pairwise fun later earlier => ∀ d, read earlier d ≤ read later d) :
    NeverReturns read moments := by
  intro later middle earlier hsub d hreturned
  have hpairs := h.sublist hsub
  simp only [List.pairwise_cons, List.mem_cons, List.not_mem_nil, or_false] at hpairs
  have hup := hpairs.1 middle (.inl rfl) d
  have hdown := hpairs.2.1 earlier rfl d
  exact UInt64.le_antisymm (hreturned ▸ hup) hdown

/-- Some stamps are the same at two moments. -/
def Agree (read : M → D → Stamp) (leaves : List D) (x y : M) : Prop :=
  ∀ d ∈ leaves, read x d = read y d

namespace Agree

variable {x y z : M}

theorem refl (x : M) : Agree read leaves x x :=
  fun _ _ => rfl

theorem symm (h : Agree read leaves x y) : Agree read leaves y x :=
  fun d hd => (h d hd).symm

theorem trans (h : Agree read leaves x y) (h' : Agree read leaves y z) : Agree read leaves x z :=
  fun d hd => (h d hd).trans (h' d hd)

theorem of_subset (h : Agree read leaves x y) {fewer : List D} (hfewer : fewer ⊆ leaves) :
    Agree read fewer x y :=
  fun d hd => h d (hfewer hd)

end Agree

/-- Recorded stamps of single sources are current where the moment agrees with the recorded one. -/
theorem Snapshot.isCurrent_capture {x y : M} :
    (capture (read x) (leaves.map .single)).isCurrent (read y) = true ↔ Agree read leaves y x := by
  simp [isCurrent, capture, Agree, Source.stamp]

/-- What is known of a value that is held, where `right` tells which values are right for a moment:
it is right for the moment at which its stamps were recorded, or one of the stamps has moved. -/
def Memo.Kept (read : M → D → Stamp) (leaves : List D) (right : M → V → Prop) (moments : List M)
    (memo : Memo D V) : Prop :=
  ∃ origin ∈ moments, memo.stamps = .capture (read origin) (leaves.map .single) ∧
    (right origin memo.value ∨
      ∃ later, [later, origin].Sublist moments ∧ ¬ Agree read leaves later origin)

namespace Memo

variable {right : M → V → Prop} {memo : Memo D V} {now : M}

theorem Kept.of_sublist (h : memo.Kept read leaves right moments) {more : List M}
    (hmore : moments.Sublist more) : memo.Kept read leaves right more := by
  obtain ⟨origin, horigin, hstamps, hvalue⟩ := h
  refine ⟨origin, hmore.subset horigin, hstamps, hvalue.imp_right ?_⟩
  rintro ⟨later, hsub, hmoved⟩
  exact ⟨later, hsub.trans hmore, hmoved⟩

/-- A stamp that has moved once is never current again, so a value with current stamps is right. -/
theorem Kept.right_of_isCurrent (h : memo.Kept read leaves right moments)
    (hreturn : NeverReturns read (now :: moments)) (hcurrent : memo.stamps.isCurrent (read now)) :
    ∃ origin, Agree read leaves now origin ∧ right origin memo.value := by
  obtain ⟨origin, -, hstamps, hvalue⟩ := h
  rw [hstamps] at hcurrent
  have hagree := Snapshot.isCurrent_capture.mp hcurrent
  obtain hright | ⟨later, hsub, hmoved⟩ := hvalue
  · exact ⟨origin, hagree, hright⟩
  · refine absurd (fun d hd => ?_) hmoved
    exact hreturn now later origin (hsub.cons_cons now) d (hagree d hd)

/-- A value that was just computed: it is right if no stamp moved meanwhile, and otherwise one of
the recorded stamps is past. -/
theorem kept_of_produced {start : M} {visits past : List M} {value : V}
    (h : (∀ moment ∈ visits, Agree read leaves moment start) → right start value) :
    Kept read leaves right (visits ++ start :: past)
      ⟨value, .capture (read start) (leaves.map .single)⟩ := by
  refine ⟨start, by simp, rfl, ?_⟩
  by_cases hstill : ∀ moment ∈ visits, Agree read leaves moment start
  · exact .inl (h hstill)
  · right
    simp only [Classical.not_forall] at hstill
    obtain ⟨moment, hmoment, hmoved⟩ := hstill
    refine ⟨moment, ?_, hmoved⟩
    have hvisit : [moment].Sublist visits := List.singleton_sublist.mpr hmoment
    have hstart : [start].Sublist (start :: past) := List.singleton_sublist.mpr (.head _)
    exact hvisit.append hstart

end Memo

/-- A cell whose value depends on single sources, and what is known of the value. -/
structure Cell.Kept (read : M → D → Stamp) (leaves : List D) (right : M → V → Prop)
    (moments : List M) (cell : Cell D V) : Prop where
  dependencies : cell.dependencies = leaves.map .single
  memo : ∀ memo, cell.slot = some memo → memo.Kept read leaves right moments

namespace Cell

variable {right : M → V → Prop} {cell : Cell D V} {now : M}

theorem Kept.of_sublist (h : cell.Kept read leaves right moments) {more : List M}
    (hmore : moments.Sublist more) : cell.Kept read leaves right more :=
  ⟨h.dependencies, fun memo hmemo => (h.memo memo hmemo).of_sublist hmore⟩

theorem isFresh_eq_isSome_peek (stamp : D → Stamp) (cell : Cell D V) :
    cell.isFresh stamp = (cell.peek stamp).isSome := by
  unfold isFresh peek
  cases cell.slot with
  | none => rfl
  | some memo => simp only; split <;> simp_all

/-- What a cell serves is the value that it holds, with current stamps. -/
theorem slot_of_peek {stamp : D → Stamp} {value : V} (h : cell.peek stamp = some value) :
    ∃ memo, cell.slot = some memo ∧ memo.stamps.isCurrent stamp = true ∧ memo.value = value := by
  unfold peek at h
  split at h
  · rename_i memo hmemo
    split at h <;> cases h
    rename_i hcurrent
    exact ⟨memo, hmemo, hcurrent, rfl⟩
  · cases h

/-- What a cell serves is right for a moment with the present stamps. -/
theorem Kept.right_of_peek (h : cell.Kept read leaves right moments)
    (hreturn : NeverReturns read (now :: moments)) {value : V}
    (hpeek : cell.peek (read now) = some value) :
    ∃ origin, Agree read leaves now origin ∧ right origin value := by
  obtain ⟨memo, hmemo, hcurrent, rfl⟩ := slot_of_peek hpeek
  exact (h.memo memo hmemo).right_of_isCurrent hreturn hcurrent

/-- Storing a value that was just computed. -/
theorem Kept.store (h : cell.Kept read leaves right moments) {start : M} {visits past : List M}
    {value : V} (hvalue : (∀ moment ∈ visits, Agree read leaves moment start) → right start value)
    {stamps : Snapshot D} (hstamps : stamps = .capture (read start) (leaves.map .single)) :
    (cell.store value stamps).Kept read leaves right (visits ++ start :: past) := by
  refine ⟨h.dependencies, fun memo hmemo => ?_⟩
  obtain rfl : Memo.mk value stamps = memo := Option.some.inj hmemo
  rw [hstamps]
  exact Memo.kept_of_produced hvalue

end Cell

namespace Place

variable (place : Place σ D V) (produce : σ → V × σ) (s : σ)

theorem get_of_fresh {value : V} (h : (place.cell s).peek (place.read s) = some value) :
    place.get produce s = (value, s) := by
  simp only [get, consult, h]

theorem get_of_stale (h : (place.cell s).peek (place.read s) = none) :
    place.get produce s =
      let stamps := (place.cell s).capture (place.read s)
      let t := place.note (place.cell (produce s).2).label stamps (produce s).2
      ((produce s).1, place.put ((place.cell t).store (produce s).1 stamps) t) := by
  simp only [get, consult, h]

end Place

end SchemaEngine
