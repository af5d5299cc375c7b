import Mathlib.Logic.Relation
import SchemaEngine.Proofs.Memo.Productions

/-!
# Failures leave a cell alone

A producer that fails is followed by nothing: its error is the answer, and the bench is left as the
producer left it. What a cell holds is therefore changed by two things only, the success of one of
its own productions and the dropping of its value. Everything else leaves it alone, any number of
failures included, and the stamps recorded for it keep deciding whether it is served.

A cell with something to serve never runs its producer, so there is no error to return.

## Main definitions

* `Chronicle.Spares`, `Chronicle.Replaces`: the steps that leave what a cell holds alone, and those
  that do not.
* `Chronicle.Undisturbed`: any number of steps of the first kind.
* `Chronicle.LeavesAlone`: a function on benches takes no others.
* `Chronicle.Failures`: attempts at a cell that fail, and in between whatever leaves it alone.

## Main results

* `Chronicle.Undisturbed.slot_eq`: nothing but the two things changes what a cell holds.
* `Chronicle.Run.last_replacement`: what a cell holds after a run goes back to the last of them.
* `Chronicle.leavesAlone_runAll`: which scripts leave a cell alone.
* `Chronicle.failures_keep_cell`: what failures return, leave and let be served.
* `Chronicle.fresh_cell_returns_no_error`: a fresh cell answers before its producer can fail.
-/

set_option autoImplicit false

namespace SchemaEngine

open Relation

variable {V β : Type}

/-- A consulted cell answers with what it serves or else with the error of its producer, which is
followed by nothing. -/
theorem Place.consult_of_failed {σ D E : Type} (place : Place σ D V) {produce : σ → Except E V × σ}
    {s : σ} {e : E} (h : (produce s).1 = .error e) :
    place.consult Except.toOption produce s =
      match (place.cell s).peek (place.read s) with
      | some v => (.cached v, s)
      | none => (.produced (.error e), (produce s).2) := by
  unfold consult
  cases (place.cell s).peek (place.read s) with
  | some v => rfl
  | none => simp only [h, Except.toOption]

namespace Chronicle

/-! ### Steps and the value of one cell -/

/-- A step that leaves what a cell holds alone: it drops no value of the cell and ends none of its
productions with success. -/
inductive Spares (name : String) : Chronicle V → Chronicle V → Prop where
  | move (c : Chronicle V) (reading : String → Stamp) : Spares name c (c.move reading)
  | invalidate (c : Chronicle V) {other : String} (hother : other ≠ name) :
      Spares name c (c.put other (c.bench.cellOf other).invalidate)
  | capture (c : Chronicle V) (snapshotOf : String → Snapshot String) :
      Spares name c { c with bench := { c.bench with snapshotOf := snapshotOf } }
  | begin (c : Chronicle V) (other : String)
      (hstale : (c.bench.cellOf other).peek c.bench.stampOf = none) :
      Spares name c (c.begin other)
  | finish (c : Chronicle V) (number : Nat) (production : Production V) (value : Option V)
      (hbegun : c.productions[number]? = some production) (hopen : production.result = none)
      (hspared : production.cell ≠ name ∨ value = none) :
      Spares name c (c.finish number production value)

/-- A step that drops what a cell holds, or stores the value of one of its productions with the
stamps that were recorded for it. -/
inductive Replaces (name : String) : Chronicle V → Chronicle V → Prop where
  | dropped (c : Chronicle V) : Replaces name c (c.put name (c.bench.cellOf name).invalidate)
  | stored (c : Chronicle V) (number : Nat) (production : Production V) (v : V)
      (hbegun : c.productions[number]? = some production) (hopen : production.result = none)
      (hcell : production.cell = name) : Replaces name c (c.finish number production (some v))

/-- Any number of steps that leave what a cell holds alone. -/
def Undisturbed (name : String) : Chronicle V → Chronicle V → Prop :=
  ReflTransGen (Spares name)

/-- A function on benches leaves what a cell holds alone: from any chronicle of a bench, such steps
lead to the bench it gives, and the productions that had begun before stay as they are. -/
def LeavesAlone (name : String) (f : Bench V → β × Bench V) : Prop :=
  ∀ c : Chronicle V, ∃ d, Undisturbed name c d ∧ c.productions <+: d.productions ∧
    d.bench = (f c.bench).2

variable {name : String} {c d : Chronicle V}

theorem Spares.slot_eq (h : Spares name c d) :
    (d.bench.cellOf name).slot = (c.bench.cellOf name).slot := by
  cases h with
  | move | capture | begin => rfl
  | invalidate hother => rw [slot_put, if_neg (Ne.symm hother)]
  | finish number production value hbegun hopen hspared =>
    cases value with
    | none => rfl
    | some v =>
      rcases hspared with hother | hnone
      · rw [Chronicle.finish, slot_put, if_neg (Ne.symm hother)]
      · cases hnone

/-- What a cell holds after its value was dropped or replaced. -/
theorem Replaces.slot (h : Replaces name c d) :
    (d.bench.cellOf name).slot = none ∨
      ∃ production ∈ c.productions, production.cell = name ∧ production.result = none ∧
        ∃ v, { production with result := some (some v) } ∈ d.productions ∧
          (d.bench.cellOf name).slot = some ⟨v, production.stamps⟩ := by
  cases h with
  | dropped =>
    rw [slot_put, if_pos rfl]
    exact .inl rfl
  | stored number production v hbegun hopen hcell =>
    have hlength : number < c.productions.length := (List.getElem?_eq_some_iff.mp hbegun).1
    refine .inr ⟨production, List.mem_of_getElem? hbegun, hcell, hopen, v,
      List.mem_set hlength _, ?_⟩
    rw [Chronicle.finish, slot_put, if_pos hcell.symm]
    rfl

/-- A production that has succeeded stays as it is. -/
theorem Spares.mem_productions (h : Spares name c d) {production : Production V} {v : V}
    (hmem : production ∈ c.productions) (hresult : production.result = some (some v)) :
    production ∈ d.productions := by
  cases h with
  | move | invalidate | capture => exact hmem
  | begin => exact List.mem_append_left _ hmem
  | finish number other value hbegun hopen =>
    have hset : production ∈ c.productions.set number { other with result := some value } :=
      mem_set_ended hbegun hopen hmem hresult
    cases value <;> exact hset

/-- A step leaves what a cell holds alone, or drops or replaces it. -/
theorem Step.spares_or_replaces (h : Step c d) (name : String) :
    Spares name c d ∨ Replaces name c d := by
  cases h with
  | move reading => exact .inl (.move c reading)
  | invalidate other =>
    by_cases hother : other = name
    · exact .inr (hother ▸ .dropped c)
    · exact .inl (.invalidate c hother)
  | capture snapshotOf => exact .inl (.capture c snapshotOf)
  | begin other hstale => exact .inl (.begin c other hstale)
  | finish number production value hbegun hopen =>
    cases value with
    | none => exact .inl (.finish c number production none hbegun hopen (.inr rfl))
    | some v =>
      by_cases hcell : production.cell = name
      · exact .inr (.stored c number production v hbegun hopen hcell)
      · exact .inl (.finish c number production (some v) hbegun hopen (.inl hcell))

/-! ### Any number of steps -/

/-- Nothing but success and dropping changes what a cell holds. -/
theorem Undisturbed.slot_eq (h : Undisturbed name c d) :
    (d.bench.cellOf name).slot = (c.bench.cellOf name).slot := by
  induction h with
  | refl => rfl
  | tail _ step ih => exact step.slot_eq.trans ih

theorem Undisturbed.mem_productions (h : Undisturbed name c d) {production : Production V} {v : V}
    (hmem : production ∈ c.productions) (hresult : production.result = some (some v)) :
    production ∈ d.productions := by
  induction h with
  | refl => exact hmem
  | tail _ step ih => exact step.mem_productions ih hresult

/-- What a cell holds after a run is what it held before, or what the last step left that dropped or
replaced it. -/
theorem Run.last_replacement (h : Run c d) (name : String) :
    Undisturbed name c d ∨
      ∃ a b, Run c a ∧ Replaces name a b ∧ Undisturbed name b d := by
  induction h with
  | refl => exact .inl .refl
  | tail run step ih =>
    rcases step.spares_or_replaces name with hspares | hreplaces
    · refine ih.imp (·.tail hspares) ?_
      rintro ⟨a, b, hrun, hreplaced, hsince⟩
      exact ⟨a, b, hrun, hreplaced, hsince.tail hspares⟩
    · exact .inr ⟨_, _, run, hreplaces, .refl⟩

/-! ### Functions that leave a cell alone -/

/-- The cell holds what it held. -/
theorem LeavesAlone.slot_eq {f : Bench V → β × Bench V} (hf : LeavesAlone name f)
    (bench : Bench V) : ((f bench).2.cellOf name).slot = (bench.cellOf name).slot := by
  obtain ⟨d, hundisturbed, -, hbench⟩ := hf { bench }
  rw [← hbench]
  exact hundisturbed.slot_eq

theorem leavesAlone_of_bench_eq {f : Bench V → β × Bench V} (h : ∀ bench, (f bench).2 = bench) :
    LeavesAlone name f :=
  fun c => ⟨c, .refl, List.prefix_rfl, (h c.bench).symm⟩

/-- Consulting another cell leaves a cell alone, and so does consulting the cell itself with a
producer that fails. -/
theorem leavesAlone_consult {produce : Bench V → β × Bench V} (hproduce : LeavesAlone name produce)
    (value : β → Option V) {other : String}
    (hspared : other ≠ name ∨ ∀ bench, value (produce bench).1 = none) :
    LeavesAlone name ((Bench.place other).consult value produce) := by
  intro c
  cases hpeek : (c.bench.cellOf other).peek c.bench.stampOf with
  | some v => exact ⟨c, .refl, List.prefix_rfl, by rw [consult_of_peek produce value hpeek]⟩
  | none =>
    obtain ⟨d, hundisturbed, hprefix, hbench⟩ := hproduce (c.begin other)
    obtain ⟨nested, hopen, hended, hconsulted⟩ := finish_consult produce value hpeek hprefix hbench
    have hbegin : Spares name c (c.begin other) := .begin c other hpeek
    have hend : Spares name d
        (d.finish c.productions.length (c.opening other) (value (produce c.bench).1)) :=
      .finish d _ _ _ (getElem?_opening hopen) rfl
        (hspared.imp_right fun hfailed => hfailed c.bench)
    refine ⟨_, (hundisturbed.head hbegin).tail hend, ?_, hconsulted⟩
    rw [hended]
    exact List.prefix_append _ _

end Chronicle

namespace Bench

mutual

/-- Whether a step drops or replaces what a cell holds, if all its producers run. -/
def mayReplace (name : String) : Step V → Bool
  | .invalidate other => other == name
  | .consult other outcome during =>
    (other == name && outcome.toOption.isSome) || anyMayReplace name during
  | _ => false

/-- Whether a script has a step of this kind. -/
def anyMayReplace (name : String) : List (Step V) → Bool
  | [] => false
  | step :: steps => mayReplace name step || anyMayReplace name steps

end

end Bench

namespace Chronicle

variable {name : String}

mutual

theorem leavesAlone_run : ∀ step : Bench.Step V, Bench.mayReplace name step = false →
    LeavesAlone name (Bench.run step)
  | .advance _, _ => fun c => ⟨_, .single (.move c _), List.prefix_rfl, rfl⟩
  | .set _ _, _ => fun c => ⟨_, .single (.move c _), List.prefix_rfl, rfl⟩
  | .invalidate other, h => fun c => by
    have hother : other ≠ name := by simpa [Bench.mayReplace] using h
    exact ⟨_, .single (.invalidate c hother), List.prefix_rfl, rfl⟩
  | .capture snapshot sources, _ => fun c =>
    ⟨_, .single (.capture c (Bench.run (.capture snapshot sources) c.bench).2.snapshotOf),
      List.prefix_rfl, rfl⟩
  | .consult other outcome during, h => by
    simp only [Bench.mayReplace, Bool.or_eq_false_iff, Bool.and_eq_false_iff, beq_eq_false_iff_ne,
      Option.isSome_eq_false_iff, Option.isNone_iff_eq_none] at h
    have hproduce : LeavesAlone name fun bench => ((outcome, (Bench.runAll during bench).1),
        (Bench.runAll during bench).2) := leavesAlone_runAll during h.2
    exact leavesAlone_consult hproduce (fun outcome => outcome.1.toOption)
      (h.1.imp_right fun hfailed _ => hfailed)
  | .stamp _, _ => leavesAlone_of_bench_eq fun _ => rfl
  | .peek _, _ => leavesAlone_of_bench_eq fun _ => rfl
  | .inspect _, _ => leavesAlone_of_bench_eq fun _ => rfl
  | .describeCell _, _ => leavesAlone_of_bench_eq fun _ => rfl
  | .describeSource _, _ => leavesAlone_of_bench_eq fun _ => rfl

/-- A script leaves a cell alone if no step of it, however nested, drops the value of the cell or
lets one of its producers succeed. -/
theorem leavesAlone_runAll : ∀ steps : List (Bench.Step V), Bench.anyMayReplace name steps = false →
    LeavesAlone name (Bench.runAll steps)
  | [], _ => leavesAlone_of_bench_eq fun _ => rfl
  | step :: steps, h => by
    rw [Bench.anyMayReplace, Bool.or_eq_false_iff] at h
    intro c
    obtain ⟨d, hundisturbed, hprefix, hbench⟩ := leavesAlone_run step h.1 c
    obtain ⟨e, hundisturbed', hprefix', hbench'⟩ := leavesAlone_runAll steps h.2 d
    refine ⟨e, hundisturbed.trans hundisturbed', hprefix.trans hprefix', ?_⟩
    rw [hbench', hbench]
    rfl

end

/-! ### Failures -/

/-- Attempts at a cell that fail, so many of them, one after the other. What happens in between, and
while the producers run, leaves the cell alone. -/
inductive Failures (name : String) : Nat → Bench V → Bench V → Prop where
  | none (bench : Bench V) : Failures name 0 bench bench
  | meanwhile {n : Nat} {bench after : Bench V} {β : Type} {f : Bench V → β × Bench V}
      (hf : LeavesAlone name f) :
      Failures name n bench after → Failures name n bench (f after).2
  | failed {n : Nat} {bench after : Bench V} {E : Type} {produce : Bench V → Except E V × Bench V}
      {e : E} (hproduce : LeavesAlone name produce)
      (hfailed : ((Bench.place name).consult Except.toOption produce after).1 =
        .produced (.error e)) :
      Failures name n bench after →
        Failures name (n + 1) bench ((Bench.place name).consult Except.toOption produce after).2

/-- A cell answers without its producer exactly if it serves a value, and then nothing changes. -/
theorem consult_eq_cached_iff (produce : Bench V → β × Bench V) (value : β → Option V)
    {bench after : Bench V} {v : V} :
    (Bench.place name).consult value produce bench = (.cached v, after) ↔
      (bench.cellOf name).Serves bench.stampOf v ∧ after = bench := by
  cases hpeek : (bench.cellOf name).peek bench.stampOf with
  | some served =>
    rw [consult_of_peek produce value hpeek, ← Cell.peek_eq_some_iff, hpeek]
    simp [eq_comm]
  | none =>
    have hstale := Cell.peek_eq_none_iff.mp hpeek
    refine iff_of_false (fun hcached => ?_) fun h => hstale v h.1
    have hproduced := consult_of_stale produce value hstale
    rw [hcached] at hproduced
    cases hproduced

/-- Consulting a cell fails only if it has nothing to serve and its producer fails. -/
theorem producer_of_failed {E : Type} {produce : Bench V → Except E V × Bench V} {bench : Bench V}
    {e : E} (h : ((Bench.place name).consult Except.toOption produce bench).1 =
      .produced (.error e)) :
    (produce bench).1 = .error e ∧
      ((Bench.place name).consult Except.toOption produce bench).2 = (produce bench).2 := by
  cases hpeek : (bench.cellOf name).peek bench.stampOf with
  | some v =>
    rw [consult_of_peek produce Except.toOption hpeek] at h
    cases h
  | none =>
    have hproduced := consult_of_stale produce Except.toOption (Cell.peek_eq_none_iff.mp hpeek)
    rw [hproduced] at h
    have hfailed := Answer.produced.inj h
    have hplace : ((Bench.place name).cell bench).peek ((Bench.place name).read bench) = none :=
      hpeek
    rw [(Bench.place name).consult_of_failed hfailed, hplace]
    exact ⟨hfailed, rfl⟩

theorem Failures.slot_eq {n : Nat} {bench after : Bench V} (h : Failures name n bench after) :
    (after.cellOf name).slot = (bench.cellOf name).slot := by
  induction h with
  | none => rfl
  | meanwhile hf _ ih => exact (hf.slot_eq _).trans ih
  | failed hproduce hfailed _ ih =>
    rw [(producer_of_failed hfailed).2]
    exact (hproduce.slot_eq _).trans ih

/-- Whatever a cell holds, and whatever else happens on the bench: consulting it with a producer
that fails changes nothing and gives the value that it serves, if it serves one; otherwise it gives
the very error of the producer, and the bench is as the producer left it. After any number of
failures the cell holds what it held before them, with the same stamps, and serves it exactly if
these are all the present ones again. In every run, what a cell holds is what it held before, or
what the last step left that dropped it or stored the value of a production that had succeeded.
Every script is such a run, and leaves the cell alone unless a step of it, however nested, may drop
the value of the cell or let one of its producers succeed. -/
theorem failures_keep_cell (name : String) (bench : Bench V) :
    (∀ (E : Type) (e : E) (produce : Bench V → Except E V × Bench V),
      (produce bench).1 = .error e →
        (∀ v, (bench.cellOf name).Serves bench.stampOf v →
          (Bench.place name).consult Except.toOption produce bench = (.cached v, bench)) ∧
        ((∀ v, ¬ (bench.cellOf name).Serves bench.stampOf v) →
          (Bench.place name).consult Except.toOption produce bench =
            (.produced (.error e), (produce bench).2))) ∧
    (∀ n after, Failures name n bench after →
      (after.cellOf name).slot = (bench.cellOf name).slot ∧
        ∀ (β : Type) (value : β → Option V) (produce : Bench V → β × Bench V) (v : V),
          (Bench.place name).consult value produce after = (.cached v, after) ↔
            ∃ memo, (bench.cellOf name).slot = some memo ∧ memo.value = v ∧
              ∀ entry ∈ memo.stamps.entries, entry.1.stamp after.stampOf = entry.2) ∧
    (∀ c d : Chronicle V, c.bench = bench → Run c d →
      (Undisturbed name c d ∧ (d.bench.cellOf name).slot = (bench.cellOf name).slot) ∨
        ∃ a b, Run c a ∧ Replaces name a b ∧ Undisturbed name b d ∧
          ((d.bench.cellOf name).slot = none ∨
            ∃ production ∈ a.productions, production.cell = name ∧ production.result = none ∧
              ∃ v, { production with result := some (some v) } ∈ d.productions ∧
                (d.bench.cellOf name).slot = some ⟨v, production.stamps⟩)) ∧
    (∀ steps : List (Bench.Step V),
      let d := recordAll steps { bench }
      Run { bench } d ∧ d.bench = (Bench.runAll steps bench).2 ∧
        (Bench.anyMayReplace name steps = false →
          ((Bench.runAll steps bench).2.cellOf name).slot = (bench.cellOf name).slot)) := by
  refine ⟨fun E e produce hfailed => ⟨fun v hserves => ?_, fun hstale => ?_⟩,
    fun n after hfailures => ⟨hfailures.slot_eq, fun β value produce v => ?_⟩, ?_,
    fun steps => ⟨(tracks_recordAll steps).run _, (tracks_recordAll steps).bench _,
      fun hspared => (leavesAlone_runAll steps hspared).slot_eq bench⟩⟩
  · exact consult_of_peek produce Except.toOption (Cell.peek_eq_some_iff.mpr hserves)
  · have hpeek : ((Bench.place name).cell bench).peek ((Bench.place name).read bench) = none :=
      Cell.peek_eq_none_iff.mpr hstale
    rw [(Bench.place name).consult_of_failed hfailed, hpeek]
  · have hserves : (after.cellOf name).Serves after.stampOf v ↔
        ∃ memo, (bench.cellOf name).slot = some memo ∧ memo.value = v ∧
          ∀ entry ∈ memo.stamps.entries, entry.1.stamp after.stampOf = entry.2 := by
      rw [Cell.Serves, hfailures.slot_eq]
    rw [← hserves, consult_eq_cached_iff]
    exact and_iff_left rfl
  · rintro c d rfl hrun
    rcases hrun.last_replacement name with hundisturbed | ⟨a, b, hbefore, hreplaced, hsince⟩
    · exact .inl ⟨hundisturbed, hundisturbed.slot_eq⟩
    · refine .inr ⟨a, b, hbefore, hreplaced, hsince, ?_⟩
      rw [hsince.slot_eq]
      refine hreplaced.slot.imp_right ?_
      rintro ⟨production, hmem, hcell, hopen, v, hended, hslot⟩
      exact ⟨production, hmem, hcell, hopen, v, hsince.mem_productions hended rfl, hslot⟩

section Example

/-- A producer that takes the steps of a script and then fails. -/
def failing {E : Type} (steps : List (Bench.Step V)) (e : E) (bench : Bench V) :
    Except E V × Bench V :=
  (.error e, (Bench.runAll steps bench).2)

theorem leavesAlone_failing {E : Type} {steps : List (Bench.Step V)} (e : E)
    (h : Bench.anyMayReplace name steps = false) : LeavesAlone name (failing steps e) :=
  leavesAlone_runAll steps h

/-- A cell that holds what was computed at the time 0, and its clock. -/
def cellAt (time : Stamp) : Bench String where
  sources := [("clock", .single "clock")]
  counters := ["clock"]
  stampOf := fun _ => time
  cellNames := ["x", "y"]
  cellOf := fun name =>
    ⟨name, [.single "clock"], if name = "x" then some ⟨"old", ⟨[(.single "clock", 0)]⟩⟩ else none⟩

/-- The value is out of date. Two producers fail, the second one after it has failed on the same
cell again and has filled another one; then the clock is set back, and the value is served. -/
theorem failures_keep_cell_set_back :
    ∃ after, Failures "x" 2 (cellAt 1) after ∧ (after.cellOf "y").slot.isSome = true ∧
      (after.cellOf "x").slot = some ⟨"old", ⟨[(.single "clock", 0)]⟩⟩ ∧
      (Bench.place "x").consult Except.toOption (failing (E := String) [] "boom") after =
        (.cached "old", after) := by
  let nested : List (Bench.Step String) :=
    [.consult "x" (.error "inner") [.advance "clock"], .consult "y" (.ok "other") []]
  let attempt {E : Type} (e : E) (steps : List (Bench.Step String)) (bench : Bench String) :=
    ((Bench.place "x").consult Except.toOption (failing steps e) bench).2
  have hfirst : Failures "x" 1 (cellAt 1) (attempt "boom" [.advance "clock"] (cellAt 1)) :=
    .failed (leavesAlone_failing "boom" rfl) rfl (.none (cellAt 1))
  have hsecond : Failures "x" 2 (cellAt 1)
      (attempt 3 nested (attempt "boom" [.advance "clock"] (cellAt 1))) :=
    .failed (leavesAlone_failing 3 rfl) rfl hfirst
  have hback := Failures.meanwhile (leavesAlone_runAll [.set "clock" 0] rfl) hsecond
  obtain ⟨hslot, hserved⟩ := (failures_keep_cell "x" (cellAt 1)).2.1 2 _ hback
  exact ⟨_, hback, rfl, hslot, (hserved _ _ _ "old").mpr ⟨_, rfl, rfl, by decide⟩⟩

/-- A producer does not run while its cell serves a value, so then its error is not returned. -/
theorem fresh_cell_returns_no_error :
    ¬ ∀ (bench : Bench String) (name : String) (E : Type) (e : E)
        (produce : Bench String → Except E String × Bench String), (produce bench).1 = .error e →
      ((Bench.place name).consult Except.toOption produce bench).1 = .produced (.error e) := by
  intro h
  have hfresh : ((cellAt 0).cellOf "x").Serves (cellAt 0).stampOf "old" := ⟨_, rfl, rfl, by decide⟩
  have herror := h (cellAt 0) "x" String "boom" (failing [] "boom") rfl
  rw [consult_of_peek _ _ (Cell.peek_eq_some_iff.mpr hfresh)] at herror
  cases herror

end Example

end Chronicle

end SchemaEngine
