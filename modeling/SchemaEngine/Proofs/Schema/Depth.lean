import SchemaEngine.Proofs.Schema.Evaluation

/-!
# How deep calls nest

The calls that are asked for in a build are obtained to a given depth only. The depth takes no part
in what is obtained: where a call has an answer it has the same one at every greater depth. And if
whoever collects definitions asks for smaller contexts only, every call has an answer.

## Main definitions

* `SchemaState.Nested.Extends`: every answer of one way to obtain schemas is an answer of another.
* `Collaborators.Descends`: what is asked for in a build is smaller than what is built.

## Main results

* `SchemaState.schemaFor_extends`: a greater depth keeps every answer.
* `SchemaState.schemaFor_answers`: calls of collaborators that descend have an answer.
-/

set_option autoImplicit false

namespace SchemaEngine

/-- A turn asks only questions of a kind, whatever it is told. -/
def Turn.AsksOnly {σ Q A R : Type} (p : Q → Prop) : Turn σ Q A R → Prop
  | .done _ _ => True
  | .ask _ question resume => p question ∧ ∀ state answer, (resume state answer).AsksOnly p

namespace Turn

variable {σ ω Q A R : Type}

/-- A turn has the same result where all its questions have the same answers. -/
theorem run?_extends {answer answer' : Q → σ → ω → Option (A × σ × ω)}
    (h : ∀ question state rest told,
      answer question state rest = some told → answer' question state rest = some told)
    (turn : Turn σ Q A R) :
    ∀ rest result, turn.run? answer rest = some result → turn.run? answer' rest = some result := by
  induction turn with
  | done state result => exact fun _ _ hrun => hrun
  | ask state question resume ih =>
    intro rest result hrun
    simp only [run?] at hrun ⊢
    split at hrun
    · cases hrun
    · rename_i told state' rest' hanswer
      rw [h question state rest _ hanswer]
      exact ih state' told rest' result hrun

/-- A turn has a result where all its questions have answers. -/
theorem AsksOnly.run?_isSome {p : Q → Prop} {answer : Q → σ → ω → Option (A × σ × ω)}
    (hanswer : ∀ question, p question → ∀ state rest, (answer question state rest).isSome = true)
    {turn : Turn σ Q A R} (h : turn.AsksOnly p) :
    ∀ rest, (turn.run? answer rest).isSome = true := by
  induction turn with
  | done state result => exact fun _ => rfl
  | ask state question resume ih =>
    intro rest
    obtain ⟨⟨told, state', rest'⟩, htold⟩ :=
      Option.isSome_iff_exists.mp (hanswer question h.1 state rest)
    simp only [run?, htold]
    exact ih state' told (h.2 state' told) rest'

end Turn

/-- Whoever collects definitions asks only for contexts of smaller rank, and whoever checks a schema
asks for none. -/
structure Collaborators.Descends {H : Type} (c : Collaborators H) (rank : Option FileRef → Nat) :
    Prop where
  registry : ∀ context site,
    (c.registryInfo context site).AsksOnly fun question => rank question < rank context
  validation : ∀ schema site, (c.validate schema site).AsksOnly fun _ => False

namespace SchemaState

variable {H R : Type} {c : Collaborators H} {nested nested' : Nested H} {scope : Scope}
  {context : Option FileRef} {s : SchemaState H}

/-- Every answer of one way to obtain schemas is an answer of another. -/
def Nested.Extends (nested nested' : Nested H) : Prop :=
  ∀ context s answer, nested context s = some answer → nested' context s = some answer

/-! ### A greater depth keeps every answer -/

theorem runStep_extends (h : nested.Extends nested') {step : Site H → BuildTurn H R}
    {answer : Except BuildError R × SchemaState H} (hstep : runStep nested step s = some answer) :
    runStep nested' step s = some answer := by
  have hanswer : ∀ question site rest told, answering nested question site rest = some told →
      answering nested' question site rest = some told := by
    intro question site rest told htold
    unfold answering at htold ⊢
    split at htold
    · cases htold
    · rename_i hnested
      rw [h _ _ _ hnested]
      exact htold
  rw [runStep_eq] at hstep ⊢
  obtain ⟨parts, hparts, hsame⟩ := Option.map_eq_some_iff.mp hstep
  rw [Turn.run?_extends hanswer _ _ _ hparts, Option.map_some, hsame]

theorem assemble_extends (h : nested.Extends nested') {registry : Registry}
    {answer : Except BuildError (Schema × List SchemaError) × SchemaState H}
    (hassemble : assemble c nested registry s = some answer) :
    assemble c nested' registry s = some answer := by
  unfold assemble at hassemble ⊢
  split at hassemble
  · exact hassemble
  · split at hassemble
    · cases hassemble
    all_goals
      rename_i hstep
      simp only [runStep_extends h hstep]
      exact hassemble

theorem build_extends (h : nested.Extends nested')
    {answer : Except Cancelled SchemaInfo × SchemaState H}
    (hbuild : build c nested context scope s = some answer) :
    build c nested' context scope s = some answer := by
  simp only [build] at hbuild ⊢
  split at hbuild
  · cases hbuild
  · rename_i hstep
    simp only [runStep_extends h hstep]
    exact hbuild
  · rename_i e t hfailed hstep
    simp only [runStep_extends h hstep]
    cases e with
    | cancelled => exact absurd rfl hfailed
    | internal message => exact hbuild
  · rename_i registry t hstep
    simp only [runStep_extends h hstep]
    cases hassemble : assemble c nested registry.registry t with
    | none =>
      rw [hassemble] at hbuild
      cases hbuild
    | some assembled =>
      rw [hassemble] at hbuild
      rw [assemble_extends h hassemble]
      exact hbuild

/-- A greater depth keeps every answer. -/
theorem schemaFor_extends (c : Collaborators H) {depth depth' : Nat} (hle : depth ≤ depth') :
    Nested.Extends (schemaFor c depth) (schemaFor c depth') := by
  induction depth generalizing depth' with
  | zero =>
    intro context s answer h
    cases h
  | succ depth ih =>
    intro context s answer h
    obtain ⟨deeper, rfl⟩ : ∃ deeper, depth' = deeper + 1 := ⟨depth' - 1, by omega⟩
    have hnested : Nested.Extends (schemaFor c depth) (schemaFor c deeper) :=
      ih (Nat.le_of_succ_le_succ hle)
    simp only [schemaFor] at h ⊢
    -- The scope and the map are found without a look at the depth.
    split at h
    · exact h
    · split at h
      · cases h
      all_goals
        rename_i hbuild
        simp only [build_extends hnested hbuild]
        exact h

/-! ### Calls that descend have an answer -/

theorem runStep_isSome {p : Option FileRef → Prop} {step : Site H → BuildTurn H R}
    (hstep : (step s.site).AsksOnly p)
    (hnested : ∀ question, p question → ∀ s, (nested question s).isSome = true) :
    (runStep nested step s).isSome = true := by
  rw [runStep_eq, Option.isSome_map]
  refine hstep.run?_isSome (fun question hquestion site rest => ?_) _
  obtain ⟨told, htold⟩ :=
    Option.isSome_iff_exists.mp (hnested question hquestion ⟨rest.1, ⟨rest.2, site⟩⟩)
  simp only [answering, htold, Option.isSome_some]

theorem assemble_isSome {rank : Option FileRef → Nat} (hc : c.Descends rank) (registry : Registry)
    (s : SchemaState H) : (assemble c nested registry s).isSome = true := by
  unfold assemble
  split
  · rfl
  · rename_i schema hschema
    have hstep : (runStep nested (c.validate schema) s).isSome = true :=
      runStep_isSome (hc.validation schema s.site) fun _ hnever => hnever.elim
    split
    · rename_i hnone
      rw [hnone] at hstep
      cases hstep
    · rfl
    · rfl

theorem build_isSome {rank : Option FileRef → Nat} (hc : c.Descends rank)
    (hnested : ∀ question, rank question < rank context → ∀ s, (nested question s).isSome = true)
    (scope : Scope) (s : SchemaState H) : (build c nested context scope s).isSome = true := by
  have hstep : (runStep nested (c.registryInfo context) s.numbered).isSome = true :=
    runStep_isSome (hc.registry context s.numbered.site) hnested
  simp only [build]
  split
  · rename_i hnone
    rw [numbered, hnone] at hstep
    cases hstep
  · rfl
  · rfl
  · rename_i registry t _
    have hassemble : (assemble c nested registry.registry t).isSome = true :=
      assemble_isSome hc registry.registry t
    split
    · rename_i hnone
      rw [hnone] at hassemble
      cases hassemble
    · rfl
    · rfl
    · rfl

theorem schemaFor_isSome {rank : Option FileRef → Nat} (hc : c.Descends rank) {depth : Nat} :
    ∀ {context : Option FileRef}, rank context < depth → ∀ s : SchemaState H,
      (schemaFor c depth context s).isSome = true := by
  induction depth with
  | zero =>
    intro context hlt
    exact absurd hlt (Nat.not_lt_zero _)
  | succ depth ih =>
    intro context hlt s
    have hnested : ∀ question, rank question < rank context → ∀ s,
        (schemaFor c depth question s).isSome = true :=
      fun question hsmaller => ih (Nat.lt_of_lt_of_le hsmaller (Nat.le_of_lt_succ hlt))
    simp only [schemaFor]
    split
    · rfl
    · split
      · rename_i hnone
        have hbuild := build_isSome hc hnested (s.resolveScope c context).1
          ((s.resolveScope c context).2.currentMap c).2
        rw [hnone] at hbuild
        cases hbuild
      · rfl
      · rfl

/-- Calls of collaborators that descend have an answer, and it is the same at every depth that is
great enough. -/
theorem schemaFor_answers {rank : Option FileRef → Nat} (hc : c.Descends rank)
    (context : Option FileRef) (s : SchemaState H) :
    ∃ result t, ∀ depth, rank context < depth →
      schemaFor c depth context s = some (result, t) := by
  obtain ⟨⟨result, t⟩, hanswer⟩ :=
    Option.isSome_iff_exists.mp (schemaFor_isSome hc (Nat.lt_succ_self (rank context)) s)
  exact ⟨result, t, fun depth hdepth => schemaFor_extends c hdepth context s _ hanswer⟩

end SchemaState

end SchemaEngine
