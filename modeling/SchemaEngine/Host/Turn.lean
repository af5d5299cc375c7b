/-!
# Turns

A collaborator that is called may call back before it answers, and what it asks next may depend on
what it was told. Its whole behaviour in one call is a turn: a tree of questions, each with the
continuation for every answer. A turn works on a state `σ`, which the questions may change too;
what else they change is hidden from it.

## Main definitions

* `Turn`: the behaviour of a collaborator in one call.
* `Turn.run`: the turn with its questions answered.
* `Turn.run?`: the same where a question may stay without answer.
-/

set_option autoImplicit false

namespace SchemaEngine

/-- The behaviour of a collaborator in one call: it asks questions `Q`, is given answers `A`, and
has a result `R`. -/
inductive Turn (σ Q A R : Type) where
  /-- The call ends. -/
  | done (state : σ) (result : R)
  /-- A question is asked, and the turn goes on with the answer. -/
  | ask (state : σ) (question : Q) (resume : σ → A → Turn σ Q A R)

namespace Turn

variable {σ ω Q A R : Type}

/-- Runs a turn. A question is answered in the state of the turn and the hidden rest `ω`. -/
def run (answer : Q → σ → ω → A × σ × ω) : Turn σ Q A R → ω → R × σ × ω
  | done state result, rest => (result, state, rest)
  | ask state question resume, rest =>
    let (told, state, rest) := answer question state rest
    (resume state told).run answer rest

/-- Runs a turn where a question may stay without answer; then the turn has no result. -/
def run? (answer : Q → σ → ω → Option (A × σ × ω)) : Turn σ Q A R → ω → Option (R × σ × ω)
  | done state result, rest => some (result, state, rest)
  | ask state question resume, rest =>
    match answer question state rest with
    | none => none
    | some (told, state, rest) => (resume state told).run? answer rest

end Turn

end SchemaEngine
