/-!
# Steps that may fail

A step changes a state and ends with a value or an error. What a step changed before it failed
stays changed.

## Main definitions

* `Attempt` — a step on a state.
* `Attempt.outcome` — the step with its error as a value, so that what follows goes on.
* `Attempt.within` — a step on a part of a state.
-/

namespace HybridSearch

abbrev Attempt (ε σ α : Type) := ExceptT ε (StateM σ) α

namespace Attempt

variable {ε δ σ τ α : Type}

/-- How the step ends. -/
def outcome (step : Attempt ε σ α) : Attempt δ σ (Except ε α) :=
  ExceptT.mk do return .ok (← step.run)

/-- The step with another kind of error. -/
def recast (f : ε → δ) (step : Attempt ε σ α) : Attempt δ σ α :=
  ExceptT.mk do return (← step.run).mapError f

def within (part : τ → σ) (put : τ → σ → τ) (step : Attempt ε σ α) : Attempt ε τ α :=
  ExceptT.mk fun state =>
    let (result, changed) := StateT.run step.run (part state)
    (result, put state changed)

/-- A result without a step. -/
def ofExcept (result : Except ε α) : Attempt ε σ α := ExceptT.mk (pure result)

/-- The end of the step from a given state, and the state it leaves. -/
def runFrom (step : Attempt ε σ α) (state : σ) : Except ε α × σ := StateT.run step.run state

end Attempt

end HybridSearch
