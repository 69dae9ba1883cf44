import Classwright.Error
import Classwright.Log

/-!
# Action — steps that keep state and log

An action works on a state, logs records and may fail. A failure undoes nothing: what was done and
logged before it stays.

* `Logged`: a state with the records so far.
* `Action`: a computation on a logged state.
* `Action.log`, `Action.state`, `Action.put`, `Action.ofExcept`: the elementary actions.
* `Action.start`: an action on a state with an empty log.
-/

namespace Classwright

/-- A state and the records logged so far. -/
structure Logged (σ : Type) where
  state : σ
  log : List Log.Record := []

/-- A computation that works on a state, keeps a log and may fail. -/
abbrev Action (σ : Type) := ExceptT Error (StateM (Logged σ))

namespace Action

variable {σ τ α : Type}

/-- Logs a record. -/
def log (level : Log.Level) (logger message : Text) : Action σ Unit :=
  modify fun s => { s with log := s.log ++ [{ level, logger, message }] }

/-- The state. -/
def state : Action σ σ := do return (← get).state

/-- Replaces the state. -/
def put (state : σ) : Action σ Unit := modify fun s => { s with state }

/-- A result, or the failure of a computation without state. -/
def ofExcept : Except Error α → Action σ α
  | .ok a => pure a
  | .error e => throw e

/-- The action from a state and a log: its result, and what it leaves. -/
def runFrom (action : Action σ α) (start : Logged σ) : Except Error α × Logged σ := action start

/-- The action from a state with an empty log. -/
def start (action : Action σ α) (state : σ) : Except Error α × Logged σ :=
  runFrom action { state }

/-- An action on another state, begun with `state` and with the log so far; what it leaves of that
state comes with its result. -/
def within (action : Action τ α) (state : τ) : Action σ (α × τ) := fun s =>
  match runFrom action { state, log := s.log } with
  | (.ok a, left) => (.ok (a, left.state), { s with log := left.log })
  | (.error e, left) => (.error e, { s with log := left.log })

theorem runFrom_pure (a : α) (s : Logged σ) :
    runFrom (pure a : Action σ α) s = (.ok a, s) := rfl

theorem runFrom_ofExcept (r : Except Error α) (s : Logged σ) :
    runFrom (ofExcept r : Action σ α) s = (r, s) := by
  cases r <;> rfl

theorem runFrom_log (level : Log.Level) (logger message : Text) (s : Logged σ) :
    runFrom (log level logger message : Action σ Unit) s
      = (.ok (), { s with log := s.log ++ [{ level, logger, message }] }) := rfl

end Action

end Classwright
