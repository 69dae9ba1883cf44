import Classwright.Action
import Classwright.Proofs.Stateful

/-!
# Action — runs of composite actions

An action runs its parts in order, and the first failure ends it with what was done so far.

* `Action.runFrom_bind_ok`, `Action.runFrom_bind_error`: a run goes on from where its first part
  left, or ends there.
* `Action.of_runFrom_bind_ok`: the parts of a run that has succeeded.
* `Action.runFrom_state_bind`: a run that looks at the state.
* `Action.runFrom_within_ok`, `Action.runFrom_within_error`: a run on another state.
* `Action.FailsOnly`: an action all of whose failures are of one kind.
* `Action.Keeps`: an action that keeps a property of state and log, whether it succeeds or fails.
* `Action.LogsTo`: an action that logs to some loggers only.
-/

namespace Classwright.Action

variable {σ α β : Type} {action : Action σ α} {next : α → Action σ β} {start left : Logged σ}

theorem runFrom_bind_ok {a : α} (h : runFrom action start = (.ok a, left)) :
    runFrom (action >>= next) start = runFrom (next a) left :=
  Stateful.bind_of_ok h

theorem runFrom_bind_error {error : Error} (h : runFrom action start = (.error error, left)) :
    runFrom (action >>= next) start = (.error error, left) :=
  Stateful.bind_of_error h

theorem of_runFrom_bind_ok {b : β} (h : runFrom (action >>= next) start = (.ok b, left)) :
    ∃ a middle, runFrom action start = (.ok a, middle) ∧ runFrom (next a) middle = (.ok b, left) :=
  Stateful.of_bind_ok h

theorem of_runFrom_ofExcept_ok {result : Except Error α} {a : α}
    (h : runFrom (ofExcept result : Action σ α) start = (.ok a, left)) :
    result = .ok a ∧ left = start := by
  rw [runFrom_ofExcept] at h
  cases h
  exact ⟨rfl, rfl⟩

/-- A computation without state is lifted as it is. -/
theorem liftM_eq_ofExcept (result : Except Error α) :
    (liftM result : Action σ α) = ofExcept result := by
  cases result <;> rfl

theorem runFrom_state_bind (next : σ → Action σ α) (s : Logged σ) :
    runFrom (state >>= next) s = runFrom (next s.state) s := rfl

section Within

variable {τ : Type} {inner : Action τ α} {s : τ} {read : Logged τ}

theorem runFrom_within_ok {a : α}
    (h : runFrom inner { state := s, log := start.log } = (.ok a, read)) :
    runFrom (within inner s : Action σ (α × τ)) start
      = (.ok (a, read.state), { start with log := read.log }) := by
  simp only [runFrom, within] at h ⊢
  rw [h]

theorem runFrom_within_error {error : Error}
    (h : runFrom inner { state := s, log := start.log } = (.error error, read)) :
    runFrom (within inner s : Action σ (α × τ)) start
      = (.error error, { start with log := read.log }) := by
  simp only [runFrom, within] at h ⊢
  rw [h]

end Within

/-! ### Kinds of failure -/

/-- Whatever it starts from, the action fails with failures of one kind only. -/
def FailsOnly (kind : Error → Prop) (action : Action σ α) : Prop :=
  ∀ start error left, runFrom action start = (.error error, left) → kind error

namespace FailsOnly

variable {kind : Error → Prop}

theorem bind (h₁ : FailsOnly kind action) (h₂ : ∀ a, FailsOnly kind (next a)) :
    FailsOnly kind (action >>= next) := by
  intro start error left h
  cases hf : runFrom action start with
  | mk result middle =>
      cases result with
      | ok a =>
          rw [runFrom_bind_ok hf] at h
          exact h₂ a middle error left h
      | error first =>
          rw [runFrom_bind_error hf] at h
          cases h
          exact h₁ start error left hf

theorem pure (a : α) : FailsOnly kind (Pure.pure a : Action σ α) := by
  intro start error left h
  cases h

theorem throw {error : Error} (h : kind error) :
    FailsOnly kind (MonadExcept.throw error : Action σ α) := by
  intro start other left hr
  cases hr
  exact h

/-- What would come after a failure does not matter. -/
theorem throw_bind {error : Error} (h : kind error) :
    FailsOnly kind ((MonadExcept.throw error : Action σ α) >>= next) := by
  intro start other left hr
  cases hr
  exact h

theorem state : FailsOnly kind (Action.state : Action σ σ) := by
  intro start error left h
  cases h

theorem put (s : σ) : FailsOnly kind (Action.put s) := by
  intro start error left h
  cases h

theorem log (level : Log.Level) (logger message : Text) :
    FailsOnly kind (Action.log level logger message : Action σ Unit) := by
  intro start error left h
  cases h

theorem ofExcept {result : Except Error α} (h : ∀ error, result = .error error → kind error) :
    FailsOnly kind (Action.ofExcept result : Action σ α) := by
  intro start error left hr
  rw [runFrom_ofExcept] at hr
  exact h error (congrArg Prod.fst hr)

theorem lift {result : Except Error α} (h : ∀ error, result = .error error → kind error) :
    FailsOnly kind (liftM result : Action σ α) := by
  rw [liftM_eq_ofExcept]
  exact ofExcept h

end FailsOnly

/-! ### What is kept -/

/-- From whatever has the property, and whatever its result, the action leaves what has it. -/
def Keeps (kept : Logged σ → Prop) (action : Action σ α) : Prop :=
  ∀ start, kept start → kept (runFrom action start).2

namespace Keeps

variable {kept : Logged σ → Prop}

theorem bind (h₁ : Keeps kept action) (h₂ : ∀ a, Keeps kept (next a)) :
    Keeps kept (action >>= next) := by
  intro start h
  have first := h₁ start h
  cases hf : runFrom action start with
  | mk result middle =>
      rw [hf] at first
      cases result with
      | ok a =>
          rw [runFrom_bind_ok hf]
          exact h₂ a middle first
      | error error =>
          rw [runFrom_bind_error hf]
          exact first

theorem pure (a : α) : Keeps kept (Pure.pure a : Action σ α) := fun _ h => h

theorem throw (error : Error) : Keeps kept (MonadExcept.throw error : Action σ α) := fun _ h => h

/-- What would come after a failure does not matter. -/
theorem throw_bind (error : Error) :
    Keeps kept ((MonadExcept.throw error : Action σ α) >>= next) := fun _ h => h

theorem state : Keeps kept (Action.state : Action σ σ) := fun _ h => h

theorem ofExcept (result : Except Error α) : Keeps kept (Action.ofExcept result : Action σ α) := by
  intro start h
  rw [runFrom_ofExcept]
  exact h

theorem lift (result : Except Error α) : Keeps kept (liftM result : Action σ α) := by
  rw [liftM_eq_ofExcept]
  exact ofExcept result

end Keeps

/-! ### Loggers -/

/-- The records that the action logs are for some loggers only. -/
abbrev LogsTo (names : List Text) (action : Action σ α) : Prop :=
  Keeps (fun s => ∀ record ∈ s.log, record.logger ∈ names) action

namespace LogsTo

variable {τ : Type} {names : List Text}

theorem put (s : σ) : LogsTo names (Action.put s) := fun _ h => h

theorem log (level : Log.Level) {logger : Text} (message : Text) (h : logger ∈ names) :
    LogsTo names (Action.log level logger message : Action σ Unit) := by
  intro start logged record hr
  rcases List.mem_append.mp hr with old | new
  · exact logged record old
  · cases List.mem_singleton.mp new
    exact h

theorem within {action : Action τ α} (h : LogsTo names action) (s : τ) :
    LogsTo names (Action.within action s : Action σ (α × τ)) := by
  intro start logged
  have left := h { state := s, log := start.log } logged
  cases run : runFrom action { state := s, log := start.log } with
  | mk result read =>
      rw [run] at left
      cases result with
      | ok a =>
          rw [runFrom_within_ok run]
          exact left
      | error error =>
          rw [runFrom_within_error run]
          exact left

end LogsTo

end Classwright.Action
