import Classwright.Error

/-!
# Stateful — computations with a state that may fail

Actions and writings are both functions from a state to a result and a state.  A sequence of two
runs the second from where the first has left, unless the first fails.

* `Stateful.bind_of_ok`, `Stateful.bind_of_error`: the two cases of a sequence.
* `Stateful.of_bind_ok`: the parts of a sequence that has succeeded.
* `Stateful.after`: the state that is left of computations one after another, whatever becomes of
  each; `Stateful.after_keeps` and `Stateful.after_follows` take what each does to what all do.
-/

namespace Classwright.Stateful

variable {σ α β : Type} {first : ExceptT Error (StateM σ) α}
  {next : α → ExceptT Error (StateM σ) β} {start left : σ}

theorem bind_of_ok {a : α} (h : first start = (.ok a, left)) :
    (first >>= next) start = next a left := by
  simp only [bind, ExceptT.bind, ExceptT.mk, StateT.bind]
  rw [h]
  rfl

theorem bind_of_error {error : Error} (h : first start = (.error error, left)) :
    (first >>= next) start = (.error error, left) := by
  simp only [bind, ExceptT.bind, ExceptT.mk, StateT.bind]
  rw [h]
  rfl

theorem of_bind_ok {b : β} (h : (first >>= next) start = (.ok b, left)) :
    ∃ a middle, first start = (.ok a, middle) ∧ next a middle = (.ok b, left) := by
  cases hf : first start with
  | mk result middle =>
      cases result with
      | error error => rw [bind_of_error hf] at h; cases h
      | ok a => exact ⟨a, middle, rfl, by rw [← h, bind_of_ok hf]⟩

/-! ### One after another -/

/-- The state after computations of which each starts from where the one before has left, whether
or not that one has failed. -/
def after {ι : Type} (run : ι → ExceptT Error (StateM σ) α) (start : σ) (steps : List ι) : σ :=
  steps.foldl (fun s step => (run step s).2) start

section After

variable {ι : Type} {run : ι → ExceptT Error (StateM σ) α}

theorem after_cons (s : σ) (step : ι) (steps : List ι) :
    after run s (step :: steps) = after run (run step s).2 steps := rfl

/-- What each step keeps, all of them keep. -/
theorem after_keeps {P : σ → Prop} (keeps : ∀ s step, P s → P (run step s).2) {s : σ} (h : P s)
    (steps : List ι) : P (after run s steps) := by
  induction steps generalizing s with
  | nil => exact h
  | cons step rest ih => exact ih (keeps s step h)

/-- If each step leads from the state of one thing to the state of the next, so do all of them. -/
theorem after_follows {τ : Type} {state : τ → σ} {next : τ → ι → τ}
    (follows : ∀ t step, (run step (state t)).2 = state (next t step)) (t : τ) (steps : List ι) :
    after run (state t) steps = state (steps.foldl next t) := by
  induction steps generalizing t with
  | nil => rfl
  | cons step rest ih => rw [after_cons, follows, ih, List.foldl_cons]

end After

end Classwright.Stateful
