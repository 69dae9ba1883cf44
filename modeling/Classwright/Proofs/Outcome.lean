import Classwright.Error
import Mathlib.Data.List.Forall2

/-!
# Outcome — computations that may fail

A computation that may fail has succeeded exactly when all its parts have, and its failure is one of
its parts.

* `Outcome.bind_eq_ok_iff`, `Outcome.pure_eq_ok_iff`: the parts of a sequence.
* `Outcome.mapM_eq_ok_iff`: the parts of a traversal, element by element.
* `Outcome.exists_of_mapM_eq_error`: the element at which a traversal has failed.
* `Outcome.FailsIn`: a computation whose failure, if any, is of one kind.
-/

namespace Classwright.Outcome

variable {ε α β : Type}

instance instDecidableEqExcept [DecidableEq ε] [DecidableEq α] : DecidableEq (Except ε α)
  | .ok a, .ok b => decidable_of_iff (a = b) (by rw [Except.ok.injEq])
  | .error e, .error f => decidable_of_iff (e = f) (by rw [Except.error.injEq])
  | .ok _, .error _ => .isFalse (nomatch ·)
  | .error _, .ok _ => .isFalse (nomatch ·)

@[simp] theorem bind_eq_ok_iff {first : Except ε α} {next : α → Except ε β} {b : β} :
    first >>= next = .ok b ↔ ∃ a, first = .ok a ∧ next a = .ok b := by
  cases first <;> simp [bind, Except.bind]

@[simp] theorem pure_eq_ok_iff {a b : α} : (pure a : Except ε α) = .ok b ↔ a = b := by
  simp [pure, Except.pure]

theorem bind_eq_error_iff {first : Except ε α} {next : α → Except ε β} {fault : ε} :
    first >>= next = .error fault ↔
      first = .error fault ∨ ∃ a, first = .ok a ∧ next a = .error fault := by
  cases first <;> simp [bind, Except.bind]

/-- A traversal has succeeded exactly when each element has its result. -/
theorem mapM_eq_ok_iff {f : α → Except ε β} {xs : List α} {ys : List β} :
    xs.mapM f = .ok ys ↔ List.Forall₂ (fun x y => f x = .ok y) xs ys := by
  induction xs generalizing ys with
  | nil =>
      rw [List.mapM_nil, pure_eq_ok_iff, List.forall₂_nil_left_iff]
      exact eq_comm
  | cons x xs ih =>
      rw [List.mapM_cons, List.forall₂_cons_left_iff]
      simp only [bind_eq_ok_iff, pure_eq_ok_iff]
      constructor
      · rintro ⟨y, hy, ys, hys, rfl⟩
        exact ⟨y, ys, hy, ih.mp hys, rfl⟩
      · rintro ⟨y, ys, hy, hys, rfl⟩
        exact ⟨y, hy, ys, ih.mpr hys, rfl⟩

/-- Every result of a traversal is that of an element. -/
theorem exists_of_mem_mapM {f : α → Except ε β} {xs : List α} {ys : List β} {y : β}
    (h : xs.mapM f = .ok ys) (hy : y ∈ ys) : ∃ x ∈ xs, f x = .ok y := by
  obtain ⟨i, hi, rfl⟩ := List.getElem_of_mem hy
  obtain ⟨lengths, related⟩ := List.forall₂_iff_get.mp (mapM_eq_ok_iff.mp h)
  exact ⟨xs[i], List.getElem_mem _, related i (lengths ▸ hi) hi⟩

/-- The failure of a traversal is that of an element. -/
theorem exists_of_mapM_eq_error {f : α → Except ε β} {xs : List α} {fault : ε}
    (h : xs.mapM f = .error fault) : ∃ x ∈ xs, f x = .error fault := by
  induction xs with
  | nil => cases h
  | cons x xs ih =>
      rw [List.mapM_cons, bind_eq_error_iff] at h
      rcases h with h | ⟨y, -, h⟩
      · exact ⟨x, List.mem_cons_self, h⟩
      · rcases bind_eq_error_iff.mp h with h | ⟨ys, -, h⟩
        · obtain ⟨z, hz, he⟩ := ih h
          exact ⟨z, List.mem_cons_of_mem _ hz, he⟩
        · cases h

/-! ### Kinds of failure -/

/-- If the computation fails, its failure is of the kind. -/
def FailsIn (kind : ε → Prop) (result : Except ε α) : Prop :=
  ∀ fault, result = .error fault → kind fault

namespace FailsIn

variable {kind : ε → Prop} {first : Except ε α} {next : α → Except ε β}

theorem ok (a : α) : FailsIn kind (.ok a) := by
  intro fault h
  cases h

theorem error {fault : ε} (h : kind fault) : FailsIn kind (.error fault : Except ε α) := by
  intro other he
  cases he
  exact h

theorem bind (h₁ : FailsIn kind first) (h₂ : ∀ a, FailsIn kind (next a)) :
    FailsIn kind (first >>= next) := by
  intro fault h
  rcases bind_eq_error_iff.mp h with h | ⟨a, -, h⟩
  · exact h₁ fault h
  · exact h₂ a fault h

end FailsIn

end Classwright.Outcome
